import CobolCheck.Analysis.Loop

/-!
# Matching tokens

The small analyses from which every rule of the grammar is composed. A token
that is expected but missing is reported, and the token found in its place is
passed over, so that an analysis goes on whatever it finds.
-/

namespace CobolCheck.Analysis

/-! ## Looking -/

/-- The token at the cursor. -/
def current : Analysis Token := fun state =>
  (state.current, state)

/-- The text of the token at an offset from the cursor. -/
def wordAt (offset : Nat) : Analysis String := fun state =>
  ((state.lookahead offset).value, state)

/-- The text of the token at the cursor. -/
def word : Analysis String :=
  wordAt 0

/-! ## Moving -/

/-- Passes over the token at the cursor without accepting it. -/
def skip : Analysis Unit :=
  modify State.skip

/-- Accepts the token at the cursor: it becomes part of the output. -/
def accept : Analysis Unit :=
  modify fun state => (state.emit state.current).skip

/-- Accepts the token at the cursor under another category. -/
def acceptAs (category : Category) : Analysis Unit :=
  modify fun state => (state.emit (state.current.retag category)).skip

/-! ## Reporting -/

/-- Reports a cause at a token. -/
def report (token : Token) (cause : Cause) : Analysis Unit :=
  modify (State.report token cause)

/-- Reports a cause at the cursor. -/
def reportHere (cause : Cause) : Analysis Unit :=
  modify fun state => state.report state.current cause

/-- Reports a problem at the token before the cursor. -/
def reportBefore (problem : Problem) : Analysis Unit :=
  modify fun state => state.report state.previous (.general problem)

/-! ## Matching -/

/-- Accepts the token at the cursor if the test holds. Otherwise reports the
cause there and passes over the token. Tells which of the two happened. -/
def acceptIf (test : Test) (cause : Cause) : Analysis Bool := do
  if ← ask test then
    accept
    return true
  else
    reportHere cause
    skip
    return false

/-- Matches a word or symbol. -/
def expect (literal : String) : Analysis Unit :=
  discard <| acceptIf (.is literal) (.expectedLiteral literal)

/-- Matches a word or symbol. That it is missing is a problem of the token before. -/
def expectOr (literal : String) (problem : Problem) : Analysis Unit := do
  if ← ask (.is literal) then accept
  else
    reportBefore problem
    skip

/-- Accepts a word or symbol if it is there, and tells whether it was. -/
def optional (literal : String) : Analysis Bool := do
  if ← ask (.is literal) then
    accept
    return true
  else return false

/-- Matches one of several words, which may get another category. -/
def choose (literals : List String) (category : Option Category) : Analysis Unit := do
  if ← ask (.isAny literals) then
    match category with
    | some category => acceptAs category
    | none => accept
  else
    reportHere (.expectedOneOf literals)
    skip

/-- Matches a token of one of several categories, and tells whether it did. -/
def operand (categories : List Category) (description : String) : Analysis Bool :=
  acceptIf (.has categories) (.expectedCategory description)

/-- Matches an identifier, and tells whether it did. -/
def identifier : Analysis Bool :=
  operand [.identifier] "identifier"

/-- Matches a numeric literal. -/
def number : Analysis Unit :=
  discard <| operand [.numeric] "numeric literal"

end CobolCheck.Analysis
