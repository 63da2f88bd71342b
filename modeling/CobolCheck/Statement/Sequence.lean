import CobolCheck.Statement.Computation
import CobolCheck.Statement.Control
import CobolCheck.Statement.Exchange
import CobolCheck.Statement.Storage

/-!
# Sequences of statements

At the top level statements form sentences, each closed by a separator period.
Inside another statement they form a sequence that the other statement closes,
so no period belongs to it. Nested sequences are read down to a fixed depth:
the depth that is left decreases with each of them.
-/

namespace CobolCheck

namespace Form

/-- A statement that is not supported is reported and passed over, up to the
next statement and past its END marker. -/
def unsupported (keyword : String) : Form :=
  all [report (.general (.unsupportedStatement keyword)), skip,
    many (.not .sentenceBoundary) skip, branch (.is ("END-" ++ keyword)) skip done]

/-- The form of the statement that begins with a word. -/
def ofKeyword (keyword : String) : Form :=
  match keyword with
  | "ACCEPT" => acceptItem
  | "ADD" => add
  | "ALLOCATE" => allocate
  | "CALL" => call
  | "CANCEL" => cancel
  | "CLOSE" => closeFiles
  | "COMMIT" => expect "COMMIT"
  | "COMPUTE" => compute
  | "CONTINUE" => continuing
  | "DELETE" => delete
  | "DISPLAY" => display
  | "DIVIDE" => divide
  | "EXIT" => exit
  | "FREE" => free
  | "GENERATE" => generate
  | "GO" => goTo
  | "GOBACK" => goBack
  | "IF" => ifElse
  | "INITIATE" => reportStatement "INITIATE"
  | "MOVE" => move
  | "MULTIPLY" => multiply
  | "RAISE" => raise
  | "RELEASE" => release
  | "RESUME" => resume
  | "RETURN" => returnRecord
  | "REWRITE" => replaceRecord
  | "ROLLBACK" => expect "ROLLBACK"
  | "STOP" => stop
  | "SUBTRACT" => subtract
  | "SUPPRESS" => suppress
  | "TERMINATE" => reportStatement "TERMINATE"
  | "UNLOCK" => unlock
  | "VALIDATE" => validate
  | keyword => unsupported keyword

end Form

namespace Analysis

/-! ## Statements -/

/-- Reads one statement; `inner` reads the statements nested in it. -/
def statement (inner : Analysis Unit) : Analysis Unit := do
  let keyword ← word
  (Form.ofKeyword keyword).run inner

/-! ## Nested sequences -/

/-- Notes that a nested sequence begins. -/
def enter : Analysis Unit :=
  modify fun state =>
    { state with
      nesting := state.nesting + 1
      deepest := max state.deepest (state.nesting + 1) }

/-- Notes that a nested sequence ends. -/
def leave : Analysis Unit :=
  modify fun state => { state with nesting := state.nesting - 1 }

/-- How many IF statements are open after a word, if `depth` were open before. -/
def openIfs (depth : Nat) (word : String) : Nat :=
  if word = "IF" then depth + 1 else if word = "END-IF" then depth - 1 else depth

/-- Whether a scope that is passed over ends at the cursor, when `depth` IF
statements in it are open: at a period or the end of the input, and at the next
word that belongs to the statement around it. -/
def scopeEnd (depth : Nat) : Test :=
  let outside := .or .eof (.is ".")
  if depth = 0 then .or outside (.or (.is "ELSE") .endMarker) else outside

/-- Passes over the rest of a nested scope. -/
def skipScope : Analysis Unit :=
  discard <| loop (fun depth => do
    if ← ask (scopeEnd depth) then return none
    else
      let next := openIfs depth (← word)
      skip
      return some next) 0

/-- Reads a nested sequence of statements, when that many further sequences may
be nested. Without room for one it is reported and passed over. -/
def nestedStatements : Nat → Analysis Unit
  | 0 => do
      reportHere (.general .nestedTooDeeply)
      skipScope
  | room + 1 => do
      enter
      whilst .statement (statement (nestedStatements room))
      leave

/-- The greatest depth to which sequences of statements may be nested. -/
def maxNesting : Nat :=
  256

/-! ## Sentences -/

/-- Whether the cursor is where a sentence ends without a period. -/
def sentenceBreak : Test :=
  .or .eof (.or .statement (.or .unitStart .unitEnd))

/-- Passes over tokens up to the next sentence: past a period, or before a
statement, a source unit or the END marker of one. -/
def resumeAfterSentence : Analysis Unit := do
  whilst (.not (.or sentenceBreak (.is "."))) skip
  unless ← ask sentenceBreak do accept

/-- Reads one statement of a sentence and, if the sentence ends, its period. A
sentence without a period is reported once. -/
def sentencePart (limit : Nat) : Analysis Unit := do
  statement (nestedStatements limit)
  unless ← ask .statement do
    unless ← optional "." do
      reportHere (.expectedLiteral ".")
      resumeAfterSentence

/-- Reads sentences, in which statements may be nested down to a limit. -/
def sentences (limit : Nat) : Analysis Unit :=
  whilst .statement (sentencePart limit)

end Analysis

end CobolCheck
