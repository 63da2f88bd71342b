import CobolCheck.Expression.Arithmetic
import CobolCheck.Expression.Condition

/-!
# Statement forms

The general format of a statement is a value of type `Form`: words, operands,
expressions and phrases, put together by sequence, choice and repetition. A
form is run on the tokens ahead, where a nested sequence of statements is left
to another analysis. Since forms are data, what every step keeps every
statement keeps, by one induction.
-/

namespace CobolCheck

namespace Phrase

/-- Whether the positive form of a pair begins at an offset from the cursor.
The END of an END marker does not begin the phrase AT END. -/
def positiveAt (phrase : Phrase) (offset : Nat) : Test :=
  match phrase with
  | .sizeError =>
      .or (.and (.word offset ["ON"]) (.word (offset + 1) ["SIZE"])) (.word offset ["SIZE"])
  | .invalidKey => .word offset ["INVALID"]
  | .onException =>
      .or (.and (.word offset ["ON"]) (.word (offset + 1) ["EXCEPTION"]))
        (.word offset ["EXCEPTION"])
  | .atEnd =>
      .or (.and (.word offset ["AT"]) (.word (offset + 1) ["END"]))
        (.and (.word offset ["END"]) (.not (.word (offset + 1) ["PROGRAM", "FUNCTION"])))
  | .raisingStatus => .word offset ["RAISING"]

/-- Whether a form of a pair begins at the cursor. -/
def ahead (phrase : Phrase) : Polarity → Test
  | .positive => phrase.positiveAt 0
  | .negative =>
      match phrase with
      | .raisingStatus => .isAny ["WITH", "NORMAL", "ERROR"]
      | phrase => .and (.is "NOT") (phrase.positiveAt 1)

end Phrase

/-- The general format of a statement or of a part of one. -/
inductive Form where
  /-- Nothing. -/
  | done
  /-- One form and then another. -/
  | seq (first second : Form)
  /-- One of two forms, by a test. -/
  | branch (test : Test) (yes no : Form)
  /-- A form, as long as a test holds. -/
  | many (test : Test) (body : Form)
  /-- The token at the cursor, whatever it is. -/
  | accept
  /-- The token at the cursor is passed over. -/
  | skip
  /-- A word or symbol. -/
  | expect (literal : String)
  /-- One of several words, under another category if one is given. -/
  | choose (literals : List String) (category : Option Category)
  /-- A token of one of several categories. -/
  | operand (categories : List Category) (description : String)
  /-- A report at the cursor. -/
  | report (cause : Cause)
  /-- A condition up to a delimiter. -/
  | condition (delimiter : String)
  /-- An arithmetic expression. -/
  | arithmetic
  /-- A nested sequence of statements. -/
  | nested
  /-- Any number of conditional phrases of a pair, each in its own form, and
  then the END marker of the statement, which may be left out only if there is
  no phrase. Without a marker nothing follows the phrases. -/
  | phrases (phrase : Phrase) (positive negative : Form) (marker : Option String)

namespace Form

/-- The form of the pair that begins at the cursor, if any. -/
def phraseAhead (phrase : Phrase) : Analysis (Option Polarity) := do
  if ← Analysis.ask (phrase.ahead .positive) then return some .positive
  else if ← Analysis.ask (phrase.ahead .negative) then return some .negative
  else return none

/-- The form of the pair is found by looking only. -/
theorem run_phraseAhead (phrase : Phrase) (state : State) :
    phraseAhead phrase state =
      (if (phrase.ahead .positive).holds state then some .positive
        else if (phrase.ahead .negative).holds state then some .negative else none, state) := by
  cases positive : (phrase.ahead .positive).holds state <;>
    cases negative : (phrase.ahead .negative).holds state <;>
    simp only [phraseAhead, Analysis.ask, bind, StateT.bind, positive, negative, if_true,
      Bool.false_eq_true, if_false] <;> rfl

/-- Reads one conditional phrase. A form that the statement already has is
reported, but read all the same. -/
def phraseRound (phrase : Phrase) (body : Polarity → Analysis Unit) (seen : SeenForms) :
    Analysis (Option SeenForms) := do
  match ← phraseAhead phrase with
  | none => return none
  | some polarity =>
      if seen.has polarity then
        Analysis.reportHere (.general (.repeatedPhrase phrase polarity))
      body polarity
      return some (seen.insert polarity)

/-- Reads the END marker of a statement, if it is there. A statement that has a
conditional phrase must have it. -/
def endMarker (required : Bool) (marker : String) : Analysis Unit := do
  unless ← Analysis.optional marker do
    if required then Analysis.reportHere (.expectedLiteral marker)

/-- Runs a form on the tokens ahead; `inner` reads nested statements. -/
def run (inner : Analysis Unit) : Form → Analysis Unit
  | done => return ()
  | seq first second => do
      first.run inner
      second.run inner
  | branch test yes no => do
      if ← Analysis.ask test then yes.run inner else no.run inner
  | many test body => Analysis.whilst test (body.run inner)
  | accept => Analysis.accept
  | skip => Analysis.skip
  | expect literal => Analysis.expect literal
  | choose literals category => Analysis.choose literals category
  | operand categories description => discard <| Analysis.operand categories description
  | report cause => Analysis.reportHere cause
  | condition delimiter => Analysis.condition delimiter
  | arithmetic => discard Analysis.arithmetic
  | nested => inner
  | phrases phrase positive negative marker => do
      let seen ← Analysis.loop (phraseRound phrase fun
        | .positive => positive.run inner
        | .negative => negative.run inner) {}
      match marker with
      | some marker => endMarker (seen.positive || seen.negative) marker
      | none => return ()

/-! ## Composite forms -/

/-- Several forms, one after the other. -/
def all (forms : List Form) : Form :=
  forms.foldr seq done

@[simp]
theorem run_all_nil (inner : Analysis Unit) : (all []).run inner = pure () :=
  rfl

theorem run_all_cons (inner : Analysis Unit) (form : Form) (forms : List Form) :
    (all (form :: forms)).run inner = form.run inner >>= fun _ => (all forms).run inner :=
  rfl

/-- Two lists of forms run one after the other. -/
theorem run_all_append (inner : Analysis Unit) (first second : List Form) :
    (all (first ++ second)).run inner =
      (all first).run inner >>= fun _ => (all second).run inner := by
  induction first with
  | nil => rfl
  | cons form rest ih => rw [List.cons_append, run_all_cons, run_all_cons, ih, bind_assoc]

/-- A word that may be left out. -/
def optional (literal : String) : Form :=
  branch (.is literal) accept done

/-- A part that is there exactly if a test holds. -/
def whenever (test : Test) (forms : List Form) : Form :=
  branch test (all forms) done

/-- A word and, if it is there, what belongs to it. -/
def optionally (literal : String) (forms : List Form) : Form :=
  whenever (.is literal) (accept :: forms)

/-- Any number of tokens of some categories. -/
def operands (categories : List Category) : Form :=
  many (.has categories) accept

/-- One or more tokens of some categories. That there is none is reported once. -/
def operands₁ (categories : List Category) (description : String) : Form :=
  seq (branch (.has categories) done (report (.expectedCategory description)))
    (operands categories)

/-- An identifier. -/
def identifier : Form :=
  operand [.identifier] "identifier"

/-- One or more identifiers. -/
def identifiers : Form :=
  operands₁ [.identifier] "identifier"

/-- An identifier or a numeric literal. -/
def identifierOrNumber : Form :=
  operand [.identifier, .numeric] "identifier or numeric literal"

/-- An identifier or a literal. -/
def value : Form :=
  operand [.identifier, .numeric, .string] "identifier or literal"

/-- A word that a statement must have here; the token in its place stays. -/
def missing (literal : String) : Form :=
  report (.expectedLiteral literal)

/-- An END marker that a statement must have. -/
def close (marker : String) : Form :=
  branch (.is marker) accept (missing marker)

/-- Everything up to the end of the statement is reported once and passed over. -/
def abandon (problem : Problem) : Form :=
  seq (report (.general problem)) (many (.not .statementEnd) skip)

/-- A list that ends the statement: it must be followed by the end of the statement. -/
def finish (problem : Problem) : Form :=
  branch .statementEnd done (abandon problem)

/-- One or more items, each begun by a test, that make up the rest of the statement. -/
def restOf (test : Test) (item : Form) (problem : Problem) : Form :=
  branch test (seq (many test item) (finish problem)) (abandon problem)

/-- One or more operands that make up the rest of the statement. -/
def operandList (categories : List Category) (problem : Problem) : Form :=
  restOf (.has categories) accept problem

end Form

end CobolCheck
