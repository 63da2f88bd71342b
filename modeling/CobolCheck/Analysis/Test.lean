import CobolCheck.Analysis.State
import CobolCheck.Symbol.Level
import CobolCheck.Token.Word

/-!
# Tests on the tokens ahead

Every choice of the statement grammar is made by a test on the tokens from the
cursor on. Tests are data, so a fact about all of them is one induction.
-/

namespace CobolCheck

/-- A question about the tokens from the cursor on. -/
inductive Test where
  /-- Whether the token at an offset is one of the given words. -/
  | word (offset : Nat) (words : List String)
  /-- Whether the token at an offset has one of the given categories. -/
  | category (offset : Nat) (categories : List Category)
  /-- Whether the token at the cursor has the given context. -/
  | context (expected : Context)
  /-- Whether the token at the cursor has the shape of an END marker. -/
  | endMarker
  /-- Whether the cursor is at the level number of an item of a record. -/
  | subordinate
  | not (test : Test)
  | and (first second : Test)
  | or (first second : Test)

namespace Test

/-- The answer to a test. -/
def holds (state : State) : Test → Bool
  | word offset words => words.contains (state.lookahead offset).value
  | category offset categories => categories.contains (state.lookahead offset).category
  | .context expected => state.current.context == expected
  | endMarker => Word.isEndMarker state.current.value
  | subordinate =>
      state.current.category == .numeric && Level.isSubordinate state.current.value
  | not test => !test.holds state
  | and first second => first.holds state && second.holds state
  | or first second => first.holds state || second.holds state

/-- Whether the cursor is at the given word. -/
def is (word : String) : Test :=
  .word 0 [word]

/-- Whether the cursor is at one of the given words. -/
def isAny (words : List String) : Test :=
  .word 0 words

/-- Whether the token after the one at the cursor is the given word. -/
def next (word : String) : Test :=
  .word 1 [word]

/-- Whether the cursor is at a token of one of the given categories. -/
def has (categories : List Category) : Test :=
  .category 0 categories

/-- Whether the cursor is at an identifier. -/
def identifier : Test :=
  has [.identifier]

/-- Whether the cursor is at an end of input. -/
def eof : Test :=
  has [.eof]

/-- Whether the cursor is at a word that begins a statement. -/
def statement : Test :=
  .context .statement

/-- Whether the cursor is at a word that begins a data description clause. -/
def clause : Test :=
  .context .clause

/-- Whether the cursor is where a sequence of statements ends. -/
def sentenceBoundary : Test :=
  .or eof (.or statement (.or endMarker (isAny [".", "END", "ELSE"])))

/-- Whether the cursor is where the operands of a statement end. -/
def statementEnd : Test :=
  .or eof (.or statement (.or endMarker
    (isAny [".", "END", "ELSE", "NOT", "ON", "INVALID", "AT", "EXCEPTION", "SIZE"])))

/-- Whether the cursor is at the phrase NEXT SENTENCE. -/
def nextSentence : Test :=
  .and (is "NEXT") (next "SENTENCE")

/-- Whether the cursor is at a word that begins a source unit. -/
def unitStart : Test :=
  isAny ["IDENTIFICATION", "PROGRAM-ID", "FUNCTION-ID"]

/-- Whether the cursor is at the END marker of a source unit. -/
def unitEnd : Test :=
  .and (is "END") (.word 1 ["PROGRAM", "FUNCTION"])

@[simp]
theorem holds_not (state : State) (test : Test) :
    (Test.not test).holds state = !test.holds state :=
  rfl

@[simp]
theorem holds_and (state : State) (first second : Test) :
    (Test.and first second).holds state = (first.holds state && second.holds state) :=
  rfl

@[simp]
theorem holds_or (state : State) (first second : Test) :
    (Test.or first second).holds state = (first.holds state || second.holds state) :=
  rfl

theorem holds_is_iff (state : State) (word : String) :
    (is word).holds state = true ↔ state.current.value = word := by
  simp [is, holds, State.current]

/-- A test only sees what lies ahead. -/
theorem holds_congr {first second : State} (ahead : first.ahead = second.ahead)
    (sentinel : first.sentinel = second.sentinel) (test : Test) :
    test.holds first = test.holds second := by
  have look (offset : Nat) : first.lookahead offset = second.lookahead offset := by
    simp [State.lookahead, ahead, sentinel]
  induction test with
  | word offset words => simp [holds, look]
  | category offset categories => simp [holds, look]
  | context expected => simp [holds, State.current, look]
  | endMarker => simp [holds, State.current, look]
  | subordinate => simp [holds, State.current, look]
  | not test ih => simp [ih]
  | and _ _ ihFirst ihSecond => simp [ihFirst, ihSecond]
  | or _ _ ihFirst ihSecond => simp [ihFirst, ihSecond]

end Test

end CobolCheck
