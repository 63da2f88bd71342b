import CobolCheck.Analysis.Matcher

/-!
# What an analysis can do

Every analysis is a sequence of moves, and there are only a few kinds of move:
a token is accepted, a token is passed over, a cause is reported, or the depth
of nesting is noted. `State.Move` says this once, together with what is known
when a move is made. A relation that contains every move and that moves one
after the other keep is `Closed`, and each analysis obeys every closed
relation.

A move is never made past a landmark, which is a token that some rule of the
grammar keeps to itself, such as the end of the input.
-/

namespace CobolCheck

/-- A token that an analysis must not accept, given by its text and its role. -/
structure Landmark where
  word : String
  category : Category
  context : Context := .plain
  deriving DecidableEq

namespace Landmark

/-- Whether a token is the landmark. -/
def Marks (landmark : Landmark) (token : Token) : Prop :=
  token.value = landmark.word ∧ token.category = landmark.category ∧
    token.context = landmark.context

/-- The end of the input. -/
def endOfInput : Landmark :=
  ⟨"EOF", .eof, .plain⟩

/-- The separator period. -/
def period : Landmark :=
  ⟨".", .symbol, .plain⟩

/-- The word END. -/
def unitEnd : Landmark :=
  ⟨"END", .reserved, .plain⟩

theorem endOfInput_marks (line column : Nat) :
    endOfInput.Marks (Token.endOfInput line column) :=
  ⟨rfl, rfl, rfl⟩

end Landmark

/-! ## Tests that exclude a landmark -/

namespace Test

/-- Whether the test can only hold if the token at an offset is not the landmark. -/
def avoids (landmark : Landmark) (offset : Nat) : Test → Bool
  | word place words => place == offset && !words.contains landmark.word
  | category place categories => place == offset && !categories.contains landmark.category
  | .context expected => offset == 0 && expected != landmark.context
  | endMarker => offset == 0 && !Word.isEndMarker landmark.word
  | subordinate => offset == 0 && landmark.category != .numeric
  | not _ => false
  | and first second => first.avoids landmark offset || second.avoids landmark offset
  | or first second => first.avoids landmark offset && second.avoids landmark offset

theorem not_marks_of_holds {landmark : Landmark} {offset : Nat} {state : State} {test : Test}
    (avoided : test.avoids landmark offset = true) (held : test.holds state = true) :
    ¬ landmark.Marks (state.lookahead offset) := by
  rintro ⟨value_eq, category_eq, context_eq⟩
  induction test with
  | word place words =>
      simp only [avoids, Bool.and_eq_true, beq_iff_eq] at avoided
      obtain ⟨rfl, absent⟩ := avoided
      simp only [holds, value_eq] at held
      rw [held] at absent
      contradiction
  | category place categories =>
      simp only [avoids, Bool.and_eq_true, beq_iff_eq] at avoided
      obtain ⟨rfl, absent⟩ := avoided
      simp only [holds, category_eq] at held
      rw [held] at absent
      contradiction
  | context expected =>
      simp only [avoids, Bool.and_eq_true, beq_iff_eq, bne_iff_ne] at avoided
      obtain ⟨rfl, differs⟩ := avoided
      simp only [holds, State.current, context_eq, beq_iff_eq] at held
      exact differs held.symm
  | endMarker =>
      simp only [avoids, Bool.and_eq_true, beq_iff_eq] at avoided
      obtain ⟨rfl, plain⟩ := avoided
      simp only [holds, State.current, value_eq] at held
      rw [held] at plain
      contradiction
  | subordinate =>
      simp only [avoids, Bool.and_eq_true, beq_iff_eq, bne_iff_ne] at avoided
      obtain ⟨rfl, differs⟩ := avoided
      simp only [holds, State.current, category_eq, Bool.and_eq_true, beq_iff_eq] at held
      exact differs held.1
  | not test _ => simp [avoids] at avoided
  | and first second ihFirst ihSecond =>
      simp only [avoids, Bool.or_eq_true] at avoided
      simp only [holds_and, Bool.and_eq_true] at held
      exact avoided.elim (ihFirst · held.1) (ihSecond · held.2)
  | or first second ihFirst ihSecond =>
      simp only [avoids, Bool.and_eq_true] at avoided
      simp only [holds_or, Bool.or_eq_true] at held
      exact held.elim (ihFirst avoided.1) (ihSecond avoided.2)

theorem holds_eof_iff (state : State) :
    eof.holds state = true ↔ state.current.category = .eof := by
  simp [eof, has, holds, State.current]

theorem holds_has_iff (categories : List Category) (state : State) :
    (has categories).holds state = true ↔ state.current.category ∈ categories := by
  simp [has, holds, State.current]

theorem holds_word_iff (offset : Nat) (words : List String) (state : State) :
    (word offset words).holds state = true ↔ (state.lookahead offset).value ∈ words := by
  simp [holds]

theorem avoids_is {landmark : Landmark} {word : String} (differs : word ≠ landmark.word) :
    (is word).avoids landmark 0 = true := by
  simp [is, avoids, differs.symm]

theorem avoids_isAny {landmark : Landmark} {words : List String}
    (differs : landmark.word ∉ words) : (isAny words).avoids landmark 0 = true := by
  simp [isAny, avoids, differs]

theorem avoids_has {landmark : Landmark} {categories : List Category}
    (differs : landmark.category ∉ categories) :
    (has categories).avoids landmark 0 = true := by
  simp [has, avoids, differs]

end Test

/-- What is read past the last token is the end of the input. -/
theorem State.marks_sentinelAfter (tokens : List Token) :
    Landmark.endOfInput.Marks (sentinelAfter tokens) := by
  unfold sentinelAfter
  split
  · exact Landmark.endOfInput_marks _ _
  · exact Landmark.endOfInput_marks _ _

/-! ## Moves -/

/-- The words that name a device after a word. -/
def deviceWords : String → List String
  | "UPON" => ["STANDARD-OUTPUT", "STANDARD-ERROR"]
  | "FROM" => ["STANDARD-INPUT", "COMMAND-LINE"]
  | _ => []

namespace State

/-- Accepting a token brings every other token one place nearer. -/
@[simp]
theorem lookahead_skip (state : State) (offset : Nat) :
    state.skip.lookahead offset = state.lookahead (offset + 1) := by
  unfold skip lookahead
  cases ahead : state.ahead with
  | nil => simp [ahead]
  | cons token rest => simp

@[simp]
theorem lookahead_emit (token : Token) (state : State) (offset : Nat) :
    (state.emit token).lookahead offset = state.lookahead offset :=
  rfl

@[simp]
theorem output_skip (state : State) : state.skip.output = state.output := by
  unfold skip
  split <;> rfl

@[simp]
theorem reports_skip (state : State) : state.skip.reports = state.reports := by
  unfold skip
  split <;> rfl

theorem skip_of_ahead_cons {state : State} {token : Token} {rest : List Token}
    (next : state.ahead = token :: rest) :
    state.skip = { state with behind := token :: state.behind, ahead := rest } := by
  unfold skip
  split <;> simp_all

/-- A single move of an analysis that accepts no landmark. Once something has
been reported, tokens are passed over and accepted freely. -/
inductive Move (landmark : Landmark) : State → State → Prop
  | accept (state : State) (clear : ¬ landmark.Marks state.current) :
      Move landmark state (state.emit state.current).skip
  | acceptDevice (state : State) (last : Token) (clear : ¬ landmark.Marks state.current)
      (accepted : state.output.head? = some last)
      (named : state.current.value ∈ deviceWords last.value) :
      Move landmark state (state.emit (state.current.retag .device)).skip
  | recover (state : State) (reported : state.reports ≠ []) :
      Move landmark state (state.emit state.current).skip
  | report (state : State) (token : Token) (cause : Cause) :
      Move landmark state (state.report token cause)
  | skip (state : State) (reported : state.reports ≠ []) : Move landmark state state.skip
  | nest (state : State) (nesting deepest : Nat) :
      Move landmark state { state with nesting, deepest }

/-- What no move changes. Reports are never withdrawn. -/
structure Still (before after : State) : Prop where
  tokens_eq : after.tokens = before.tokens
  sentinel_eq : after.sentinel = before.sentinel
  unit_eq : after.unit = before.unit
  table_eq : after.table = before.table
  reports : before.reports <:+ after.reports

theorem still_skip (state : State) : state.Still state.skip := by
  cases next : state.ahead with
  | nil =>
      rw [skip_of_ahead_nil next]
      exact ⟨rfl, rfl, rfl, rfl, List.suffix_rfl⟩
  | cons token rest =>
      refine ⟨tokens_skip state, ?_, ?_, ?_, ?_⟩
      all_goals simp [skip, next]

theorem still_emit_skip (token : Token) (state : State) : state.Still (state.emit token).skip :=
  have still := (state.emit token).still_skip
  ⟨still.tokens_eq, still.sentinel_eq, still.unit_eq, still.table_eq, still.reports⟩

theorem Move.still {landmark : Landmark} {before after : State}
    (move : before.Move landmark after) : before.Still after := by
  cases move with
  | accept => exact still_emit_skip _ _
  | acceptDevice => exact still_emit_skip _ _
  | recover => exact still_emit_skip _ _
  | report => exact ⟨rfl, rfl, rfl, rfl, List.suffix_cons _ _⟩
  | skip => exact still_skip _
  | nest => exact ⟨rfl, rfl, rfl, rfl, List.suffix_rfl⟩

end State

end CobolCheck
