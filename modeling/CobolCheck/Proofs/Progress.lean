import CobolCheck.Check
import CobolCheck.Proofs.Division.Further

/-!
# Progress

Whatever tokens an analysis reads, none of its routines moves the cursor back or beyond the
tokens, and every round of each of its loops moves the cursor on. So the limit on the rounds of
a loop is never felt: a loop ends only because a round asks for no other one. An analysis
therefore ends with the cursor at an end of input, among the tokens or past the last of them.
-/

namespace CobolCheck

open Analysis State

/-- Whether the cursor stays among the same tokens and does not move back. What is read past
the last of them stays the end of the input. -/
structure State.Advances (before after : State) : Prop where
  tokens_eq : after.tokens = before.tokens
  cursor_le : before.cursor ≤ after.cursor
  cursor_le_length : after.cursor ≤ before.tokens.length
  ended : before.Ended → after.Ended

theorem State.Further.advances {count : Nat} {before after : State}
    (further : Further count before after) : before.Advances after where
  tokens_eq := further.tokens_eq
  cursor_le := further.cursor_le
  cursor_le_length := by
    rw [← further.tokens_eq]
    exact after.cursor_le
  ended := further.ended

namespace Analysis

variable {α : Type} {limit : Nat}

/-- The routines of which an analysis is made, down to those that match a single token. -/
inductive Routine (limit : Nat) (analysis : Analysis α) : Prop
  | matcher (matcher : Matcher analysis)
  | statement (routine : StatementRoutine limit analysis)
  | division (routine : DivisionRoutine limit analysis)

theorem Routine.further {analysis : Analysis α} (routine : Routine limit analysis) :
    Obeys (Further 0) analysis := by
  cases routine with
  | matcher matcher => exact matcher.further
  | statement routine => exact routine.further
  | division routine => exact routine.further

/-! ## Loops -/

/-- The tests under which an analysis repeats something, and what it repeats: statements, the
parts of a statement, the entries of a section and of a record, and what is passed over. -/
inductive Guards (limit : Nat) : Test → Analysis Unit → Prop
  | sentences : Guards limit .statement (sentencePart limit)
  | nested (room : Nat) : Guards limit .statement (statement (nestedStatements room))
  | part {keyword : String} {test : Test} {body : Form} (room : Nat)
      (within : (Form.many test body).Part (Form.ofKeyword keyword)) :
      Guards limit test (body.run (nestedStatements room))
  | entries : Guards limit (.has [.numeric]) entries
  | items : Guards limit .subordinate storageEntry
  | sentence : Guards limit (.not (.or sentenceBreak (.is "."))) skip
  | leftover : Guards limit (.not .eof) skip

/-- The loops of an analysis, each with its round and the value that it begins with. -/
inductive Repeats (limit : Nat) :
    {α : Type} → Analysis α → (α → Analysis (Option α)) → α → Prop
  | units : Repeats limit (sourceUnits limit) (fun _ => nextUnit limit) ()
  | headers : Repeats limit (procedureBody limit) (fun _ => headerRound limit) ()
  | clauses (key : Option SymbolKey) : Repeats limit (clauses key) (clauseRound key) false
  | phrases {keyword : String} {phrase : Phrase} {positive negative : Form}
      {marker : Option String} (room : Nat)
      (within : (Form.phrases phrase positive negative marker).Part (Form.ofKeyword keyword)) :
      Repeats limit
        (loop (Form.phraseRound phrase
          (Form.phraseBody (nestedStatements room) positive negative)) {})
        (Form.phraseRound phrase (Form.phraseBody (nestedStatements room) positive negative)) {}
  | terms (delimiter : String) :
      Repeats limit (loop (readTerm delimiter) []) (readTerm delimiter) []
  | arithmetic : Repeats limit (loop readArithmetic {}) readArithmetic {}
  | scope : Repeats limit (loop scopeRound 0) scopeRound 0
  | whilst {test : Test} {body : Analysis Unit} (guards : Guards limit test body) :
      Repeats limit (whilst test body) (under test body) ()

theorem Guards.progresses {test : Test} {body : Analysis Unit} (guards : Guards limit test body) :
    Progresses (under test body) := by
  cases guards with
  | sentences => exact progresses_under rfl (further_sentencePart limit)
  | nested room => exact progresses_under rfl (further_statement (further_nestedStatements room))
  | part room within => exact progresses_many within (further_nestedStatements room)
  | entries => exact progresses_under rfl further_entries
  | items => exact progresses_under rfl further_storageEntry
  | sentence => exact progresses_under rfl further_skip
  | leftover => exact progresses_under rfl further_skip

namespace Repeats

variable {repeated : Analysis α} {round : α → Analysis (Option α)} {start : α}

theorem progresses (repeats : Repeats limit repeated round start) : Progresses round := by
  cases repeats with
  | units => exact progresses_nextUnit limit
  | headers => exact progresses_headerRound limit
  | clauses key => exact progresses_clauseRound key
  | phrases room within => exact progresses_phrases within (further_nestedStatements room)
  | terms delimiter => exact progresses_readTerm delimiter
  | arithmetic => exact progresses_readArithmetic
  | scope => exact progresses_scopeRound
  | whilst guards => exact guards.progresses

theorem eq_loop (repeats : Repeats limit repeated round start) : repeated = loop round start := by
  cases repeats <;> rfl

/-- A loop goes through its rounds up to the first that asks for no other one. -/
theorem runs (repeats : Repeats limit repeated round start) {state : State}
    (ended : state.Ended) : Runs round start state (repeated state).1 (repeated state).2 := by
  rw [repeats.eq_loop]
  exact repeats.progresses.runs start ended

end Repeats

/-! ## The end of an analysis -/

/-- A loop under a test ends where the test fails. -/
theorem Runs.holds_eq_false {test : Test} {body : Analysis Unit} {value result : Unit}
    {state final : State} (runs : Runs (under test body) value state result final) :
    test.holds final = false := by
  induction runs with
  | last stops =>
      rw [under] at stops
      split at stops
      · cases stops
      · next fails =>
        obtain ⟨-, rfl⟩ := Prod.mk.inj stops
        exact Bool.eq_false_iff.mpr fails
  | next _ _ _ ih => exact ih

/-- What is left over ends with an end of input. -/
theorem holds_eof_leftover {state : State} (ended : state.Ended) :
    Test.eof.holds (leftover state).2 = true := by
  rw [leftover, run_bind, run_ask, run_ite]
  split
  · next held => exact held
  · have reported := further_reportHere (.general .leftoverTokens) state
    have repeats : Repeats 0 (whilst (.not .eof) skip) _ () := .whilst .leftover
    exact Bool.not_eq_eq_eq_not.mp (repeats.runs (reported.ended ended)).holds_eq_false

end Analysis

/-- A cursor that is at an end of input is at a token of that kind or past the last token. -/
theorem State.cursor_of_holds_eof {state : State} (held : Test.eof.holds state = true) :
    state.cursor = state.tokens.length ∨
      ∃ token, state.tokens[state.cursor]? = some token ∧ token.category = .eof := by
  have category := (Test.holds_eof_iff state).mp held
  cases ahead : state.ahead with
  | nil =>
      left
      rw [cursor, tokens, ahead, List.append_nil, List.length_reverse]
  | cons token rest =>
      right
      refine ⟨token, ?_, by rwa [current_of_ahead_cons ahead] at category⟩
      simp [cursor, tokens, ahead]

/-- Every routine leaves the cursor among the same tokens and never moves it back. Every loop
goes through its rounds up to the first that asks for no other one, and every round that asks
for another one moves the cursor, in whatever state it begins; so does every source unit that
begins before the end of the input, and every data section that begins at its keyword. The end
of the input is read past the tokens of an analysis, which ends with the cursor at an end of
input among the tokens or past the last of them. -/
theorem analysis_progresses (limit : Nat) :
    (∀ {α : Type} {analysis : Analysis α}, Routine limit analysis →
      ∀ state : State, state.Advances (analysis state).2) ∧
    (∀ {α : Type} {repeated : Analysis α} {round : α → Analysis (Option α)} {start : α},
      Repeats limit repeated round start → Progresses round ∧
        ∀ state : State, state.Ended → Runs round start state (repeated state).1 (repeated state).2) ∧
    (∀ state : State, state.Ended → Test.eof.holds state = false →
      state.cursor < (sourceUnit limit state).2.cursor) ∧
    (∀ (kind : DataSection) (state : State), state.Ended → (Test.is kind.keyword).holds state = true →
      state.cursor < (dataSection kind state).2.cursor) ∧
    ∀ file tokens table, (State.initial tokens table).Ended ∧
      let final := (sourceText limit (.initial tokens table)).2
      analyzeWithin limit file tokens table = final.outcome file ∧ final.tokens = tokens ∧
        (final.cursor = tokens.length ∨
          ∃ token, tokens[final.cursor]? = some token ∧ token.category = .eof) := by
  refine ⟨fun routine state => (routine.further state).advances,
    fun repeats => ⟨repeats.progresses, fun state => repeats.runs⟩, ?_, ?_, ?_⟩
  · intro state ended begins
    have more : state.ahead ≠ [] := fun finished => by
      rw [ended.holds_eof finished] at begins
      cases begins
    exact (further_sourceUnit limit state).cursor_lt more
  · intro kind state ended begins
    refine (further_dataSection kind state).cursor_lt (ended.ahead_ne_nil ?_ begins)
    cases kind <;> rfl
  · intro file tokens table
    have ended := ended_initial tokens table
    have tokens_eq := (further_sourceText limit (.initial tokens table)).tokens_eq
    have units := further_sourceUnits limit (.initial tokens table)
    have eof := holds_eof_leftover (units.ended ended)
    refine ⟨ended, rfl, tokens_eq, ?_⟩
    -- the end of the input that is accepted last is looked at only
    have last := @cursor_of_holds_eof (sourceText limit (.initial tokens table)).2 eof
    rwa [tokens_eq] at last

/-- Nothing is read past an end of input that stands before other tokens. -/
example (token : Token) :
    (sourceText maxNesting (.initial [.endOfInput 1 1, token] .empty)).2.cursor = 0 := by
  rfl

end CobolCheck
