import CobolCheck.Proofs.Analysis.Parallel
import CobolCheck.Proofs.Analysis.Written

/-!
# How far an analysis goes

The cursor never goes back and never beyond the tokens, and a matcher passes over a token
whether it finds what it asks for or not, unless there is none. So a loop whose rounds contain
a matcher moves the cursor in every round, as long as its test fails at the end of the input,
and the limit on its rounds is never felt.
-/

namespace CobolCheck

open Analysis

namespace State

/-- How many tokens the cursor has passed. -/
def cursor (state : State) : Nat :=
  state.behind.length

/-- Whether the cursor has passed a number of tokens more, or all of them. -/
structure Further (count : Nat) (before after : State) : Prop where
  tokens_eq : after.tokens = before.tokens
  sentinel_eq : after.sentinel = before.sentinel
  remaining_le : remaining after ≤ remaining before - count
  reports : before.reports <:+ after.reports

theorem cursor_add_remaining (state : State) :
    state.cursor + remaining state = state.tokens.length := by
  rw [cursor, remaining, tokens, List.length_append, List.length_reverse]

theorem cursor_le (state : State) : state.cursor ≤ state.tokens.length := by
  rw [← cursor_add_remaining]
  exact Nat.le_add_right _ _

namespace Further

variable {count less first second : Nat} {before middle after : State}

theorem refl (state : State) : Further 0 state state :=
  ⟨rfl, rfl, Nat.le_refl _, List.suffix_rfl⟩

theorem trans (early : Further first before middle) (late : Further second middle after) :
    Further (first + second) before after where
  tokens_eq := late.tokens_eq.trans early.tokens_eq
  sentinel_eq := late.sentinel_eq.trans early.sentinel_eq
  remaining_le := by
    have sooner := early.remaining_le
    have later := late.remaining_le
    omega
  reports := early.reports.trans late.reports

theorem mono (further : Further count before after) (enough : less ≤ count) :
    Further less before after :=
  { further with remaining_le := Nat.le_trans further.remaining_le (Nat.sub_le_sub_left enough _) }

theorem ended (further : Further count before after) (ended : before.Ended) : after.Ended := by
  rwa [Ended, further.sentinel_eq]

theorem cursor_le (further : Further count before after) : before.cursor ≤ after.cursor := by
  have earlier := before.cursor_add_remaining
  have later := after.cursor_add_remaining
  have less := further.remaining_le
  rw [further.tokens_eq] at later
  omega

/-- The fewer tokens are ahead the more the cursor has passed. -/
theorem remaining_lt_iff (further : Further count before after) :
    remaining after < remaining before ↔ before.cursor < after.cursor := by
  have earlier := before.cursor_add_remaining
  have later := after.cursor_add_remaining
  rw [further.tokens_eq] at later
  omega

theorem cursor_lt (further : Further 1 before after) (more : before.ahead ≠ []) :
    before.cursor < after.cursor := by
  have less := further.remaining_le
  have some : 0 < remaining before := List.length_pos_of_ne_nil more
  rw [← further.remaining_lt_iff]
  omega

end Further

theorem further_skip (state : State) : Further 1 state state.skip := by
  have still := still_skip state
  refine ⟨still.tokens_eq, still.sentinel_eq, ?_, still.reports⟩
  rw [remaining, ahead_skip, List.length_tail]
  exact Nat.le_refl _

theorem further_emit (token : Token) (state : State) : Further 0 state (state.emit token) :=
  ⟨rfl, rfl, Nat.le_refl _, List.suffix_rfl⟩

theorem further_report (token : Token) (cause : Cause) (state : State) :
    Further 0 state (state.report token cause) :=
  ⟨rfl, rfl, Nat.le_refl _, List.suffix_cons _ _⟩

theorem further_emit_skip (token : Token) (state : State) :
    Further 1 state (state.emit token).skip :=
  (further_emit token state).trans (further_skip _)

theorem chained_further : Chained (Further 0) where
  refl := Further.refl
  trans := Further.trans
  reports further := further.reports

/-- A step leads further. -/
theorem Step.further {before after : State} (step : before.Step after) :
    Further 0 before after := by
  cases step with
  | skip => exact (further_skip _).mono (Nat.zero_le 1)
  | accept => exact (further_emit_skip _ _).mono (Nat.zero_le 1)
  | designate =>
      exact ((further_emit_skip _ _).trans (further_emit_skip _ _)).mono (Nat.zero_le 2)
  | report => exact further_report _ _ _
  | note => exact ⟨rfl, rfl, Nat.le_refl _, List.suffix_rfl⟩

end State

open State

/-! ## One run by itself -/

/-- No states are beside each other: of two runs only the first one is followed. -/
def State.Alone (_ _ : State) : Prop :=
  False

/-- Seen by itself, a run that does not end beyond a state has not begun beyond it. -/
theorem State.parallel_alone (start : State) :
    Parallel 2 Eq (fun state => ¬ Further 0 start state) Alone where
  alike := by rintro token _ rfl; exact ⟨rfl, rfl, rfl⟩
  recast := by rintro token _ value category context rfl; rfl
  refl _ _ := rfl
  alive step dead further := dead (further.trans step.further)
  cursor := nofun
  text := nofun
  beyond := nofun
  reading _ := nofun
  moved := nofun
  skip := nofun
  accepted := nofun
  designate _ := nofun
  report _ := nofun
  reportedBefore _ := nofun
  rejected _ := nofun
  rejectedBefore _ := nofun
  nest _ _ := nofun

/-- Of the state that such a run begins in nothing is to be said. -/
theorem State.mortal_alone (start : State) : Mortal fun state => ¬ Further 0 start state :=
  ⟨start, fun beyond => beyond (.refl start)⟩

namespace Analysis

variable {α β : Type} {first second : Nat}

/-- An analysis that is followed by itself leads further. -/
theorem further_of_tracks {analysis : Analysis α} {related : α → α → Prop}
    (tracked : ∀ start, Tracks (fun state => ¬ Further 0 start state) Alone related analysis
      analysis) : Obeys (Further 0) analysis :=
  fun state => Classical.byContradiction fun dead => (tracked state).alive dead (.refl state)

/-! ## Moving the cursor -/

theorem further_bind {analysis : Analysis α} {next : α → Analysis β}
    (early : Obeys (Further first) analysis)
    (late : ∀ value, Obeys (Further second) (next value)) :
    Obeys (Further (first + second)) (analysis >>= next) :=
  fun state => (early state).trans (late _ _)

/-- What an analysis passes first it has passed in the end. -/
theorem further_first {analysis : Analysis α} {next : α → Analysis β}
    (early : Obeys (Further first) analysis) (late : ∀ value, Obeys (Further 0) (next value)) :
    Obeys (Further first) (analysis >>= next) :=
  further_bind early late

/-- What an analysis passes in the end it has passed whatever it did before. -/
theorem further_last {analysis : Analysis α} {next : α → Analysis β}
    (early : Obeys (Further 0) analysis) (late : ∀ value, Obeys (Further second) (next value)) :
    Obeys (Further second) (analysis >>= next) := by
  have both := further_bind early late
  rwa [Nat.zero_add] at both

theorem further_mono {analysis : Analysis α} (enough : second ≤ first)
    (further : Obeys (Further first) analysis) : Obeys (Further second) analysis :=
  fun state => (further state).mono enough

/-- An analysis that leads further does not go back. -/
theorem further_zero {analysis : Analysis α} (further : Obeys (Further first) analysis) :
    Obeys (Further 0) analysis :=
  further_mono (Nat.zero_le first) further

/-- A choice passes over what both alternatives pass over. -/
theorem further_choice {test : Test} {yes no : Analysis α} (held : Obeys (Further first) yes)
    (otherwise : Obeys (Further first) no) :
    Obeys (Further first) (do if ← ask test then yes else no) :=
  obeys_ask (held.obeysFrom _) (otherwise.obeysFrom _)

theorem further_pure (value : α) : Obeys (Further 0) (pure value : Analysis α) :=
  Further.refl

/-- An analysis that only looks passes nothing. -/
theorem further_look (view : State → α) :
    Obeys (Further 0) (fun state => (view state, state) : Analysis α) :=
  Further.refl

theorem further_skip : Obeys (Further 1) skip :=
  State.further_skip

theorem further_accept : Obeys (Further 1) accept :=
  fun state => further_emit_skip state.current state

theorem further_acceptAs (category : Category) : Obeys (Further 1) (acceptAs category) :=
  fun state => further_emit_skip (state.current.retag category) state

theorem further_acceptMany (count : Nat) : Obeys (Further count) (acceptMany count) := by
  induction count with
  | zero => exact Further.refl
  | succ count ih =>
      have both := further_bind further_accept fun _ => ih
      rwa [Nat.add_comm] at both

theorem further_report (token : Token) (cause : Cause) :
    Obeys (Further 0) (Analysis.report token cause) :=
  State.further_report token cause

theorem further_reportHere (cause : Cause) : Obeys (Further 0) (reportHere cause) :=
  fun state => State.further_report state.current cause state

theorem further_reportBefore (problem : Problem) : Obeys (Further 0) (reportBefore problem) :=
  fun state => State.further_report state.previous (.general problem) state

/-- A token is passed over whether it is the one that is asked for or not. -/
theorem further_acceptIf (test : Test) (cause : Cause) :
    Obeys (Further 1) (acceptIf test cause) := by
  intro state
  rw [run_acceptIf]
  split
  · exact further_emit_skip _ _
  · exact (State.further_report _ _ _).trans (State.further_skip _)

theorem further_expect (literal : String) : Obeys (Further 1) (expect literal) :=
  further_acceptIf _ _

theorem further_expectOr (literal : String) (problem : Problem) :
    Obeys (Further 1) (expectOr literal problem) := by
  intro state
  rw [run_expectOr]
  split
  · exact further_emit_skip _ _
  · exact (State.further_report _ _ _).trans (State.further_skip _)

theorem further_optional (literal : String) : Obeys (Further 0) (optional literal) :=
  further_choice (further_zero (further_first further_accept fun _ => further_pure true))
    (further_pure false)

theorem further_choose (literals : List String) (category : Option Category) :
    Obeys (Further 1) (choose literals category) := by
  refine further_choice ?_ ?_
  · cases category with
    | none => exact further_accept
    | some category => exact further_acceptAs category
  · exact further_last (further_reportHere _) fun _ => further_skip

theorem further_operand (categories : List Category) (description : String) :
    Obeys (Further 1) (operand categories description) :=
  further_acceptIf _ _

theorem further_identifier : Obeys (Further 1) identifier :=
  further_operand _ _

theorem further_number : Obeys (Further 1) number :=
  further_operand _ _

/-- The analyses that look at the tokens around the cursor, match them or report them. -/
inductive Matcher : {α : Type} → Analysis α → Prop
  | look {α : Type} (view : State → α) : Matcher fun state => (view state, state)
  | skip : Matcher skip
  | accept : Matcher accept
  | acceptAs (category : Category) : Matcher (acceptAs category)
  | acceptMany (count : Nat) : Matcher (acceptMany count)
  | report (token : Token) (cause : Cause) : Matcher (Analysis.report token cause)
  | reportHere (cause : Cause) : Matcher (reportHere cause)
  | reportBefore (problem : Problem) : Matcher (reportBefore problem)
  | acceptIf (test : Test) (cause : Cause) : Matcher (acceptIf test cause)
  | expect (literal : String) : Matcher (expect literal)
  | expectOr (literal : String) (problem : Problem) : Matcher (expectOr literal problem)
  | optional (literal : String) : Matcher (optional literal)
  | choose (literals : List String) (category : Option Category) :
      Matcher (choose literals category)
  | operand (categories : List Category) (description : String) :
      Matcher (operand categories description)
  | number : Matcher number

theorem Matcher.further {analysis : Analysis α} (matcher : Matcher analysis) :
    Obeys (Further 0) analysis := by
  cases matcher with
  | look view => exact further_look view
  | skip => exact further_zero further_skip
  | accept => exact further_zero further_accept
  | acceptAs category => exact further_zero (further_acceptAs category)
  | acceptMany count => exact further_zero (further_acceptMany count)
  | report token cause => exact further_report token cause
  | reportHere cause => exact further_reportHere cause
  | reportBefore problem => exact further_reportBefore problem
  | acceptIf test cause => exact further_zero (further_acceptIf test cause)
  | expect literal => exact further_zero (further_expect literal)
  | expectOr literal problem => exact further_zero (further_expectOr literal problem)
  | optional literal => exact further_optional literal
  | choose literals category => exact further_zero (further_choose literals category)
  | operand categories description => exact further_zero (further_operand categories description)
  | number => exact further_zero further_number

end Analysis

/-! ## At the end of the input -/

/-- Whether a test fails where there is no token ahead. -/
def Test.failsAtEnd (test : Test) : Bool :=
  !test.holds (.initial [] .empty)

/-- Past the last token a test sees nothing but the end of the input. -/
theorem Test.holds_of_finished {state other : State} (ended : state.Ended) (also : other.Ended)
    (finished : state.ahead = []) (nothing : other.ahead = []) (test : Test) :
    test.holds state = test.holds other := by
  obtain ⟨value_eq, category_eq, context_eq⟩ := ended
  obtain ⟨value_eq', category_eq', context_eq'⟩ := also
  have look (offset : Nat) : state.lookahead offset = state.sentinel := by
    rw [State.lookahead, finished, List.getElem?_nil, Option.getD_none]
  have look' (offset : Nat) : other.lookahead offset = other.sentinel := by
    rw [State.lookahead, nothing, List.getElem?_nil, Option.getD_none]
  induction test with
  | word offset words => rw [holds, holds, look, look', value_eq, value_eq']
  | category offset categories => rw [holds, holds, look, look', category_eq, category_eq']
  | context expected =>
      rw [holds, holds, State.current, State.current, look, look', context_eq, context_eq']
  | endMarker =>
      rw [holds, holds, State.current, State.current, look, look', value_eq, value_eq']
  | subordinate =>
      rw [holds, holds, State.current, State.current, look, look', value_eq, value_eq',
        category_eq, category_eq']
  | not test ih => rw [holds_not, holds_not, ih]
  | and first second ihFirst ihSecond => rw [holds_and, holds_and, ihFirst, ihSecond]
  | or first second ihFirst ihSecond => rw [holds_or, holds_or, ihFirst, ihSecond]

/-- Before any analysis the end of the input is what is read past the last token. -/
theorem State.ended_initial (tokens : List Token) (table : SymbolTable) :
    (initial tokens table).Ended :=
  marks_sentinelAfter tokens

/-- A test that fails at the end of the input holds only where there is a token. -/
theorem State.Ended.ahead_ne_nil {state : State} (ended : state.Ended) {test : Test}
    (fails : test.failsAtEnd = true) (held : test.holds state = true) : state.ahead ≠ [] := by
  intro finished
  have same := Test.holds_of_finished ended (State.ended_initial [] .empty) finished rfl test
  rw [Test.failsAtEnd, ← same, held] at fails
  cases fails

theorem State.Ended.holds_eof {state : State} (ended : state.Ended) (finished : state.ahead = []) :
    Test.eof.holds state = true :=
  Test.holds_of_finished ended (ended_initial [] .empty) finished rfl .eof

namespace Analysis

variable {α : Type}

/-! ## Rounds -/

/-- Whether every round of a loop that asks for another one moves the cursor. -/
def Progresses (round : α → Analysis (Option α)) : Prop :=
  ∀ ⦃value : α⦄ ⦃state : State⦄ ⦃next : α⦄ ⦃after : State⦄, state.Ended →
    round value state = (some next, after) →
      Further 0 state after ∧ state.cursor < after.cursor

/-- The rounds of a loop without a limit, up to one that asks for no other one. -/
inductive Runs (round : α → Analysis (Option α)) : α → State → α → State → Prop
  | last {value : α} {state after : State} (stops : round value state = (none, after)) :
      Runs round value state value after
  | next {value next result : α} {state after final : State}
      (asks : round value state = (some next, after)) (moved : state.cursor < after.cursor)
      (rest : Runs round next after result final) : Runs round value state result final

/-- The limit on the rounds of a loop is never felt if every round moves the cursor. -/
theorem Progresses.runs {round : α → Analysis (Option α)} (progresses : Progresses round)
    (value : α) {state : State} (ended : state.Ended) :
    Runs round value state (loop round value state).1 (loop round value state).2 := by
  rw [loop_eq]
  rcases ran : round value state with ⟨_ | next, after⟩
  · exact .last ran
  · obtain ⟨further, moved⟩ := progresses ended ran
    have fewer := further.remaining_lt_iff.mpr moved
    dsimp only
    rw [if_pos fewer]
    exact .next ran moved (progresses.runs next (further.ended ended))
termination_by remaining state

/-- How far a round goes if it asks for another one. -/
def Asks (count : Nat) (round : Analysis (Option α)) : Prop :=
  ∀ ⦃state : State⦄ ⦃next : α⦄ ⦃after : State⦄, round state = (some next, after) →
    Further count state after

theorem asks_of_further {count : Nat} {round : Analysis (Option α)}
    (further : Obeys (Further count) round) : Asks count round := by
  intro state next after ran
  have moved := further state
  rwa [ran] at moved

theorem asks_none (count : Nat) : Asks count (pure none : Analysis (Option α)) :=
  fun _ _ _ ran => nomatch congrArg Prod.fst ran

/-- A round that asks for another one after what it does. -/
theorem asks_some {β : Type} {count : Nat} {analysis : Analysis β} (next : β → α)
    (further : Obeys (Further count) analysis) :
    Asks count (analysis >>= fun value => pure (some (next value))) :=
  asks_of_further (further_first further fun value => further_pure (some (next value)))

theorem asks_ite {count : Nat} {yes no : Analysis (Option α)} (held : Prop) [Decidable held]
    (first : Asks count yes) (second : Asks count no) :
    Asks count (if held then yes else no) := by
  split
  · exact first
  · exact second

theorem asks_ask {count : Nat} {test : Test} {yes no : Analysis (Option α)}
    (first : Asks count yes) (second : Asks count no) :
    Asks count (do if ← ask test then yes else no) := by
  intro state next after ran
  rw [run_bind, run_ask] at ran
  exact asks_ite _ first second ran

theorem asks_first {β : Type} {count : Nat} {analysis : Analysis β} {next : β → Analysis (Option α)}
    (further : Obeys (Further count) analysis) (rest : ∀ value, Asks 0 (next value)) :
    Asks count (analysis >>= next) := by
  intro state value after ran
  exact (further state).trans (rest _ ran)

theorem asks_last {β : Type} {count : Nat} {analysis : Analysis β} {next : β → Analysis (Option α)}
    (further : Obeys (Further 0) analysis) (rest : ∀ value, Asks count (next value)) :
    Asks count (analysis >>= next) := by
  intro state value after ran
  have both := (further state).trans (rest _ ran)
  rwa [Nat.zero_add] at both

/-- A round that passes over a token before it asks for another one, and asks for none at the
end of the input. -/
theorem progresses_of_asks {round : α → Analysis (Option α)} (asks : ∀ value, Asks 1 (round value))
    (stops : ∀ value state, state.Ended → state.ahead = [] → (round value state).1 = none) :
    Progresses round := by
  intro value state next after ended ran
  have moved := asks value ran
  refine ⟨moved.mono (Nat.zero_le 1), moved.cursor_lt fun finished => ?_⟩
  have last := stops value state ended finished
  rw [ran] at last
  cases last

/-- A round of a loop under a test. -/
def under (test : Test) (body : Analysis Unit) : Unit → Analysis (Option Unit) := fun _ state =>
  if test.holds state then (some (), (body state).2) else (none, state)

/-- A loop under a test moves the cursor in every round if its body does. -/
theorem progresses_under {test : Test} (fails : test.failsAtEnd = true) {body : Analysis Unit}
    (further : Obeys (Further 1) body) : Progresses (under test body) := by
  intro value state next after ended ran
  rw [under] at ran
  split at ran
  · next held =>
    obtain ⟨-, rfl⟩ := Prod.mk.inj ran
    have moved := further state
    exact ⟨moved.mono (Nat.zero_le 1), moved.cursor_lt (ended.ahead_ne_nil fails held)⟩
  · cases ran

end Analysis

end CobolCheck
