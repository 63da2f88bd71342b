import CobolCheck.Proofs.Analysis.Further

/-!
# What reports cost

Many things are reported without the cursor being moved, and at the end of the
input it cannot be moved at all. But whatever is repeated passes over a token in
every round, so that the reports are paid for by the tokens that are passed
over. A token pays for 64 reports, and what an analysis may report beyond what
its tokens pay for is its cost.

Costs add up in a sequence. A loop costs nothing if each round costs 64 at most
and passes over a token, which is what `Pays` asks for. Where an analysis pays
may depend on how far another one came before it, and `Prompt` says of that one
that it keeps the payment of the first token it passes over.
-/

namespace CobolCheck

open Analysis

namespace State

/-- The reports there are, and those that the tokens ahead can pay for. -/
def expense (state : State) : Nat :=
  state.reports.length + 64 * remaining state

/-- Whether no more was reported than was paid for, but for a cost. -/
structure Spends (cost : Nat) (before after : State) : Prop where
  sentinel_eq : after.sentinel = before.sentinel
  remaining_le : remaining after ≤ remaining before
  expense_le : after.expense ≤ before.expense + cost

/-- Whether the first token that was passed over has paid for nothing yet. -/
structure Prompt (cost : Nat) (before after : State) : Prop extends Spends cost before after where
  moved : remaining after < remaining before → after.expense + 64 ≤ before.expense + cost

/-- Whether a token was passed over that has paid for nothing yet, unless there was none. -/
structure Pays (cost : Nat) (before after : State) : Prop extends Spends cost before after where
  paid : before.ahead ≠ [] → after.expense + 64 ≤ before.expense + cost

variable {cost more m n : Nat} {before middle after : State}

theorem remaining_pos_iff {state : State} : 0 < remaining state ↔ state.ahead ≠ [] :=
  List.length_pos_iff

namespace Spends

theorem refl (state : State) : Spends 0 state state :=
  ⟨rfl, Nat.le_refl _, Nat.le_refl _⟩

theorem trans (early : Spends m before middle) (late : Spends n middle after) :
    Spends (m + n) before after where
  sentinel_eq := late.sentinel_eq.trans early.sentinel_eq
  remaining_le := Nat.le_trans late.remaining_le early.remaining_le
  expense_le := by
    have sooner := early.expense_le
    have later := late.expense_le
    omega

theorem mono (spends : Spends cost before after) (enough : cost ≤ more) :
    Spends more before after :=
  { spends with expense_le := Nat.le_trans spends.expense_le (Nat.add_le_add_left enough _) }

theorem ended (spends : Spends cost before after) (ended : before.Ended) : after.Ended := by
  rwa [Ended, spends.sentinel_eq]

end Spends

namespace Prompt

theorem trans (early : Prompt m before middle) (late : Prompt n middle after) :
    Prompt (m + n) before after where
  toSpends := early.toSpends.trans late.toSpends
  moved less := by
    have sooner := early.expense_le
    have later := late.expense_le
    by_cases moved : remaining middle < remaining before
    · have paid := early.moved moved
      omega
    · have paid := late.moved (by omega)
      omega

theorem mono (prompt : Prompt cost before after) (enough : cost ≤ more) :
    Prompt more before after where
  toSpends := prompt.toSpends.mono enough
  moved less := Nat.le_trans (prompt.moved less) (Nat.add_le_add_left enough _)

end Prompt

namespace Pays

/-- What pays pays promptly. -/
theorem prompt (pays : Pays cost before after) : Prompt cost before after where
  toSpends := pays.toSpends
  moved less := pays.paid (remaining_pos_iff.mp (Nat.lt_of_le_of_lt (Nat.zero_le _) less))

theorem mono (pays : Pays cost before after) (enough : cost ≤ more) : Pays more before after where
  toSpends := pays.toSpends.mono enough
  paid some := Nat.le_trans (pays.paid some) (Nat.add_le_add_left enough _)

/-- What was paid first may be spent later. -/
theorem first (early : Pays m before middle) (late : Spends n middle after) :
    Pays (m + n) before after where
  toSpends := early.toSpends.trans late
  paid some := by
    have sooner := early.paid some
    have later := late.expense_le
    omega

/-- A token pays for what costs 64 at most. -/
theorem spends (pays : Pays cost before after) (enough : cost ≤ 64) (some : before.ahead ≠ []) :
    Spends 0 before after where
  sentinel_eq := pays.sentinel_eq
  remaining_le := pays.remaining_le
  expense_le := by
    have paid := pays.paid some
    omega

end Pays

/-- A payment may come later if what was passed before has kept its own. -/
theorem Prompt.last (early : Prompt m before middle) (late : Pays n middle after) :
    Pays (m + n) before after where
  toSpends := early.toSpends.trans late.toSpends
  paid some := by
    have sooner := early.expense_le
    have later := late.expense_le
    by_cases moved : remaining middle < remaining before
    · have paid := early.moved moved
      omega
    · have inside := remaining_pos_iff.mpr some
      have paid := late.paid (remaining_pos_iff.mp (by omega))
      omega

/-- What moves nothing and reports nothing costs nothing. -/
theorem prompt_of_eq (before after : State) (ahead_eq : after.ahead = before.ahead)
    (sentinel_eq : after.sentinel = before.sentinel) (reports_eq : after.reports = before.reports) :
    Prompt 0 before after where
  sentinel_eq := sentinel_eq
  remaining_le := by simp only [remaining, ahead_eq, Nat.le_refl]
  expense_le := by simp only [expense, remaining, ahead_eq, reports_eq, Nat.add_zero, Nat.le_refl]
  moved less := by
    rw [remaining, remaining, ahead_eq] at less
    exact absurd less (Nat.lt_irrefl _)

theorem prompt_report (token : Token) (cause : Cause) (state : State) :
    Prompt 1 state (state.report token cause) where
  sentinel_eq := rfl
  remaining_le := Nat.le_refl _
  expense_le := by
    simp only [expense, remaining, report, List.length_cons]
    omega
  moved less := absurd less (Nat.lt_irrefl _)

theorem pays_skip (state : State) : Pays 0 state state.skip where
  sentinel_eq := state.still_skip.sentinel_eq
  remaining_le := by
    rw [remaining, ahead_skip, List.length_tail]
    exact Nat.sub_le _ _
  expense_le := by
    rw [expense, expense, remaining, remaining, ahead_skip, reports_skip, List.length_tail]
    omega
  paid some := by
    have inside := List.length_pos_of_ne_nil some
    rw [expense, expense, remaining, remaining, ahead_skip, reports_skip, List.length_tail]
    omega

theorem pays_emit_skip (token : Token) (state : State) : Pays 0 state (state.emit token).skip :=
  (prompt_of_eq state (state.emit token) rfl rfl rfl).last (pays_skip _)

/-- A report and the token it is of cost one. -/
theorem pays_report_skip (token : Token) (cause : Cause) (state : State) :
    Pays 1 state (state.report token cause).skip :=
  (prompt_report token cause state).last (pays_skip _)

end State

open State

namespace Analysis

/-- Whether an analysis obeys a relation wherever the end of the input follows the tokens. -/
abbrev Costs {α : Type} (R : State → State → Prop) (analysis : Analysis α) : Prop :=
  ObeysFrom State.Ended R analysis

variable {α β : Type} {cost more m n : Nat} {R : State → State → Prop}

/-! ## Sequence and choice -/

theorem spends_bind {analysis : Analysis α} {next : α → Analysis β}
    (early : Costs (Spends m) analysis) (late : ∀ value, Costs (Spends n) (next value)) :
    Costs (Spends (m + n)) (analysis >>= next) :=
  fun state ended => (early state ended).trans (late _ _ ((early state ended).ended ended))

theorem prompt_bind {analysis : Analysis α} {next : α → Analysis β}
    (early : Costs (Prompt m) analysis) (late : ∀ value, Costs (Prompt n) (next value)) :
    Costs (Prompt (m + n)) (analysis >>= next) :=
  fun state ended => (early state ended).trans (late _ _ ((early state ended).ended ended))

theorem pays_first {analysis : Analysis α} {next : α → Analysis β}
    (early : Costs (Pays m) analysis) (late : ∀ value, Costs (Spends n) (next value)) :
    Costs (Pays (m + n)) (analysis >>= next) :=
  fun state ended => (early state ended).first (late _ _ ((early state ended).ended ended))

theorem pays_last {analysis : Analysis α} {next : α → Analysis β}
    (early : Costs (Prompt m) analysis) (late : ∀ value, Costs (Pays n) (next value)) :
    Costs (Pays (m + n)) (analysis >>= next) :=
  fun state ended => (early state ended).last (late _ _ ((early state ended).ended ended))

theorem Costs.imp {S : State → State → Prop} {analysis : Analysis α} (costs : Costs R analysis)
    (weaker : ∀ {before after}, R before after → S before after) : Costs S analysis :=
  fun state ended => weaker (costs state ended)

theorem Costs.prompt {analysis : Analysis α} (pays : Costs (Pays cost) analysis) :
    Costs (Prompt cost) analysis :=
  pays.imp Pays.prompt

theorem Costs.spends {analysis : Analysis α} (prompt : Costs (Prompt cost) analysis) :
    Costs (Spends cost) analysis :=
  prompt.imp Prompt.toSpends

theorem spends_mono {analysis : Analysis α} (spends : Costs (Spends cost) analysis)
    (enough : cost ≤ more) : Costs (Spends more) analysis :=
  spends.imp fun spends => spends.mono enough

theorem prompt_mono {analysis : Analysis α} (prompt : Costs (Prompt cost) analysis)
    (enough : cost ≤ more) : Costs (Prompt more) analysis :=
  prompt.imp fun prompt => prompt.mono enough

theorem pays_mono {analysis : Analysis α} (pays : Costs (Pays cost) analysis)
    (enough : cost ≤ more) : Costs (Pays more) analysis :=
  pays.imp fun pays => pays.mono enough

theorem costs_ite {yes no : Analysis α} (held : Prop) [Decidable held] (first : Costs R yes)
    (second : Costs R no) : Costs R (if held then yes else no) := by
  split
  · exact first
  · exact second

theorem costs_choice {test : Test} {yes no : Analysis α} (held : Costs R yes)
    (otherwise : Costs R no) : Costs R (do if ← ask test then yes else no) :=
  fun state ended => costs_ite _ held otherwise state ended

/-- An alternative that is chosen by a token costs nothing if it pays for itself. -/
theorem spends_ask {test : Test} (fails : test.failsAtEnd = true) {yes no : Analysis α}
    (pays : Costs (Pays m) yes) (enough : m ≤ 64) (otherwise : Costs (Spends n) no) :
    Costs (Spends n) (do if ← ask test then yes else no) := by
  intro state ended
  rw [run_bind, run_ask]
  dsimp only
  split
  · next held =>
    have spends := (pays state ended).spends enough (ended.ahead_ne_nil fails held)
    exact spends.mono (Nat.zero_le n)
  · exact otherwise state ended

theorem spends_forM {each : α → Analysis Unit} (spends : ∀ value, Costs (Spends cost) (each value))
    (values : List α) : Costs (Spends (cost * values.length)) (values.forM each) := by
  induction values with
  | nil => exact fun state _ => .refl state
  | cons value rest ih =>
      rw [List.length_cons, Nat.mul_succ, Nat.add_comm]
      exact spends_bind (spends value) fun _ => ih

/-! ## Loops -/

/-- A loop costs what its last round costs if the rounds before it cost nothing. -/
theorem spends_loop {round : α → Analysis (Option α)}
    (free : ∀ value next state after, state.Ended → round value state = (some next, after) →
      Spends 0 state after)
    (last : ∀ value state after, state.Ended → round value state = (none, after) →
      Spends cost state after) (value : α) : Costs (Spends cost) (loop round value) := by
  intro state ended
  rw [loop_eq]
  rcases ran : round value state with ⟨_ | next, after⟩
  · exact last value state after ended ran
  · have spends := free value next state after ended ran
    dsimp only
    split
    · have rest := spends_loop free last next after (spends.ended ended)
      have both := spends.trans rest
      rwa [Nat.zero_add] at both
    · exact spends.mono (Nat.zero_le cost)
termination_by state => remaining state

/-- A loop costs nothing if no round costs anything. -/
theorem spends_loop_same {round : α → Analysis (Option α)}
    (free : ∀ value, Costs (Spends 0) (round value)) (value : α) :
    Costs (Spends 0) (loop round value) := by
  have ran {value : α} {state : State} {answer : Option α} {after : State} (ended : state.Ended)
      (same : round value state = (answer, after)) : Spends 0 state after := by
    have spends := free value state ended
    rwa [same] at spends
  exact spends_loop (fun _ _ _ _ => ran) (fun _ _ _ => ran) value

/-- A loop under a test costs nothing if its body pays for itself. -/
theorem spends_whilst {test : Test} (fails : test.failsAtEnd = true) {body : Analysis Unit}
    (pays : Costs (Pays cost) body) (enough : cost ≤ 64) : Costs (Spends 0) (whilst test body) := by
  refine spends_loop (fun value next state after ended ran => ?_)
    (fun value state after ended ran => ?_) ()
  · split at ran
    · next held =>
      obtain ⟨-, rfl⟩ := Prod.mk.inj ran
      exact (pays state ended).spends enough (ended.ahead_ne_nil fails held)
    · cases ran
  · split at ran
    · cases ran
    · obtain ⟨-, rfl⟩ := Prod.mk.inj ran
      exact .refl state

/-! ## Matchers -/

/-- An analysis that only looks costs nothing. -/
theorem prompt_look (view : State → α) :
    Costs (Prompt 0) (fun state => (view state, state) : Analysis α) :=
  fun state _ => prompt_of_eq state state rfl rfl rfl

theorem prompt_pure (value : α) : Costs (Prompt 0) (pure value : Analysis α) :=
  prompt_look fun _ => value

theorem pays_skip : Costs (Pays 0) skip :=
  fun state _ => State.pays_skip state

theorem pays_accept : Costs (Pays 0) accept :=
  fun state _ => pays_emit_skip state.current state

theorem pays_acceptAs (category : Category) : Costs (Pays 0) (acceptAs category) :=
  fun state _ => pays_emit_skip (state.current.retag category) state

theorem prompt_report (token : Token) (cause : Cause) :
    Costs (Prompt 1) (Analysis.report token cause) :=
  fun state _ => State.prompt_report token cause state

theorem prompt_reportHere (cause : Cause) : Costs (Prompt 1) (reportHere cause) :=
  fun state _ => State.prompt_report state.current cause state

theorem prompt_reportBefore (problem : Problem) : Costs (Prompt 1) (reportBefore problem) :=
  fun state _ => State.prompt_report state.previous (.general problem) state

theorem prompt_acceptMany (count : Nat) : Costs (Prompt 0) (acceptMany count) := by
  induction count with
  | zero => exact prompt_pure ()
  | succ count ih => exact prompt_bind (pays_accept.prompt) fun _ => ih

/-- A token is passed over whether it is the one that is asked for or not. -/
theorem pays_acceptIf (test : Test) (cause : Cause) : Costs (Pays 1) (acceptIf test cause) := by
  intro state _
  rw [run_acceptIf]
  split
  · exact (pays_emit_skip _ _).mono (Nat.zero_le 1)
  · exact pays_report_skip _ _ _

theorem pays_expect (literal : String) : Costs (Pays 1) (expect literal) :=
  pays_acceptIf _ _

theorem pays_expectOr (literal : String) (problem : Problem) :
    Costs (Pays 1) (expectOr literal problem) := by
  intro state _
  rw [run_expectOr]
  split
  · exact (pays_emit_skip _ _).mono (Nat.zero_le 1)
  · exact pays_report_skip _ _ _

theorem prompt_optional (literal : String) : Costs (Prompt 0) (optional literal) :=
  costs_choice (prompt_bind (pays_accept.prompt) fun _ => prompt_pure true)
    (prompt_pure false)

theorem pays_choose (literals : List String) (category : Option Category) :
    Costs (Pays 1) (choose literals category) := by
  refine costs_choice ?_ ?_
  · cases category with
    | none => exact pays_mono pays_accept (Nat.zero_le 1)
    | some category => exact pays_mono (pays_acceptAs category) (Nat.zero_le 1)
  · exact pays_last (prompt_reportHere _) fun _ => pays_skip

theorem pays_operand (categories : List Category) (description : String) :
    Costs (Pays 1) (operand categories description) :=
  pays_acceptIf _ _

end Analysis

end CobolCheck
