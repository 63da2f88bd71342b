import CobolCheck.Proofs.Analysis.Closed

/-!
# What is written

As long as nothing is reported, no token is passed over that is not written. So the
cursor moves with the output, and a loop whose rounds write something goes on until its
test fails.
-/

namespace CobolCheck

open Analysis

namespace State

/-- Whether the end of the input is what is read past the last token. -/
def Ended (state : State) : Prop :=
  Landmark.endOfInput.Marks state.sentinel

/-- Whether at least a number of tokens was written and every token that the cursor has
passed was written, unless something is reported. -/
structure Writes (count : Nat) (before after : State) : Prop where
  reports : before.reports <:+ after.reports
  sentinel_eq : after.sentinel = before.sentinel
  count_le : after.reports = [] → before.output.length + count ≤ after.output.length
  passed : after.reports = [] → before.Ended →
    after.output.length + remaining after = before.output.length + remaining before

namespace Writes

variable {count less first second : Nat} {before middle after : State}

theorem ended (writes : Writes count before after) (ended : before.Ended) : after.Ended := by
  rwa [Ended, writes.sentinel_eq]

theorem refl (state : State) : Writes 0 state state :=
  ⟨List.suffix_rfl, rfl, fun _ => Nat.le_refl _, fun _ _ => rfl⟩

theorem trans (early : Writes first before middle) (late : Writes second middle after) :
    Writes (first + second) before after := by
  have between (unreported : after.reports = []) : middle.reports = [] := by
    have kept := late.reports
    rwa [unreported, List.suffix_nil] at kept
  refine ⟨early.reports.trans late.reports, late.sentinel_eq.trans early.sentinel_eq, ?_, ?_⟩
  · intro unreported
    have early_le := early.count_le (between unreported)
    have late_le := late.count_le unreported
    omega
  · intro unreported ended
    have further := late.passed unreported (early.ended ended)
    exact further.trans (early.passed (between unreported) ended)

theorem mono (writes : Writes count before after) (enough : less ≤ count) :
    Writes less before after :=
  { writes with
    count_le := fun unreported =>
      Nat.le_trans (Nat.add_le_add_left enough _) (writes.count_le unreported) }

/-- Of a run with a report nothing is said. -/
theorem of_reported (still : before.Still after) (reported : after.reports ≠ []) :
    Writes count before after :=
  ⟨still.reports, still.sentinel_eq, fun unreported => absurd unreported reported,
    fun unreported => absurd unreported reported⟩

/-- What is written moves the cursor. -/
theorem remaining_lt (writes : Writes 1 before after)
    (ended : before.Ended) (unreported : after.reports = []) :
    remaining after < remaining before := by
  have count_le := writes.count_le unreported
  have passed := writes.passed unreported ended
  omega

end Writes

/-- A token is written and passed over, unless it is the end of the input. -/
theorem writes_emit_skip (token : Token) (state : State)
    (inside : ¬ Landmark.endOfInput.Marks state.current) :
    Writes 1 state (state.emit token).skip := by
  have still := still_emit_skip token state
  refine ⟨still.reports, still.sentinel_eq, fun _ => ?_, fun _ ended => ?_⟩
  · rw [output_skip]
    exact Nat.le_refl _
  · cases ahead : state.ahead with
    | nil =>
        rw [current_of_ahead_nil ahead] at inside
        exact absurd ended inside
    | cons other rest =>
        have next : (state.emit token).ahead = other :: rest := ahead
        rw [skip_of_ahead_cons next, remaining, remaining, ahead]
        exact Nat.add_right_comm _ 1 _

theorem closed_writes : Closed .endOfInput (Writes 0) where
  refl := Writes.refl
  trans := Writes.trans
  reports writes := writes.reports
  move {before after} step := by
    have still := step.still
    cases step with
    | accept inside => exact (writes_emit_skip _ _ inside).mono (Nat.zero_le 1)
    | acceptDevice last inside => exact (writes_emit_skip _ _ inside).mono (Nat.zero_le 1)
    | recover reported => exact .of_reported still (by rwa [reports_skip])
    | report token cause => exact .of_reported still (List.cons_ne_nil _ _)
    | skip reported => exact .of_reported still (by rwa [reports_skip])
    | nest => exact ⟨List.suffix_rfl, rfl, fun _ => Nat.le_refl _, fun _ _ => rfl⟩

end State

open State

namespace Analysis

variable {α β : Type} {first second : Nat} {literal : String}

theorem writes_bind {analysis : Analysis α} {next : α → Analysis β}
    (early : Obeys (Writes first) analysis) (late : ∀ value, Obeys (Writes second) (next value)) :
    Obeys (Writes (first + second)) (analysis >>= next) :=
  fun state => (early state).trans (late _ _)

theorem not_marks_of_holds_is (inside : literal ≠ "EOF") {state : State}
    (held : (Test.is literal).holds state = true) : ¬ Landmark.endOfInput.Marks state.current :=
  Test.not_marks_of_holds (Test.avoids_is inside) held

theorem writes_expect (inside : literal ≠ "EOF") : Obeys (Writes 1) (expect literal) := by
  intro state
  rw [expect, run_discard, run_acceptIf]
  split
  · next held => exact writes_emit_skip _ _ (not_marks_of_holds_is inside held)
  · have closed := closed_still .endOfInput
    exact .of_reported (closed.reject state _ _) (by simp [State.report])

theorem writes_expectOr (inside : literal ≠ "EOF") (problem : Problem) :
    Obeys (Writes 1) (expectOr literal problem) := by
  intro state
  rw [run_expectOr]
  split
  · next held => exact writes_emit_skip _ _ (not_marks_of_holds_is inside held)
  · have closed := closed_still .endOfInput
    exact .of_reported (closed.reject state _ _) (by simp [State.report])

/-! ## Rounds of a loop -/

/-- The rounds of a loop under a test, each of which moves the cursor, up to a state in
which the test fails. -/
inductive Rounds (test : Test) (body : Analysis Unit) : State → State → Prop
  | done {state : State} (ends : test.holds state = false) : Rounds test body state state
  | next {state final : State} (begins : test.holds state = true)
      (moved : remaining (body state).2 < remaining state)
      (rest : Rounds test body (body state).2 final) : Rounds test body state final

variable {test : Test} {body : Analysis Unit}

theorem Rounds.run_eq {state final : State} (rounds : Rounds test body state final) :
    whilst test body state = ((), final) := by
  induction rounds with
  | done ends => rw [whilst_eq, ends, if_neg Bool.false_ne_true]
  | next begins moved _ ih => rw [whilst_eq, begins, if_pos rfl, if_pos moved, ih]

/-- A loop whose rounds write something goes on until its test fails. -/
theorem rounds_of_unreported
    (writes : ObeysFrom (fun state => test.holds state = true) (Writes 1) body) (state : State)
    (ended : state.Ended)
    (unreported : (whilst test body state).2.reports = []) :
    Rounds test body state (whilst test body state).2 := by
  have further : Obeys (Writes 0) (whilst test body) :=
    closed_writes.obeys_whilst fun state held => (writes state held).mono (Nat.zero_le 1)
  rw [whilst_eq] at unreported ⊢
  by_cases held : test.holds state
  · rw [if_pos held] at unreported ⊢
    have once := writes state held
    by_cases moved : remaining (body state).2 < remaining state
    · rw [if_pos moved] at unreported ⊢
      have later : (body state).2.Ended := once.ended ended
      exact .next held moved (rounds_of_unreported writes _ later unreported)
    · rw [if_neg moved] at unreported
      exact absurd (once.remaining_lt ended unreported) moved
  · rw [if_neg held]
    exact .done (Bool.eq_false_iff.mpr held)
termination_by remaining state

end Analysis

end CobolCheck
