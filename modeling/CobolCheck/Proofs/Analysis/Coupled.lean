import CobolCheck.Proofs.Analysis.Parallel

/-!
# Runs that agree

Two runs side by side that come to equal tokens agree: they give the same
result. A relation between the states of two runs is `Coupled` if related states
look the same where an analysis looks, and every move keeps them related.

The first run may come to tokens that the second one does not have. Nothing is
said of the two runs once fewer than `reserve` tokens are ahead of the first.
-/

namespace CobolCheck

open Analysis

/-! ## Coupled states -/

/-- A relation between states that look the same around the cursor, and that
moves keep as long as the first state has `reserve` tokens ahead. -/
structure Coupled (reserve : Nat) (ρ : State → State → Prop) : Prop where
  lookahead {first second : State} {offset : Nat} : ρ first second → offset ≤ 3 →
    second.lookahead offset = first.lookahead offset
  reading {first second : State} (afterOperand : Bool) : ρ first second →
    (reading afterOperand second).1 = (reading afterOperand first).1
  previous {first second : State} : ρ first second → second.previous = first.previous
  moved {first second third fourth : State} : ρ first second → ρ third fourth →
    (remaining third < remaining first ↔ remaining fourth < remaining second)
  skip {first second : State} : ρ first second → reserve ≤ remaining first.skip →
    ρ first.skip second.skip
  emit {first second : State} (token : Token) : ρ first second →
    ρ (first.emit token) (second.emit token)
  report {first second : State} (token : Token) (cause : Cause) : ρ first second →
    ρ (first.report token cause) (second.report token cause)
  nest {first second : State} (nesting deepest nesting' deepest' : Nat) : ρ first second →
    ρ { first with nesting, deepest } { second with nesting := nesting', deepest := deepest' }

/-- Whether two runs of an analysis from related states give the same result and
end in related states, if the first one leaves the tokens in reserve ahead. -/
structure Analysis.Agrees {α : Type} (reserve : Nat) (ρ : State → State → Prop)
    (analysis : Analysis α) : Prop where
  shrinks (state : State) : remaining (analysis state).2 ≤ remaining state
  agrees {first second : State} : ρ first second → reserve ≤ remaining (analysis first).2 →
    (analysis second).1 = (analysis first).1 ∧ ρ (analysis first).2 (analysis second).2

/-! ## Side by side -/

/-- A run beside itself, as long as there are tokens in reserve. -/
theorem aligned_self (reserve : Nat) :
    Aligned Eq (fun state => reserve ≤ remaining state) Eq where
  alike same := by
    subst same
    exact ⟨rfl, rfl, rfl⟩
  recast _ _ _ same := by rw [same]
  refl _ _ := rfl
  before later enough := Nat.le_trans enough later.shrinks
  lookahead same _ := by rw [same]
  reading _ same := by rw [same]
  previous same := by rw [same]
  moved same further := by rw [same, further]
  skip same _ := by rw [same]
  emit same alike := by rw [same, alike]
  report _ same alike _ := by rw [same, alike]
  nest _ _ same := by rw [same]

namespace Coupled

variable {reserve : Nat} {ρ : State → State → Prop}

/-- Coupled states stay side by side while the first one has the tokens in reserve. -/
theorem aligned (coupled : Coupled reserve ρ) :
    Aligned Eq (fun state => reserve ≤ remaining state) ρ where
  alike same := by
    subst same
    exact ⟨rfl, rfl, rfl⟩
  recast _ _ _ same := by rw [same]
  refl _ _ := rfl
  before later enough := Nat.le_trans enough later.shrinks
  lookahead alike near := (coupled.lookahead alike near).symm
  reading afterOperand alike := (coupled.reading afterOperand alike).symm
  previous alike := (coupled.previous alike).symm
  moved := coupled.moved
  skip := coupled.skip
  emit alike same := by
    subst same
    exact coupled.emit _ alike
  report cause alike same _ := by
    subst same
    exact coupled.report _ cause alike
  nest _ _ alike := coupled.nest _ _ _ _ alike

theorem current_eq (coupled : Coupled reserve ρ) {first second : State} (alike : ρ first second) :
    second.current = first.current :=
  coupled.lookahead alike (Nat.zero_le 3)

theorem holds_eq (coupled : Coupled reserve ρ) {test : Test} (inside : test.within 2 = true)
    {first second : State} (alike : ρ first second) : test.holds second = test.holds first :=
  (coupled.aligned.parallel.holds_eq inside alike).symm

/-- Runs that stay side by side from any parallel states agree from coupled ones. -/
theorem agrees (coupled : Coupled reserve ρ) {α : Type} {analysis : Analysis α}
    (tracked : ∀ {live ρ}, Parallel 2 Eq live ρ → Tracks live ρ Eq analysis analysis) :
    Agrees reserve ρ analysis where
  shrinks _ := (tracked (aligned_self _).parallel).alive (Nat.le_refl _)
  agrees alike enough :=
    have ⟨same, further⟩ := (tracked coupled.aligned.parallel).tracks alike enough
    ⟨same.symm, further⟩

end Coupled

end CobolCheck
