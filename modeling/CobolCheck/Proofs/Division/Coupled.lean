import CobolCheck.Proofs.Analysis.Coupled
import CobolCheck.Proofs.Division.Parallel

/-!
# Runs of source units agree

The divisions of a source unit also look at the unit that is being read and at
the symbol table. Their runs agree if related states have these in common.
-/

namespace CobolCheck

open Analysis

/-- A coupled relation between states that are in the same unit and have the same
symbol table. -/
structure CoupledUnits (reserve : Nat) (ρ : State → State → Prop) : Prop
    extends Coupled reserve ρ where
  unit {first second : State} : ρ first second → second.unit = first.unit
  table {first second : State} : ρ first second → second.table = first.table
  withUnit {first second : State} (unit : SourceUnit) : ρ first second →
    ρ { first with unit } { second with unit }
  withTable {first second : State} (table : SymbolTable) : ρ first second →
    ρ { first with table } { second with table }

theorem parallelUnits_self (reserve : Nat) :
    ParallelUnits 2 Eq (fun state => reserve ≤ remaining state) Eq Eq where
  toParallel := (aligned_self reserve).parallel
  nameless := rfl
  refl_key _ _ := rfl
  unit same := by rw [same]
  withUnit _ same := by rw [same]
  declare _ _ same alike _ := by
    rw [same, alike]
    exact ⟨rfl, rfl⟩
  revise _ same keys := by rw [same, keys]
  returned _ same _ := by rw [same]

/-- A relation between states that are in the same unit and have the same symbol table. -/
structure SharedUnits (ρ : State → State → Prop) : Prop where
  unit {first second : State} : ρ first second → second.unit = first.unit
  table {first second : State} : ρ first second → second.table = first.table
  withUnit {first second : State} (unit : SourceUnit) : ρ first second →
    ρ { first with unit } { second with unit }
  withTable {first second : State} (table : SymbolTable) : ρ first second →
    ρ { first with table } { second with table }

namespace SharedUnits

variable {reach : Nat} {live : State → Prop} {ρ : State → State → Prop}

/-- An item is declared in both runs, or reported as a duplicate in both. -/
theorem declare_eq (shared : SharedUnits ρ) (parallel : Parallel reach Eq live ρ)
    {first second : State} (alike : ρ first second) (name : Token) (item : Item)
    (alive : live (declare name item first).2) :
    (declare name item first).1 = (declare name item second).1 ∧
      ρ (declare name item first).2 (declare name item second).2 := by
  have key : second.unit.key name.value = first.unit.key name.value :=
    congrArg (SourceUnit.key · name.value) (shared.unit alike)
  have inSection : second.unit.currentSection = first.unit.currentSection :=
    congrArg SourceUnit.currentSection (shared.unit alike)
  unfold declare at alive ⊢
  dsimp only at alive ⊢
  rw [key, inSection, shared.table alike]
  split at alive
  · exact ⟨rfl, shared.withTable _ alike⟩
  · exact ⟨rfl, parallel.report _ alike rfl alive⟩

/-- The item that a procedure division returns is looked up in the same table. -/
theorem tracks_checkReturned (shared : SharedUnits ρ) (parallel : Parallel reach Eq live ρ)
    (name : String) : Tracks live ρ Eq (checkReturned name) (checkReturned name) := by
  apply tracks_then
  · refine tracks_view fun alike => ?_
    rw [shared.unit alike, shared.table alike]
  · intro declared
    exact tracks_ite _ (tracks_same ()) (parallel.tracks_reportBefore _)

/-- States that also share their units and tables are parallel in these. -/
theorem parallelUnits (shared : SharedUnits ρ) (parallel : Parallel reach Eq live ρ) :
    ParallelUnits reach Eq live Eq ρ where
  toParallel := parallel
  nameless := rfl
  refl_key _ _ := rfl
  unit alike := (shared.unit alike).symm
  withUnit := shared.withUnit
  declare _ level alike same alive := by
    subst same
    exact shared.declare_eq parallel alike _ _ alive
  revise {first second key _} operation alike keys := by
    subst keys
    cases key with
    | none => exact alike
    | some declared =>
        have revised : ρ (reviseBy (some declared) operation first).2
            { second with table := first.table.update declared (operation declared).change } :=
          shared.withTable _ alike
        rwa [← shared.table alike] at revised
  returned name alike alive := ((shared.tracks_checkReturned parallel name).tracks alike alive).2

end SharedUnits

namespace CoupledUnits

variable {reserve : Nat} {ρ : State → State → Prop}

theorem shared (coupled : CoupledUnits reserve ρ) : SharedUnits ρ :=
  ⟨coupled.unit, coupled.table, coupled.withUnit, coupled.withTable⟩

theorem parallelUnits (coupled : CoupledUnits reserve ρ) :
    ParallelUnits 2 Eq (fun state => reserve ≤ remaining state) Eq ρ :=
  coupled.shared.parallelUnits coupled.aligned.parallel

/-- Runs that stay side by side from any parallel states agree from coupled ones. -/
theorem agrees (coupled : CoupledUnits reserve ρ) {α : Type} {analysis : Analysis α}
    (tracked : ∀ {live κ ρ}, ParallelUnits 2 Eq live κ ρ → Tracks live ρ Eq analysis analysis) :
    Agrees reserve ρ analysis where
  shrinks _ := (tracked (parallelUnits_self _)).alive (Nat.le_refl _)
  agrees alike enough :=
    have ⟨same, further⟩ := (tracked coupled.parallelUnits).tracks alike enough
    ⟨same.symm, further⟩

end CoupledUnits

end CobolCheck
