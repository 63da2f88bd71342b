import CobolCheck.Proofs.Division.Parallel
import CobolCheck.Proofs.Statement.Reread

/-!
# Reading source units again

The headers and END markers in a procedure division may be the last words of an output,
and a look ahead tells whether there is one. In the run that writes the output a look
behind its end may show other words than in the run that reads it. But if the words are
found that are looked for, they are accepted, so they are in the output.
-/

namespace CobolCheck

open Analysis State

/-! ## What source units write -/

/-- What is written does not depend on the unit and the symbol table. -/
theorem units_writes : ClosedUnits .endOfInput (Writes 0) :=
  closed_writes.units
    (fun _ _ => ⟨List.suffix_rfl, rfl, fun _ => Nat.le_refl _, fun _ _ => rfl⟩)
    fun _ _ => ⟨List.suffix_rfl, rfl, fun _ => Nat.le_refl _, fun _ _ => rfl⟩

/-- A procedure division writes the words of its header, and the period after them. -/
theorem writes_procedureDivision (limit : Nat) : Obeys (Writes 3) (procedureDivision limit) := by
  have closed := units_writes
  have ending : Obeys (Writes 1) headerEnd := by
    refine closed.obeysUpTo_headerEnd.obeys (writes_expectOr (by decide)) fun early late => ?_
    simpa using early.trans late
  have header : Obeys (Writes (1 + (1 + 1))) procedureHeader :=
    writes_bind (writes_expect (by decide)) fun _ =>
      writes_bind (writes_expect (by decide)) fun _ => ending
  exact writes_bind header fun _ => closed.toChained.obeys_procedureRest closed.obeys_reportBefore
    (closed.obeys_procedureBody limit) (closed.obeys_unitEndMarker (by decide))

theorem writes_unitEndMarker (unit : SourceUnit) : Obeys (Writes 1) (unitEndMarker unit) :=
  writes_bind (writes_expect (by decide)) fun _ => units_writes.obeys_unitEndName (by decide) unit

namespace State

variable {words : List String} {tokens output : List Token} {slack reach : Nat}

/-! ## Both runs -/

/-- Both runs declare the same items in the same units. -/
theorem parallelUnits_rereads (retells : Retells words tokens output) {reach : Nat}
    (inside : reach ≤ slack) (far : 2 ≤ reach → reach < slack) :
    ParallelUnits reach Eq (Onward words tokens output slack) Eq
      (Rereads words tokens output slack) where
  toParallel := parallel_rereads retells inside far
  nameless := rfl
  refl_key _ _ := rfl
  unit := by
    rintro first _ ⟨_, _, rfl⟩
    rfl
  withUnit unit rereads := by
    obtain ⟨onward, behind_eq, rfl⟩ := rereads
    exact ⟨{ onward with }, behind_eq, rfl⟩
  declare {first second name other create} _ level rereads alike onward := by
    obtain ⟨-, behind_eq, rfl⟩ := rereads
    subst alike
    unfold Analysis.declare at onward ⊢
    have key_eq : (first.retold output).unit = first.unit := rfl
    have table_eq : (first.retold output).table = first.table := rfl
    dsimp only at onward ⊢
    rw [key_eq, table_eq]
    split at onward
    · exact ⟨rfl, onward, behind_eq, rfl⟩
    · exact absurd onward.reports_eq (List.cons_ne_nil _ _)
  revise {first second key other} operation rereads keys := by
    subst keys
    obtain ⟨onward, behind_eq, rfl⟩ := rereads
    cases key with
    | none => exact ⟨onward, behind_eq, rfl⟩
    | some declared => exact ⟨{ onward with }, behind_eq, rfl⟩
  returned {first second} name rereads onward := by
    obtain ⟨_, behind_eq, rfl⟩ := rereads
    have table_eq : (first.retold output).table.contains ((first.retold output).unit.key name) =
        first.table.contains (first.unit.key name) :=
      rfl
    rw [checkReturned, run_bind, run_ite] at onward ⊢
    rw [run_bind, run_ite, table_eq]
    by_cases found : first.table.contains (first.unit.key name)
    · rw [if_pos found] at onward ⊢
      rw [if_pos found]
      exact ⟨onward, behind_eq, rfl⟩
    · rw [if_neg found] at onward
      exact absurd onward.reports_eq (List.cons_ne_nil _ _)

theorem parallelUnits_here (retells : Retells words tokens output) :
    ParallelUnits 0 Eq (Onward words tokens output 0) Eq (Rereads words tokens output 0) :=
  parallelUnits_rereads retells (Nat.le_refl 0) (by decide)

theorem Onward.of_acceptMany (retells : Retells words tokens output) (count : Nat) {state : State}
    (onward : Onward words tokens output slack (acceptMany count state).2) :
    Onward words tokens output (slack + count) state := by
  induction count generalizing state with
  | zero => exact onward
  | succ count ih => exact (ih onward).of_accept retells

section Rereading

variable (retells : Retells words tokens output)

include retells

theorem repeats_paragraphHeader : Repeats words tokens output 0 paragraphHeader := by
  have accepted (count : Nat) :
      Repeats words tokens output 0 (acceptMany count >>= fun _ => pure true) :=
    tracks_then ((parallel_here retells).tracks_acceptMany count) fun _ => tracks_same true
  have enough {count offset : Nat} (less : offset ≤ count) {state : State}
      (onward : Onward words tokens output 0 ((acceptMany count >>= fun _ => pure true) state).2) :
      Onward words tokens output offset state :=
    (onward.of_acceptMany retells count).mono (by omega)
  have period {offset : Nat} {state : State} (held : (Test.word offset ["."]).holds state = true) :
      (state.lookahead offset).value ≠ "EOF" := by
    rw [Test.holds_word_iff, List.mem_singleton] at held
    rw [held]
    decide
  refine repeats_choice retells 1 rfl ?_ (enough (Nat.le_succ 1)) (accepted 2) ?_
  · intro state held
    exact period (Bool.and_eq_true_iff.mp held).2
  refine repeats_choice retells 2 rfl ?_ (enough (Nat.le_succ 2)) (accepted 3) (tracks_same false)
  · intro state held
    exact period (Bool.and_eq_true_iff.mp (Bool.and_eq_true_iff.mp held).2).2

theorem repeats_unitEnd (unit : SourceUnit) : Repeats words tokens output 0
    (do if ← ask (.and (.is "END") (.next unit.kind.keyword)) then unitEndMarker unit) := by
  have marker : Repeats words tokens output 0 (unitEndMarker unit) :=
    (parallelUnits_here retells).tracks_unitEndMarker unit
  refine repeats_choice retells 1 rfl ?_ ?_ marker (tracks_same ())
  · intro state held
    have named := (Bool.and_eq_true_iff.mp held).2
    rw [Test.next, Test.holds_word_iff, List.mem_singleton] at named
    rw [named]
    cases unit.kind <;> decide
  · intro state onward
    simpa using (marker.alive onward).of_writes onward (writes_unitEndMarker unit state)

theorem repeats_procedureDivision (limit : Nat) :
    Repeats words tokens output 0 (procedureDivision limit) := by
  have parallel := parallelUnits_here retells
  have body : Repeats words tokens output 0 (procedureBody limit) :=
    parallel.tracks_procedureBody (repeats_sentences retells limit)
      (repeats_paragraphHeader retells)
  exact parallel.tracks_procedureDivision body (repeats_unitEnd retells)

theorem repeats_sourceUnit (limit : Nat) : Repeats words tokens output 0 (sourceUnit limit) := by
  have near := parallelUnits_here retells
  have far : ParallelUnits 2 Eq (Onward words tokens output 3) Eq
      (Rereads words tokens output 3) :=
    parallelUnits_rereads retells (Nat.le_succ 2) fun _ => Nat.lt_succ_self 2
  have procedure := repeats_procedureDivision retells limit
  -- the entries of a data division end before the header of the procedure division
  have data := repeats_bind far.tracks_dataDivision (fun _ => procedure)
    fun _ => writes_procedureDivision limit
  apply tracks_then near.tracks_identification
  intro _
  apply near.tracks_when rfl (near.tracks_divisionHeader _)
  exact near.tracks_choice rfl data procedure

theorem repeats_sourceUnits (limit : Nat) : Repeats words tokens output 0 (sourceUnits limit) :=
  (parallelUnits_here retells).tracks_sourceUnits (repeats_sourceUnit retells limit)

/-- The run that reads an output ends where the run that has written it does. -/
theorem rereads_sourceUnits {limit : Nat} {table : SymbolTable} {state : State}
    (units : (sourceUnits limit (.initial tokens table)).2 = state)
    (onward : Onward words tokens output 0 state) :
    Rereads words tokens output 0 state (sourceUnits limit (.initial output table)).2 := by
  subst units
  have tracked := repeats_sourceUnits retells limit
  have begun := tracked.alive onward
  exact (tracked.tracks ⟨begun, rfl, rfl⟩ onward).2

end Rereading

end State

end CobolCheck
