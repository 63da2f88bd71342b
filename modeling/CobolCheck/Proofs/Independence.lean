import CobolCheck.Check
import CobolCheck.Proofs.Division.Parallel

/-!
# Runs from different symbol tables

Files are analyzed one after the other, and each begins with the symbol table
that the files before it left. What is in that table makes a difference only to
an item of the same key: it is a duplicate then, and it can be returned. Nothing
else that an analysis does depends on the table.
-/

namespace CobolCheck

open Analysis

namespace State

/-- Whether two states differ in nothing but the items under some keys and the
reports about such items. -/
structure AlikeBut (shared : SymbolKey → Prop) (first second : State) : Prop where
  behind_eq : first.behind = second.behind
  ahead_eq : first.ahead = second.ahead
  sentinel_eq : first.sentinel = second.sentinel
  output_eq : first.output = second.output
  reports_eq : (first.reports.filter fun report => !report.cause.concernsTable) =
    second.reports.filter fun report => !report.cause.concernsTable
  unit_eq : first.unit = second.unit
  table_eq (key : SymbolKey) : ¬ shared key → first.table.get? key = second.table.get? key
  nesting_eq : first.nesting = second.nesting
  deepest_eq : first.deepest = second.deepest

variable {shared : SymbolKey → Prop}

namespace AlikeBut

theorem refl (state : State) : state.AlikeBut shared state :=
  ⟨rfl, rfl, rfl, rfl, rfl, rfl, fun _ _ => rfl, rfl, rfl⟩

theorem symm {first second : State} (alike : first.AlikeBut shared second) :
    second.AlikeBut shared first where
  behind_eq := alike.behind_eq.symm
  ahead_eq := alike.ahead_eq.symm
  sentinel_eq := alike.sentinel_eq.symm
  output_eq := alike.output_eq.symm
  reports_eq := alike.reports_eq.symm
  unit_eq := alike.unit_eq.symm
  table_eq key unshared := (alike.table_eq key unshared).symm
  nesting_eq := alike.nesting_eq.symm
  deepest_eq := alike.deepest_eq.symm

theorem trans {first second third : State} (alike : first.AlikeBut shared second)
    (further : second.AlikeBut shared third) : first.AlikeBut shared third where
  behind_eq := alike.behind_eq.trans further.behind_eq
  ahead_eq := alike.ahead_eq.trans further.ahead_eq
  sentinel_eq := alike.sentinel_eq.trans further.sentinel_eq
  output_eq := alike.output_eq.trans further.output_eq
  reports_eq := alike.reports_eq.trans further.reports_eq
  unit_eq := alike.unit_eq.trans further.unit_eq
  table_eq key unshared := (alike.table_eq key unshared).trans (further.table_eq key unshared)
  nesting_eq := alike.nesting_eq.trans further.nesting_eq
  deepest_eq := alike.deepest_eq.trans further.deepest_eq

theorem lookahead_eq {first second : State} (alike : first.AlikeBut shared second)
    (offset : Nat) : first.lookahead offset = second.lookahead offset := by
  rw [lookahead, lookahead, alike.ahead_eq, alike.sentinel_eq]

theorem skip {first second : State} (alike : first.AlikeBut shared second) :
    first.skip.AlikeBut shared second.skip := by
  cases next : first.ahead with
  | nil =>
      rw [skip_of_ahead_nil next, skip_of_ahead_nil (alike.ahead_eq ▸ next)]
      exact alike
  | cons token rest =>
      rw [skip_of_ahead_cons next, skip_of_ahead_cons (alike.ahead_eq ▸ next)]
      exact { alike with
        behind_eq := congrArg (token :: ·) alike.behind_eq
        ahead_eq := rfl }

theorem report {first second : State} (alike : first.AlikeBut shared second) (token : Token)
    (cause : Cause) : (first.report token cause).AlikeBut shared (second.report token cause) :=
  { alike with
    reports_eq := by
      rw [State.report, State.report, List.filter_cons, List.filter_cons, alike.reports_eq] }

end AlikeBut

/-! ## Items under shared keys -/

/-- A report about the table makes no difference. -/
theorem alikeBut_report (state : State) (token : Token) {cause : Cause}
    (concerns : cause.concernsTable = true) :
    (state.report token cause).AlikeBut shared state :=
  { AlikeBut.refl state with
    reports_eq := by
      rw [State.report, List.filter_cons, if_neg (by simp [concerns])] }

/-- To declare an item under a shared key makes no difference, whether it can be done or not. -/
theorem alikeBut_declare (state : State) (name : Token) (item : Item)
    (inside : shared (state.unit.key name.value)) :
    (declare name item state).2.AlikeBut shared state := by
  unfold declare
  dsimp only
  split
  · next table added =>
    have same : state.AlikeBut shared state := .refl state
    refine { same with table_eq := fun key unshared => ?_ }
    rw [SymbolTable.get?_of_add_eq_ok added, if_neg]
    rintro rfl
    exact unshared inside
  · exact alikeBut_report state name rfl

theorem fst_declare (state : State) (name : Token) (item : Item) :
    ∀ key ∈ (declare name item state).1, key = state.unit.key name.value := by
  unfold declare
  dsimp only
  split
  · rintro _ ⟨⟩
    rfl
  · rintro _ ⟨⟩

theorem alikeBut_reviseBy (state : State) {key : Option SymbolKey}
    (inside : ∀ declared ∈ key, shared declared) (operation : SymbolKey → Operation) :
    (reviseBy key operation state).2.AlikeBut shared state := by
  cases key with
  | none => exact .refl state
  | some declared =>
      have same : state.AlikeBut shared state := .refl state
      refine { same with table_eq := fun key unshared => ?_ }
      change (state.table.update declared (operation declared).change).get? key = _
      rw [SymbolTable.get?_update, if_neg]
      rintro rfl
      exact unshared (inside key rfl)

theorem alikeBut_checkReturned (state : State) (name : String) :
    (checkReturned name state).2.AlikeBut shared state := by
  unfold checkReturned
  rw [run_bind, run_ite]
  split
  · exact .refl state
  · exact alikeBut_report state _ rfl

/-! ## Items under other keys -/

theorem AlikeBut.declare {first second : State} (alike : first.AlikeBut shared second)
    (name : Token) (item : Item) (outside : ¬ shared (first.unit.key name.value)) :
    (Analysis.declare name item first).1 = (Analysis.declare name item second).1 ∧
      (Analysis.declare name item first).2.AlikeBut shared
        (Analysis.declare name item second).2 := by
  have found := alike.table_eq _ outside
  unfold Analysis.declare
  dsimp only
  rw [← alike.unit_eq]
  cases present : first.table.get? (first.unit.key name.value) with
  | some existing =>
      rw [SymbolTable.add_of_get?_eq_some present,
        SymbolTable.add_of_get?_eq_some (found ▸ present)]
      exact ⟨rfl, alike.report name _⟩
  | none =>
      obtain ⟨table, added⟩ := SymbolTable.exists_add_of_get?_eq_none present
        { item with inSection := first.unit.currentSection }
      obtain ⟨other, also⟩ := SymbolTable.exists_add_of_get?_eq_none (found ▸ present)
        { item with inSection := first.unit.currentSection }
      rw [added, also]
      refine ⟨rfl, { alike with unit_eq := rfl, table_eq := fun key unshared => ?_ }⟩
      dsimp only
      rw [SymbolTable.get?_of_add_eq_ok added, SymbolTable.get?_of_add_eq_ok also,
        alike.table_eq key unshared]

theorem AlikeBut.reviseBy {first second : State} (alike : first.AlikeBut shared second)
    (key : Option SymbolKey) (operation : SymbolKey → Operation) :
    (Analysis.reviseBy key operation first).2.AlikeBut shared
      (Analysis.reviseBy key operation second).2 := by
  cases key with
  | none => exact alike
  | some declared =>
      refine { alike with table_eq := fun key unshared => ?_ }
      change (first.table.update declared (operation declared).change).get? key =
        (second.table.update declared (operation declared).change).get? key
      rw [SymbolTable.get?_update, SymbolTable.get?_update]
      split
      · next same =>
        subst same
        rw [alike.table_eq key unshared]
      · exact alike.table_eq key unshared

/-! ## Runs side by side -/

/-- The keys of an item in two runs: the same one, unless it is shared. -/
def KeysAlike (shared : SymbolKey → Prop) (key other : Option SymbolKey) : Prop :=
  key = other ∨ (∀ declared ∈ key, shared declared) ∧ ∀ declared ∈ other, shared declared

theorem aligned_alikeBut (shared : SymbolKey → Prop) :
    Aligned Eq (fun _ => True) (AlikeBut shared) where
  alike := by
    rintro token _ rfl
    exact ⟨rfl, rfl, rfl⟩
  recast := by
    rintro token _ value category context rfl
    rfl
  refl _ _ := rfl
  before _ _ := trivial
  lookahead alike _ := alike.lookahead_eq _
  reading afterOperand alike := by
    simp only [reading, current, alike.lookahead_eq, alike.ahead_eq]
  previous alike := by
    rw [previous, previous, alike.behind_eq, current, current, alike.lookahead_eq]
  moved alike further := by
    rw [remaining, remaining, remaining, remaining, alike.ahead_eq, further.ahead_eq]
  skip alike _ := alike.skip
  emit := by
    rintro first second token _ alike rfl
    exact { alike with output_eq := congrArg (token :: ·) alike.output_eq }
  report := by
    rintro first second token _ cause alike rfl _
    exact alike.report token cause
  nest nesting deepest alike :=
    { alike with
      nesting_eq := by simp only [alike.nesting_eq, alike.deepest_eq]
      deepest_eq := by simp only [alike.nesting_eq, alike.deepest_eq] }

theorem parallel_alikeBut (shared : SymbolKey → Prop) :
    ParallelUnits 2 Eq (fun _ => True) (KeysAlike shared) (AlikeBut shared) where
  toParallel := (aligned_alikeBut shared).parallel
  nameless := .inl rfl
  refl_key _ _ := .inl rfl
  unit alike := alike.unit_eq
  withUnit unit alike := { alike with unit_eq := rfl }
  declare := by
    rintro first second name _ create _ level alike rfl _
    by_cases inside : shared (first.unit.key name.value)
    · refine ⟨.inr ⟨?_, ?_⟩, ?_⟩
      · intro key declared
        rwa [fst_declare first name _ key declared]
      · intro key declared
        rwa [fst_declare second name _ key declared, ← alike.unit_eq]
      · have also := alike.unit_eq ▸ inside
        exact (alikeBut_declare first name _ inside).trans
          (alike.trans (alikeBut_declare second name _ also).symm)
    · obtain ⟨keys, states⟩ := alike.declare name (create name.value level name.line) inside
      exact ⟨.inl keys, states⟩
  revise := by
    rintro first second key other operation alike (rfl | ⟨inside, also⟩)
    · exact alike.reviseBy key operation
    · exact (alikeBut_reviseBy first inside operation).trans
        (alike.trans (alikeBut_reviseBy second also operation).symm)
  returned name alike _ :=
    (alikeBut_checkReturned _ name).trans (alike.trans (alikeBut_checkReturned _ name).symm)

/-- Whether a state differs from another one only in reports that were made before. -/
def Above (earlier : List Report) (state other : State) : Prop :=
  other = { state with reports := state.reports ++ earlier }

/-- What was reported before is never looked at. -/
theorem aligned_above (earlier : List Report) :
    Aligned Eq (fun _ => True) (Above earlier) where
  alike := by
    rintro token _ rfl
    exact ⟨rfl, rfl, rfl⟩
  recast := by
    rintro token _ value category context rfl
    rfl
  refl _ _ := rfl
  before _ _ := trivial
  lookahead := by
    rintro state _ offset rfl _
    rfl
  reading := by
    rintro state _ afterOperand rfl
    rfl
  previous := by
    rintro state _ rfl
    rfl
  moved := by
    rintro first _ third _ rfl rfl
    rfl
  skip := by
    rintro ⟨behind, ahead, sentinel, output, reports, unit, table, nesting, deepest⟩ _ rfl _
    cases ahead <;> rfl
  emit := by
    rintro state _ token _ rfl rfl
    rfl
  report := by
    rintro state _ token _ cause rfl rfl _
    rfl
  nest := by
    rintro state _ nesting deepest rfl
    rfl

theorem parallel_above (earlier : List Report) :
    ParallelUnits 2 Eq (fun _ => True) Eq (Above earlier) where
  toParallel := (aligned_above earlier).parallel
  nameless := rfl
  refl_key _ _ := rfl
  unit := by
    rintro state _ rfl
    rfl
  withUnit := by
    rintro state _ unit rfl
    rfl
  declare := by
    rintro state _ name _ create _ level rfl rfl _
    unfold Analysis.declare
    dsimp only
    split
    · exact ⟨rfl, rfl⟩
    · exact ⟨rfl, rfl⟩
  revise := by
    rintro state _ key _ operation rfl rfl
    cases key <;> rfl
  returned := by
    rintro state _ name rfl _
    unfold checkReturned
    rw [run_bind, run_bind, run_ite, run_ite]
    dsimp only
    split <;> rfl

end State

/-! ## Analyses of a file -/

section Analyses

variable (tokens : List Token) (table other : SymbolTable)

/-- The keys of items that are declared before one of two analyses. -/
def Declared (table other : SymbolTable) (key : SymbolKey) : Prop :=
  table.get? key ≠ none ∨ other.get? key ≠ none

theorem alikeBut_initial : State.AlikeBut (Declared table other) (.initial tokens table)
    (.initial tokens other) := by
  have same : State.AlikeBut (Declared table other) (.initial tokens table)
      (.initial tokens table) := .refl _
  refine { same with table_eq := fun key undeclared => ?_ }
  rw [Declared, not_or, Classical.not_not, Classical.not_not] at undeclared
  exact undeclared.1.trans undeclared.2.symm

theorem alikeBut_firstUnits (limit units : Nat) : State.AlikeBut (Declared table other)
    (firstUnits limit units (.initial tokens table)).2
    (firstUnits limit units (.initial tokens other)).2 :=
  have parallel := State.parallel_alikeBut (Declared table other)
  have unit := parallel.tracks_sourceUnit (parallel.tracks_sentences limit)
  ((parallel.tracks_firstUnits unit units).tracks (alikeBut_initial tokens table other) trivial).2

theorem alikeBut_sourceText (limit : Nat) : State.AlikeBut (Declared table other)
    (sourceText limit (.initial tokens table)).2 (sourceText limit (.initial tokens other)).2 :=
  have parallel := State.parallel_alikeBut (Declared table other)
  have finish := (State.aligned_alikeBut (Declared table other)).tracks_finish
  ((parallel.tracks_sourceText (parallel.tracks_sentences limit) finish).tracks
    (alikeBut_initial tokens table other) trivial).2

theorem above_sourceText (limit : Nat) (earlier : List Report) :
    State.Above earlier (sourceText limit (.initial tokens table)).2
      (sourceText limit { State.initial tokens table with reports := earlier }).2 :=
  have parallel := State.parallel_above earlier
  have finish := (State.aligned_above earlier).tracks_finish
  ((parallel.tracks_sourceText (parallel.tracks_sentences limit) finish).tracks rfl trivial).2

end Analyses

/-- The diagnostics of a state that are not about the table. -/
theorem filter_diagnostics (file : String) (state : State) :
    ((state.outcome file).diagnostics.filter fun found => !found.cause.concernsTable) =
      (state.reports.filter fun report => !report.cause.concernsTable).reverse.map
        (Report.inFile file) := by
  rw [State.outcome, List.filter_map, List.filter_reverse]
  rfl

theorem Outcome.result_eq_error_iff (outcome : Outcome) (count : Nat) :
    outcome.result = .error ⟨count⟩ ↔ 0 < count ∧ outcome.diagnostics.length = count := by
  unfold Outcome.result
  cases outcome.diagnostics with
  | nil =>
      simp
      omega
  | cons first rest =>
      simp
      omega

/-- What was declared before makes no difference to an analysis but for items of
the same key. After every source unit and at the end, two analyses of a file
from different tables have passed over the same tokens, accepted the same ones
and reported the same, but for reports about such items, and they agree about
all other items. An analysis adds to what was reported before, and it fails with
the number of its own diagnostics, all of which are about its file. -/
theorem analyze_of_tables (file : String) (tokens : List Token) (table other : SymbolTable) :
    (∀ units, State.AlikeBut (Declared table other)
      (firstUnits maxNesting units (.initial tokens table)).2
      (firstUnits maxNesting units (.initial tokens other)).2) ∧
    State.AlikeBut (Declared table other) (sourceText maxNesting (.initial tokens table)).2
      (sourceText maxNesting (.initial tokens other)).2 ∧
    (analyze file tokens table).output = (analyze file tokens other).output ∧
    ((analyze file tokens table).diagnostics.filter fun found => !found.cause.concernsTable) =
      ((analyze file tokens other).diagnostics.filter fun found => !found.cause.concernsTable) ∧
    (∀ key, table.get? key = none → other.get? key = none →
      (analyze file tokens table).table.get? key = (analyze file tokens other).table.get? key) ∧
    (∀ earlier, State.Above earlier (sourceText maxNesting (.initial tokens table)).2
      (sourceText maxNesting { State.initial tokens table with reports := earlier }).2) ∧
    (∀ count, (analyze file tokens table).result = .error ⟨count⟩ ↔
      0 < count ∧ (analyze file tokens table).diagnostics.length = count) ∧
    ∀ found ∈ (analyze file tokens table).diagnostics, found.file = file := by
  have alike := alikeBut_sourceText tokens table other maxNesting
  refine ⟨alikeBut_firstUnits tokens table other maxNesting, alike,
    congrArg List.reverse alike.output_eq, ?_, fun key absent also => ?_,
    above_sourceText tokens table maxNesting, fun count => Outcome.result_eq_error_iff _ count,
    fun found member => file_of_mem_diagnostics member⟩
  · rw [analyze, analyzeWithin, analyze, analyzeWithin, filter_diagnostics, filter_diagnostics,
      alike.reports_eq]
  · refine alike.table_eq key ?_
    rw [Declared, not_or, Classical.not_not, Classical.not_not]
    exact ⟨absent, also⟩

/-- A program that declares two numbers. -/
def numbersProgram : String :=
  "PROGRAM-ID. A. DATA DIVISION. WORKING-STORAGE SECTION. 01 X PIC 9(4). 01 Y PIC 9(2).
PROCEDURE DIVISION."

/-- A table in which the first of the two is declared already. -/
def numberTable : SymbolTable :=
  ⟨[(⟨"A", "X"⟩, Item.storage "X" 1 1)], by simp⟩

/-- From that table the first number is a duplicate, which makes no difference to the second. -/
theorem analyze_of_numberTable :
    (analyze "b.cob" (Source.tokenize numbersProgram) .empty).diagnostics = [] ∧
    ((analyze "b.cob" (Source.tokenize numbersProgram) numberTable).diagnostics.map
      Diagnostic.cause) = [.general (.duplicateItem ⟨"X", 1⟩)] ∧
    numberTable.get? ⟨"A", "Y"⟩ = none ∧ SymbolTable.empty.get? ⟨"A", "Y"⟩ = none ∧
    (analyze "b.cob" (Source.tokenize numbersProgram) numberTable).table.get? ⟨"A", "Y"⟩ =
      (analyze "b.cob" (Source.tokenize numbersProgram) .empty).table.get? ⟨"A", "Y"⟩ :=
  have agree := (analyze_of_tables "b.cob" (Source.tokenize numbersProgram) numberTable .empty)
  ⟨by decide +kernel, by decide +kernel, by decide, by decide,
    agree.2.2.2.2.1 ⟨"A", "Y"⟩ (by decide) (by decide)⟩

end CobolCheck
