import CobolCheck.Proofs.Independence

/-!
# Entries of items that are declared already

An item whose name is taken has no key, so its clauses change nothing. They are read
all the same, just as if the name were new: two runs that differ in the key of an item
stay side by side, and all that one of them reports, the other one reports too.
-/

namespace CobolCheck

open Analysis

theorem Cause.concernsTable_eq_false {cause : Cause}
    (expected : ∀ problem, cause ≠ .general problem) : cause.concernsTable = false := by
  cases cause with
  | general problem => exact absurd rfl (expected problem)
  | _ => rfl

namespace State

/-! ## Describing an item -/

/-- Whether nothing was done but to describe the item under a key: no report was made about
the table, and the table is the same if there is no key. -/
structure Describes (key : Option SymbolKey) (before after : State) : Prop where
  table_eq : key = none → after.table = before.table
  exists_reports : ∃ made, after.reports = made ++ before.reports ∧
    ∀ report ∈ made, report.cause.concernsTable = false

variable {key : Option SymbolKey}

namespace Describes

theorem refl (state : State) : state.Describes key state :=
  ⟨fun _ => rfl, [], rfl, List.forall_mem_nil _⟩

theorem trans {first second third : State} (describes : first.Describes key second)
    (further : second.Describes key third) : first.Describes key third where
  table_eq nameless := (further.table_eq nameless).trans (describes.table_eq nameless)
  exists_reports := by
    obtain ⟨early, early_eq, apart⟩ := describes.exists_reports
    obtain ⟨late, late_eq, also⟩ := further.exists_reports
    refine ⟨late ++ early, ?_, List.forall_mem_append.mpr ⟨also, apart⟩⟩
    rw [late_eq, early_eq, List.append_assoc]

theorem skip (state : State) : state.Describes key state.skip :=
  ⟨fun _ => (still_skip state).table_eq, [], reports_skip state, List.forall_mem_nil _⟩

theorem report (state : State) (token : Token) {cause : Cause}
    (apart : cause.concernsTable = false) : state.Describes key (state.report token cause) :=
  ⟨fun _ => rfl, [⟨token, cause⟩], rfl, List.forall_mem_singleton.mpr apart⟩

end Describes

theorem remarking_describes (landmark : Landmark) (key : Option SymbolKey) :
    Remarking landmark (Describes key) where
  refl := .refl
  trans := .trans
  reports describes := by
    obtain ⟨made, made_eq, -⟩ := describes.exists_reports
    exact ⟨made, made_eq.symm⟩
  allow state _ := { Describes.skip (state.emit state.current) with }
  mismatch state _ expected :=
    (Describes.report state _ (Cause.concernsTable_eq_false expected)).trans (.skip _)
  remark state token _ apart := .report state token apart
  pass state token _ apart := (Describes.report state token apart).trans (.skip _)

theorem describes_revise (key : Option SymbolKey) (operation : Operation) :
    Obeys (Describes key) (revise key operation) := by
  intro state
  cases key with
  | none => exact .refl state
  | some declared => exact ⟨nofun, [], rfl, List.forall_mem_nil _⟩

/-! ## A duplicate beside a new item -/

/-- States that are alike have nothing different but their tables and their reports. -/
theorem AlikeBut.eq_of_alike {shared : SymbolKey → Prop} {first second : State}
    (alike : first.AlikeBut shared second) :
    first = { second with table := first.table, reports := first.reports } := by
  obtain ⟨behind, ahead, sentinel, output, -, unit, -, nesting, deepest⟩ := alike
  cases first
  cases second
  simp_all

/-- What is reported besides one report about the table is known from all other reports. -/
theorem eq_of_filter_append {made other before : List Report} {single : Report}
    (apart : ∀ report ∈ made, report.cause.concernsTable = false)
    (also : ∀ report ∈ other, report.cause.concernsTable = false)
    (about : single.cause.concernsTable = true)
    (same : ((made ++ single :: before).filter fun report => !report.cause.concernsTable) =
      (other ++ before).filter fun report => !report.cause.concernsTable) : made = other := by
  have made_eq : (made.filter fun report => !report.cause.concernsTable) = made :=
    List.filter_eq_self.mpr fun report member => by rw [apart report member, Bool.not_false]
  have other_eq : (other.filter fun report => !report.cause.concernsTable) = other :=
    List.filter_eq_self.mpr fun report member => by rw [also report member, Bool.not_false]
  rw [List.filter_append, List.filter_append, List.filter_cons, if_neg (by simp [about]), made_eq,
    other_eq] at same
  exact List.append_cancel_right same

/-- What two runs that describe an item report is the same, whether the item has a key
or has been reported instead. -/
theorem exists_made_of_describes {rest : Option SymbolKey → Analysis Unit}
    (described : ∀ key, Obeys (Describes key) (rest key))
    (tracked : ∀ key other, Tracks (fun _ => True) (AlikeBut fun _ => True) Eq
      (rest key) (rest other))
    (start : State) (token : Token) (cause : Cause) (about : cause.concernsTable = true)
    (key : SymbolKey) (table : SymbolTable) :
    ∃ made, (∀ report ∈ made, report.cause.concernsTable = false) ∧
      (rest (some key) { start with table }).2.reports = made ++ start.reports ∧
      (rest none (start.report token cause)).2 =
        { (rest (some key) { start with table }).2 with
          table := start.table
          reports := made ++ ⟨token, cause⟩ :: start.reports } := by
  have same : start.AlikeBut (fun _ => True) start := .refl start
  have begun : (start.report token cause).AlikeBut (fun _ => True) { start with table } :=
    (alikeBut_report start token about).trans
      { same with table_eq := fun _ unshared => absurd trivial unshared }
  have ended := ((tracked none (some key)).tracks begun trivial).2
  obtain ⟨table_eq, made, made_eq, apart⟩ := described none (start.report token cause)
  obtain ⟨-, other, other_eq, also⟩ := described (some key) { start with table }
  have same : made = other := by
    have reports_eq := ended.reports_eq
    rw [made_eq, other_eq] at reports_eq
    exact eq_of_filter_append apart also about reports_eq
  refine ⟨made, apart, same ▸ other_eq, ?_⟩
  rw [ended.eq_of_alike, made_eq, table_eq rfl]
  rfl

/-! ## The header of an entry -/

/-- The state after a level number and a name. -/
def pastName (state : State) : State :=
  ((state.emit (state.lookahead 0)).skip.emit (state.lookahead 1)).skip

/-- Passing over the level number and the name does not depend on the table, and it changes
nothing around the cursor. -/
theorem pastName_with_table (state : State) (table : SymbolTable) :
    ({ state with table } : State).pastName = { state.pastName with table } ∧
      state.pastName.unit = state.unit ∧ state.pastName.table = state.table ∧
      state.pastName.reports = state.reports := by
  obtain ⟨behind, ahead, sentinel, output, reports, unit, declared, nesting, deepest⟩ := state
  rcases ahead with _ | ⟨level, _ | ⟨name, rest⟩⟩
  all_goals exact ⟨rfl, rfl, rfl, rfl⟩

end State

namespace Analysis

variable {state : State} {create : String → Nat → Nat → Item}

/-- A name that is taken is reported with the item that has it. -/
theorem declare_of_get?_eq_some {name : Token} {stored : Item}
    (taken : state.table.get? (state.unit.key name.value) = some stored) (item : Item) :
    declare name item state = (none,
      state.report name (.general (.duplicateItem ⟨stored.identifier, stored.line⟩))) := by
  rw [declare, SymbolTable.add_of_get?_eq_some taken]

theorem exists_declare_of_get?_eq_none {name : Token}
    (new : state.table.get? (state.unit.key name.value) = none) (item : Item) :
    ∃ table, declare name item state =
      (some (state.unit.key name.value), { state with table }) := by
  obtain ⟨table, added⟩ := SymbolTable.exists_add_of_get?_eq_none new
    { item with inSection := state.unit.currentSection }
  exact ⟨table, by rw [declare, added]⟩

/-- The item that is made from the level number and the name at the cursor. -/
def headerItem (create : String → Nat → Nat → Item) (state : State) : Item :=
  create (state.lookahead 1).value ((Level.ofText? (state.lookahead 0).value).getD 0)
    (state.lookahead 1).line

/-- A header of a level number and a name declares an item of that name. -/
theorem entryHeader_eq_declare (numbered : (state.lookahead 0).category = .numeric)
    (named : (state.lookahead 1).category = .identifier) :
    entryHeader create state =
      declare (state.lookahead 1) (headerItem create state) state.pastName := by
  have isNumber : (Test.has [.numeric]).holds state = true :=
    (Test.holds_has_iff _ _).mpr (List.mem_singleton.mpr numbered)
  have number_eq : number state = ((), (state.emit (state.lookahead 0)).skip) := by
    rw [number, run_discard, operand, run_acceptIf, if_pos isNumber]
    rfl
  have current_eq : (state.emit (state.lookahead 0)).skip.current = state.lookahead 1 := by
    rw [State.current, State.lookahead_skip, State.lookahead_emit]
  have isName : (Test.has [.identifier]).holds (state.emit (state.lookahead 0)).skip = true :=
    (Test.holds_has_iff _ _).mpr (List.mem_singleton.mpr (current_eq ▸ named))
  have identifier_eq :
      identifier (state.emit (state.lookahead 0)).skip = (true, state.pastName) := by
    rw [identifier, operand, run_acceptIf, if_pos isName, current_eq]
    rfl
  rw [entryHeader, run_bind, run_word, run_bind, number_eq, run_bind, run_current, current_eq,
    run_bind, identifier_eq, if_pos rfl]
  rfl

theorem storageEntry_eq : storageEntry = entryHeader Item.storage >>= storageRest :=
  rfl

/-- The level number of a constant is reported if it is wrong, and read in any case. -/
theorem constantEntry_eq (state : State) :
    constantEntry state =
      if (Test.isAny ["01", "1"]).holds state then
        (entryHeader Item.constant >>= constantRest) state
      else
        (entryHeader Item.constant >>= constantRest)
          (state.report state.current (.general .constantLevel)) := by
  have unfolded : constantEntry = (do
      unless ← ask (.isAny ["01", "1"]) do reportHere (.general .constantLevel)
      entryHeader Item.constant >>= constantRest) := rfl
  rw [unfolded, run_bind, run_ask, run_ite]
  split
  · rfl
  · exact run_bind (reportHere _) (fun _ => entryHeader Item.constant >>= constantRest) state

/-- Nothing else is reported before the header of a constant, whatever is in the table. -/
theorem exists_early_constantEntry (state : State) :
    ∃ early : List Report, (∀ report ∈ early, report.cause.concernsTable = false) ∧
      ∀ table, constantEntry { state with table } =
        (entryHeader Item.constant >>= constantRest)
          { state with table, reports := early ++ state.reports } := by
  cases first : (Test.isAny ["01", "1"]).holds state with
  | true =>
      refine ⟨[], List.forall_mem_nil _, fun table => ?_⟩
      have held : (Test.isAny ["01", "1"]).holds { state with table } = true := first
      rw [constantEntry_eq, if_pos held, List.nil_append]
  | false =>
      refine ⟨[⟨state.current, .general .constantLevel⟩], List.forall_mem_singleton.mpr rfl,
        fun table => ?_⟩
      have other : ¬ (Test.isAny ["01", "1"]).holds { state with table } = true :=
        fun held => Bool.false_ne_true (first.symm.trans held)
      rw [constantEntry_eq, if_neg other, List.singleton_append]
      rfl

variable {rest : Option SymbolKey → Analysis Unit} {stored : Item} {fresh : SymbolTable}

/-- The entry of an item that is declared already, beside the entry of a new one. -/
theorem exists_made_of_taken (create : String → Nat → Nat → Item)
    (described : ∀ key, Obeys (State.Describes key) (rest key))
    (tracked : ∀ key other, Tracks (fun _ => True) (State.AlikeBut fun _ => True) Eq
      (rest key) (rest other))
    (numbered : (state.lookahead 0).category = .numeric)
    (named : (state.lookahead 1).category = .identifier)
    (taken : state.table.get? (state.unit.key (state.lookahead 1).value) = some stored)
    (new : fresh.get? (state.unit.key (state.lookahead 1).value) = none) :
    ∃ made, (∀ report ∈ made, report.cause.concernsTable = false) ∧
      ((entryHeader create >>= rest) { state with table := fresh }).2.reports =
        made ++ state.reports ∧
      ((entryHeader create >>= rest) state).2 =
        { ((entryHeader create >>= rest) { state with table := fresh }).2 with
          table := state.table
          reports := made ++ ⟨state.lookahead 1,
            .general (.duplicateItem ⟨stored.identifier, stored.line⟩)⟩ :: state.reports } := by
  obtain ⟨past_eq, unit_eq, table_eq, reports_eq⟩ := state.pastName_with_table fresh
  have present : state.pastName.table.get? (state.pastName.unit.key (state.lookahead 1).value) =
      some stored := by
    rwa [table_eq, unit_eq]
  have absent : ({ state.pastName with table := fresh } : State).table.get?
      (state.pastName.unit.key (state.lookahead 1).value) = none := by
    rwa [unit_eq]
  obtain ⟨table, added⟩ := exists_declare_of_get?_eq_none absent (headerItem create state)
  have refused := (entryHeader_eq_declare numbered named).trans
    (declare_of_get?_eq_some present (headerItem create state))
  have declared := (@entryHeader_eq_declare { state with table := fresh } create numbered
    named).trans ((congrArg (declare _ _) past_eq).trans added)
  rw [run_bind, run_bind, refused, declared, ← reports_eq, ← table_eq]
  exact State.exists_made_of_describes described tracked state.pastName _
    (.general (.duplicateItem _)) rfl _ table

/-- The entry of an item that is declared already changes nothing in the table, and it reports
that once, at its name. For the rest it ends as the entry of a new item does: it reads the same
tokens and reports the same. -/
theorem exists_reports_of_duplicate {entry : Analysis Unit}
    (isEntry : entry = storageEntry ∨ entry = constantEntry)
    (numbered : (state.lookahead 0).category = .numeric)
    (named : (state.lookahead 1).category = .identifier)
    (taken : state.table.get? (state.unit.key (state.lookahead 1).value) = some stored)
    (new : fresh.get? (state.unit.key (state.lookahead 1).value) = none) :
    ∃ early late : List Report,
      (∀ report ∈ late ++ early, report.cause.concernsTable = false) ∧
      (entry { state with table := fresh }).2.reports = late ++ (early ++ state.reports) ∧
      (entry state).2 =
        { (entry { state with table := fresh }).2 with
          table := state.table
          reports := late ++ ⟨state.lookahead 1,
            .general (.duplicateItem ⟨stored.identifier, stored.line⟩)⟩ ::
              (early ++ state.reports) } := by
  have parallel := State.parallel_alikeBut fun _ => True
  have keys (key other : Option SymbolKey) : State.KeysAlike (fun _ => True) key other :=
    .inr ⟨fun _ _ => trivial, fun _ _ => trivial⟩
  have foreign := Landmark.foreign_endOfInput
  obtain rfl | rfl := isEntry
  · have described (key : Option SymbolKey) : Obeys (State.Describes key) (storageRest key) :=
      (State.remarking_describes .endOfInput key).obeys_storageRest foreign
        (State.describes_revise key)
    obtain ⟨made, apart, beside, ended⟩ := exists_made_of_taken Item.storage described
      (fun key other => parallel.tracks_storageRest (keys key other)) numbered named taken new
    rw [storageEntry_eq]
    refine ⟨[], made, ?_, beside, ended⟩
    rwa [List.append_nil]
  · have described (key : Option SymbolKey) : Obeys (State.Describes key) (constantRest key) :=
      (State.remarking_describes .endOfInput key).obeys_constantRest foreign
        (State.describes_revise key)
    obtain ⟨early, remarked, run_eq⟩ := exists_early_constantEntry state
    obtain ⟨made, apart, beside, ended⟩ := @exists_made_of_taken
      { state with reports := early ++ state.reports } _ stored fresh Item.constant described
      (fun key other => parallel.tracks_constantRest (keys key other)) numbered named taken new
    have itself : constantEntry state = (entryHeader Item.constant >>= constantRest)
        { state with reports := early ++ state.reports } := run_eq state.table
    rw [itself, run_eq fresh]
    dsimp only at beside ended ⊢
    exact ⟨early, made, List.forall_mem_append.mpr ⟨apart, remarked⟩, beside, ended⟩

/-- An entry with two wrong clauses, in a unit that has its item already. -/
def takenEntry : State :=
  { State.initial (Source.tokenize "01 X PIC Q(4) VALUE.") numberTable with
    unit := ⟨"A", .program, none⟩ }

/-- Its clauses are reported beside the duplicate, as they are if the item is new. -/
theorem exists_reports_of_takenEntry :
    (storageEntry takenEntry).2.reports.map Report.cause =
      [.general .initialValue, .general .pictureType, .general (.duplicateItem ⟨"X", 1⟩)] ∧
    ∃ early late : List Report,
      (∀ report ∈ late ++ early, report.cause.concernsTable = false) ∧
      (storageEntry { takenEntry with table := .empty }).2.reports =
        late ++ (early ++ takenEntry.reports) ∧
      (storageEntry takenEntry).2 =
        { (storageEntry { takenEntry with table := .empty }).2 with
          table := numberTable
          reports := late ++ ⟨takenEntry.lookahead 1, .general (.duplicateItem ⟨"X", 1⟩)⟩ ::
            (early ++ takenEntry.reports) } := by
  have numbered : (takenEntry.lookahead 0).category = .numeric := by decide +kernel
  have named : (takenEntry.lookahead 1).category = .identifier := by decide +kernel
  have taken : takenEntry.table.get? (takenEntry.unit.key (takenEntry.lookahead 1).value) =
      some (Item.storage "X" 1 1) := by
    decide +kernel
  have reported : (storageEntry takenEntry).2.reports.map Report.cause =
      [.general .initialValue, .general .pictureType, .general (.duplicateItem ⟨"X", 1⟩)] := by
    decide +kernel
  exact ⟨reported, exists_reports_of_duplicate (.inl rfl) numbered named taken rfl⟩

end Analysis

end CobolCheck
