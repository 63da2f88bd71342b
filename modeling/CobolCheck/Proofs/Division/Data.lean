import CobolCheck.Division.DataDivision
import CobolCheck.Proofs.Division.Clauses

/-!
# Reading data divisions

The descriptions of the grammar are read section by section up to the procedure
division, and the table gains their items in order.
-/

namespace CobolCheck

open Grammar

/-! ## Gains -/

namespace SymbolTable

variable {table middle next : SymbolTable} {unit : String} {first second : List Item}

theorem Gains.refl (table : SymbolTable) (unit : String) : table.Gains unit [] table :=
  ⟨[], (List.append_nil _).symm, rfl⟩

theorem Gains.trans (early : table.Gains unit first middle) (late : middle.Gains unit second next) :
    table.Gains unit (first ++ second) next := by
  obtain ⟨added, entries_eq, added_eq⟩ := early
  obtain ⟨further, further_eq, items_eq⟩ := late
  refine ⟨added ++ further, ?_, ?_⟩
  · rw [further_eq, entries_eq, List.append_assoc]
  · rw [List.map_append, added_eq, items_eq, List.map_append]

theorem Gains.keys_eq {items : List Item} (gains : table.Gains unit items next) :
    next.keys = table.keys ++ items.map fun item => ⟨unit, item.identifier⟩ := by
  obtain ⟨added, entries_eq, added_eq⟩ := gains
  have keys := congrArg (List.map Prod.fst) added_eq
  rw [List.map_map, List.map_map] at keys
  rw [SymbolTable.keys, entries_eq, List.map_append]
  exact congrArg _ keys

/-- The names of some items are not taken in a unit, nor by one another. -/
def Fresh (table : SymbolTable) (unit : String) (items : List Item) : Prop :=
  (table.keys ++ items.map fun item => SymbolKey.mk unit item.identifier).Nodup

theorem Fresh.notMem {items : List Item} {item : Item} (fresh : table.Fresh unit items)
    (listed : item ∈ items) : ⟨unit, item.identifier⟩ ∉ table.keys := by
  intro taken
  have disjoint := (List.nodup_append.mp fresh).2.2 _ taken _ (List.mem_map_of_mem listed)
  exact disjoint rfl

theorem Fresh.left (fresh : table.Fresh unit (first ++ second)) : table.Fresh unit first := by
  rw [Fresh, List.map_append, ← List.append_assoc] at fresh
  exact (List.nodup_append.mp fresh).1

/-- Items that were gained take the names of no others. -/
theorem Fresh.of_gains (fresh : table.Fresh unit (first ++ second))
    (gains : table.Gains unit first next) : next.Fresh unit second := by
  rw [Fresh, List.map_append, ← List.append_assoc] at fresh
  rw [Fresh, gains.keys_eq]
  exact fresh

end SymbolTable

namespace Gained

variable {base middle declared : SourceUnit × SymbolTable} {first second : List Item}

theorem refl (base : SourceUnit × SymbolTable) : Gained base [] base :=
  ⟨rfl, .refl base.2 base.1.name⟩

theorem trans (early : Gained base first middle) (late : Gained middle second declared) :
    Gained base (first ++ second) declared := by
  obtain ⟨unit_eq, gains⟩ := early
  obtain ⟨further_eq, further⟩ := late
  rw [unit_eq] at further
  exact ⟨further_eq.trans unit_eq, gains.trans further⟩

end Gained

namespace Analysis

variable {start : SourceUnit × SymbolTable} {kind : DataSection} {words rest : List String}

/-! ## Descriptions -/

/-- A loop that reads one thing of a list in each round reads all of them. What
follows each of them has the property that it needs. -/
theorem reads_whilst {β : Type} {test : Test} {body : Analysis Unit} {written : β → List String}
    {listed : List β} (kind : DataSection) (items : β → List Item) (follows : List String → Prop)
    (nonempty : ∀ one, written one ≠ [])
    (begins : ∀ one ∈ listed, ∀ more,
      test.on (written one ++ more) = true ∧ follows (written one ++ more))
    (reads : ∀ one ∈ listed, ∀ next more, follows more → next.1.currentSection = some kind →
      next.2.Fresh next.1.name (items one) →
      Reads next body (written one) more fun _ declared => Gained next (items one) declared)
    (ended : test.on rest = false) (follow : follows rest)
    (section_eq : start.1.currentSection = some kind)
    (fresh : start.2.Fresh start.1.name (listed.flatMap items)) :
    Reads start (whilst test body) (listed.flatMap written) rest
      fun _ declared => Gained start (listed.flatMap items) declared := by
  induction listed generalizing start with
  | nil =>
      apply (accepts_whilst_nil body ended).mono
      rintro _ _ rfl
      exact .refl _
  | cons one listed ih =>
      rw [List.forall_mem_cons] at begins reads
      rw [List.flatMap_cons] at fresh
      have next_follows : follows (listed.flatMap written ++ rest) := by
        cases listed with
        | nil => exact follow
        | cons next listed =>
            rw [List.flatMap_cons, List.append_assoc]
            exact (begins.2 next List.mem_cons_self _).2
      apply Reads.whilst_cons (nonempty one)
      · exact (begins.1 _).1
      · exact reads.1 start _ next_follows section_eq fresh.left
      · intro middle gained
        apply (ih begins.2 reads.2 _ _).mono
        · intro _ _ further
          exact gained.trans further
        · rw [gained.unit_eq]
          exact section_eq
        · rw [gained.unit_eq]
          exact fresh.of_gains gained.gains

theorem on_subordinate {entry : StorageEntry} (wellFormed : entry.WellFormed)
    (level : Level.isSubordinate entry.level = true) (more : List String) :
    Test.subordinate.on (entry.words ++ more) = true := by
  obtain ⟨category, listed, role⟩ := wellFormed.level
  obtain rfl := List.mem_singleton.mp listed
  simp [Test.on, StorageEntry.words, roleAt_cons_zero role, level]

/-- The items that belong to a record are declared one after the other. -/
theorem reads_subordinates {items : List StorageEntry}
    (belong : ∀ item ∈ items, Level.isSubordinate item.level = true ∧ item.WellFormed)
    (ended : Test.subordinate.on rest = false) (section_eq : start.1.currentSection = some kind)
    (fresh : start.2.Fresh start.1.name (items.map (StorageEntry.item kind))) :
    Reads start (whilst .subordinate storageEntry) (items.flatMap StorageEntry.words) rest
      fun _ declared => Gained start (items.map (StorageEntry.item kind)) declared := by
  rw [List.map_eq_flatMap] at fresh ⊢
  apply reads_whilst kind _ fun _ => True
  · exact fun _ => List.cons_ne_nil _ _
  · intro item listed more
    exact ⟨on_subordinate (belong item listed).2 (belong item listed).1 more, trivial⟩
  · intro item listed next more _ section_eq fresh
    exact reads_storageEntry (belong item listed).2 (fresh.notMem List.mem_cons_self) section_eq
  · exact ended
  · trivial
  · exact section_eq
  · exact fresh

/-- A record declares its own item and then the items that belong to it. -/
theorem reads_recordEntries {entry : StorageEntry} {items : List StorageEntry}
    (wellFormed : entry.WellFormed)
    (belong : ∀ item ∈ items, Level.isSubordinate item.level = true ∧ item.WellFormed)
    (ended : Test.subordinate.on rest = false) (section_eq : start.1.currentSection = some kind)
    (fresh : start.2.Fresh start.1.name
      ([entry.item kind] ++ items.map (StorageEntry.item kind))) :
    Reads start recordEntries (Description.words (.record entry items)) rest fun _ declared =>
      Gained start ([entry.item kind] ++ items.map (StorageEntry.item kind)) declared := by
  apply Reads.bind (reads_storageEntry wellFormed (fresh.notMem List.mem_cons_self) section_eq)
  intro _ middle gained
  have same : middle.1.currentSection = some kind := by
    rw [gained.unit_eq]
    exact section_eq
  have others : middle.2.Fresh middle.1.name (items.map (StorageEntry.item kind)) := by
    rw [gained.unit_eq]
    exact fresh.of_gains gained.gains
  apply (reads_subordinates belong ended same others).mono
  intro _ _ further
  exact gained.trans further

/-- The word CONSTANT does not follow the name of a storage entry. -/
theorem on_constant_eq_false {entry : StorageEntry} (wellFormed : entry.WellFormed)
    (more : List String) : (Test.word 2 ["CONSTANT"]).on (entry.words ++ more) = false := by
  have other := (begins_clauses wellFormed.clauses more).textAt_ne
    (show "CONSTANT" ∉ clauseEnds by decide)
  simpa [Test.on, StorageEntry.words] using other

/-- A description declares its items where no item of a record follows. -/
theorem reads_entries {description : Description} (wellFormed : description.WellFormed)
    (ended : Test.subordinate.on rest = false) (section_eq : start.1.currentSection = some kind)
    (fresh : start.2.Fresh start.1.name (description.items kind)) :
    Reads start entries description.words rest
      fun _ declared => Gained start (description.items kind) declared := by
  cases description with
  | independent entry =>
      obtain ⟨level, wellFormed⟩ := wellFormed
      apply Reads.refused (on_constant_eq_false wellFormed rest)
      apply Reads.held
      · simp [StorageEntry.words, level, Test.on, Test.is]
      · exact reads_storageEntry wellFormed (fresh.notMem List.mem_cons_self) section_eq
  | record entry items =>
      obtain ⟨level, wellFormed, belong⟩ := wellFormed
      apply Reads.refused
      · rw [Description.words, List.append_assoc]
        exact on_constant_eq_false wellFormed _
      apply Reads.refused
      · have other : ∀ word ∈ ["01", "1"], word ≠ "77" := by
          decide
        exact on_is_eq_false (other _ level)
      apply Reads.held
      · simpa [Description.words, StorageEntry.words, Test.on, Test.isAny] using level
      · exact reads_recordEntries wellFormed belong ended section_eq fresh
  | constant entry =>
      apply Reads.held (by simp [Description.words, ConstantEntry.words, Test.on])
      exact reads_constantEntry wellFormed (fresh.notMem List.mem_cons_self) section_eq

/-! ## Sections -/

/-- The words before which the descriptions of a section end. -/
def sectionEnds : List String :=
  "PROCEDURE" :: DataSection.all.map DataSection.keyword

/-- A description begins with a level number that belongs to no record. -/
theorem begins_description {description : Description} (wellFormed : description.WellFormed) :
    Begins ["77", "01", "1"] description.words := by
  cases description with
  | independent entry => exact begins_cons (by simp [wellFormed.1]) _
  | record entry items => exact begins_cons (List.mem_cons_of_mem _ wellFormed.1) _
  | constant entry => exact begins_cons (List.mem_cons_of_mem _ wellFormed.level) _

theorem isOperand_independent : ∀ word ∈ ["77", "01", "1"], IsOperand [.numeric] word := by
  decide +kernel

theorem on_subordinate_eq_false {choices : List String} (begins : Begins choices words)
    (independent : ∀ word ∈ choices, Level.isSubordinate word = false) :
    Test.subordinate.on words = false := by
  obtain ⟨word, listed, more, rfl⟩ := begins
  simp [Test.on, independent word listed]

/-- A section declares the items of its descriptions. -/
theorem reads_dataSection {listed : List Description}
    (wellFormed : ∀ description ∈ listed, description.WellFormed)
    (follows : Begins sectionEnds rest)
    (fresh : start.2.Fresh start.1.name (listed.flatMap (Description.items kind))) :
    Reads start (dataSection kind)
      (kind.keyword :: "SECTION" :: "." :: listed.flatMap Description.words) rest
      fun _ declared => Gained ({ start.1 with currentSection := some kind }, start.2)
        (listed.flatMap (Description.items kind)) declared := by
  have begun : Reads start (beginSection kind) []
      (kind.keyword :: "SECTION" :: "." :: listed.flatMap Description.words ++ rest)
      fun _ declared => declared = ({ start.1 with currentSection := some kind }, start.2) := by
    rintro state - rfl
    exact ⟨rfl, state.passed_declared _ _⟩
  rw [← List.nil_append (kind.keyword :: _)]
  apply Reads.bind begun
  rintro _ _ rfl
  apply Reads.expect_bind
  apply Reads.expect_bind
  apply Reads.expect_bind
  apply reads_whilst kind _ fun more => Test.subordinate.on more = false
  · intro description
    cases description <;> exact List.cons_ne_nil _ _
  · intro description member more
    have begins := begins_description (wellFormed description member)
    constructor
    · obtain ⟨word, known, front, words_eq⟩ := begins
      rw [words_eq]
      exact on_has (isOperand_independent word known) _
    · exact on_subordinate_eq_false (begins.append more) (by decide)
  · intro description member next more ended section_eq fresh
    exact reads_entries (wellFormed description member) ended section_eq fresh
  · exact follows.on_has_eq_false (by decide) (by decide)
  · exact on_subordinate_eq_false follows (by decide)
  · rfl
  · exact fresh

/-! ## Divisions -/

/-- The section of a unit may be another one, and the items are declared. -/
structure Expanded (base : SourceUnit × SymbolTable) (items : List Item)
    (declared : SourceUnit × SymbolTable) : Prop where
  name_eq : declared.1.name = base.1.name
  kind_eq : declared.1.kind = base.1.kind
  gains : base.2.Gains base.1.name items declared.2

/-- The words of some sections begin with one of them, or are those that follow. -/
theorem begins_sections {descriptions : Descriptions} (kinds : List DataSection) :
    Begins ("PROCEDURE" :: kinds.map DataSection.keyword)
      (kinds.flatMap descriptions.sectionWords ++ "PROCEDURE" :: rest) := by
  induction kinds with
  | nil => exact begins_cons List.mem_cons_self rest
  | cons kind kinds ih =>
      rw [List.flatMap_cons, Descriptions.sectionWords]
      cases descriptions kind with
      | none => exact ih.mono (by simp +contextual)
      | some listed => exact begins_cons (by simp) _

/-- A section is read if it is there and its word is not among those that follow. -/
theorem reads_optionalSection {descriptions : Descriptions} {kinds : List DataSection}
    (wellFormed : descriptions.WellFormed)
    (follows : Begins ("PROCEDURE" :: kinds.map DataSection.keyword) rest)
    (other : kind.keyword ∉ kinds.map DataSection.keyword)
    (fresh : start.2.Fresh start.1.name (descriptions.sectionItems kind)) :
    Reads start (do if ← ask (.is kind.keyword) then dataSection kind)
      (descriptions.sectionWords kind) rest
      fun _ declared => Expanded start (descriptions.sectionItems kind) declared := by
  rw [Descriptions.sectionItems] at fresh ⊢
  rw [Descriptions.sectionWords]
  cases described : descriptions kind with
  | none =>
      apply Reads.refused
      · have missing : kind.keyword ∉ "PROCEDURE" :: kinds.map DataSection.keyword := by
          rw [List.mem_cons, not_or]
          constructor
          · cases kind <;> decide
          · exact other
        exact follows.on_is_eq_false missing
      · exact .pure ⟨rfl, rfl, .refl _ _⟩
  | some listed =>
      rw [described] at fresh
      have known : ∀ word ∈ "PROCEDURE" :: kinds.map DataSection.keyword, word ∈ sectionEnds := by
        intro word member
        rcases List.mem_cons.mp member with rfl | keyword
        · exact List.mem_cons_self
        · obtain ⟨kind, -, rfl⟩ := List.mem_map.mp keyword
          cases kind <;> decide
      apply Reads.held (on_is _ _)
      apply (reads_dataSection (wellFormed kind listed described) (follows.mono known) fresh).mono
      rintro _ _ ⟨unit_eq, gains⟩
      constructor
      · rw [unit_eq]
      · rw [unit_eq]
      · exact gains

/-- The sections of a data division are read in their order, and any may be missing. -/
theorem reads_sections {descriptions : Descriptions} {kinds : List DataSection}
    (wellFormed : descriptions.WellFormed) (ordered : (kinds.map DataSection.keyword).Nodup)
    (fresh : start.2.Fresh start.1.name (kinds.flatMap descriptions.sectionItems)) :
    Reads start (kinds.forM fun kind => do if ← ask (.is kind.keyword) then dataSection kind)
      (kinds.flatMap descriptions.sectionWords) ("PROCEDURE" :: rest)
      fun _ declared => Expanded start (kinds.flatMap descriptions.sectionItems) declared := by
  induction kinds generalizing start with
  | nil => exact .pure ⟨rfl, rfl, .refl _ _⟩
  | cons kind kinds ih =>
      rw [List.map_cons, List.nodup_cons] at ordered
      rw [List.flatMap_cons] at fresh
      apply Reads.bind
        (reads_optionalSection wellFormed (begins_sections kinds) ordered.1 fresh.left)
      rintro _ middle ⟨name_eq, kind_eq, gains⟩
      have others : middle.2.Fresh middle.1.name (kinds.flatMap descriptions.sectionItems) := by
        rw [name_eq]
        exact fresh.of_gains gains
      apply (ih ordered.2 others).mono
      rintro _ _ ⟨further_name, further_kind, further⟩
      rw [name_eq] at further
      exact ⟨further_name.trans name_eq, further_kind.trans kind_eq, gains.trans further⟩

/-- A data division declares its items up to the procedure division. -/
theorem reads_dataDivision {descriptions : Descriptions} (wellFormed : descriptions.WellFormed)
    (fresh : start.2.Fresh start.1.name descriptions.items) :
    Reads start dataDivision descriptions.words ("PROCEDURE" :: rest)
      fun _ declared => Expanded start descriptions.items declared := by
  have header : Accepts start (divisionHeader .data) ["DATA", "DIVISION", "."]
      (DataSection.all.flatMap descriptions.sectionWords ++ "PROCEDURE" :: rest) := by
    apply Reads.expect_bind
    apply Reads.expect_bind
    exact accepts_expectOr _ _ _
  apply header.bind
  intro _
  apply Reads.bind_nil (reads_sections wellFormed (by decide) fresh)
  intro _ _ expanded
  apply Reads.held (on_is _ _)
  exact .pure expanded

end Analysis

end CobolCheck
