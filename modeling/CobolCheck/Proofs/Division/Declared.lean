import CobolCheck.Proofs.Brackets
import CobolCheck.Proofs.Division.Shape

/-!
# What data divisions declare

A data division that is read without a report has the shape of its sections and
entries, and the symbol table gains a key for each of the names that the entries
declare, in order, and no others.
-/

namespace CobolCheck

open Analysis Shape

/-! ## ID paragraphs -/

namespace Landmark

/-- The words that begin an ID paragraph. -/
def idParagraphs : List Landmark :=
  [⟨"PROGRAM-ID", .reserved, .plain⟩, ⟨"FUNCTION-ID", .reserved, .plain⟩]

theorem outsideEntries_of_mem :
    ∀ landmark ∈ period :: idParagraphs, landmark.OutsideEntries := by
  simp only [idParagraphs, List.forall_mem_cons]
  refine ⟨?_, ?_, ?_, by simp⟩
  all_goals constructor <;> decide

end Landmark

theorem Source.value_notMem_idWords {source : String} {token : Token}
    (member : token ∈ tokenize source)
    (free : ∀ landmark ∈ Landmark.idParagraphs, ¬landmark.Marks token) :
    token.value ∉ idWords :=
  value_notMem_of_free (by decide) (by decide) member free

namespace State

variable {source : String} {before middle after : State} {names others : List String}

/-! ## Names that are declared -/

/-- Whether items of some names were declared in the unit that is being read, and no
others. -/
structure Adds (names : List String) (before after : State) : Prop where
  name_eq : after.unit.name = before.unit.name
  kind_eq : after.unit.kind = before.unit.kind
  keys_eq : after.table.keys = before.table.keys ++ names.map before.unit.key

theorem Adds.refl (state : State) : Adds [] state state :=
  ⟨rfl, rfl, (List.append_nil _).symm⟩

theorem Still.adds (still : before.Still after) : Adds [] before after where
  name_eq := congrArg SourceUnit.name still.unit_eq
  kind_eq := congrArg SourceUnit.kind still.unit_eq
  keys_eq := by rw [still.table_eq, List.map_nil, List.append_nil]

/-- The key of an item stays the same as long as its unit is read. -/
theorem Adds.key_eq (adds : Adds names before after) : after.unit.key = before.unit.key := by
  funext name
  rw [SourceUnit.key, SourceUnit.key, adds.name_eq]

theorem Adds.keys_eq_of_nil (adds : Adds [] before after) : after.table.keys = before.table.keys :=
  adds.keys_eq.trans (List.append_nil _)

theorem Adds.append (early : Adds names before middle) (late : Adds others middle after) :
    Adds (names ++ others) before after where
  name_eq := late.name_eq.trans early.name_eq
  kind_eq := late.kind_eq.trans early.kind_eq
  keys_eq := by
    rw [late.keys_eq, early.keys_eq, early.key_eq, List.map_append, List.append_assoc]

/-- Changing items that are there adds no key. -/
theorem adds_revise (key : Option SymbolKey) (operation : Operation) (state : State) :
    Adds [] state (revise key operation state).2 := by
  cases key with
  | none => exact .refl state
  | some declared =>
      refine ⟨rfl, rfl, ?_⟩
      rw [List.map_nil, List.append_nil]
      exact SymbolTable.keys_update _ _ _

/-- If all is clean after an analysis, then it has read tokens of a kind for the states
before and after it. -/
def Told (source : String) (kind : State → State → List Token → Prop) (before after : State) :
    Prop :=
  Spells source (kind before after) before after

/-- If all is clean after an analysis, then it has read tokens of a shape for the names
that it has declared. -/
def Tells (source : String) (shape : List String → List Token → Prop) : State → State → Prop :=
  Told source fun before after read => ∃ names, shape names read ∧ Adds names before after

/-- A shape for no names. -/
def Silent (shape : List Token → Prop) (names : List String) (read : List Token) : Prop :=
  names = [] ∧ shape read

variable {first second third : List String → List Token → Prop}
  {early late : List Token → Prop} {α β : Type}

theorem told_bind {kind other whole : State → State → List Token → Prop} {analysis : Analysis α}
    {next : α → Analysis β} (early : Obeys (Told source kind) analysis)
    (late : ∀ value, Obeys (Told source other) (next value))
    (joined : ∀ {before middle after front rest}, kind before middle front →
      other middle after rest → whole before after (front ++ rest)) :
    Obeys (Told source whole) (analysis >>= next) := by
  intro state
  rw [run_bind]
  exact Spells.append (early state) (late _ _) joined

theorem tells_of_silent (spells : Spells source early before after)
    (adds : Adds [] before after) : Tells source (Silent early) before after :=
  spells.mono fun _ holds => ⟨[], ⟨rfl, holds⟩, adds⟩

theorem Tells.mono (tells : Tells source first before after)
    (wider : ∀ {names read}, first names read → second names read) :
    Tells source second before after := by
  refine Spells.mono tells ?_
  rintro read ⟨names, holds, adds⟩
  exact ⟨names, wider holds, adds⟩

theorem Tells.append (early : Tells source first before middle)
    (late : Tells source second middle after)
    (joined : ∀ {names others front rest}, first names front → second others rest →
      third (names ++ others) (front ++ rest)) : Tells source third before after := by
  refine Spells.append early late ?_
  rintro _ _ ⟨_, front, adds⟩ ⟨_, rest, further⟩
  exact ⟨_, joined front rest, adds.append further⟩

theorem tells_bind {analysis : Analysis α} {next : α → Analysis β}
    (early : Obeys (Tells source first) analysis)
    (late : ∀ value, Obeys (Tells source second) (next value))
    (joined : ∀ {names others front rest}, first names front → second others rest →
      third (names ++ others) (front ++ rest)) :
    Obeys (Tells source third) (analysis >>= next) :=
  fun state => (early state).append (late _ _) joined

/-- Without a move nothing is read and nothing declared. -/
theorem tells_of_unmoved {state : State} (holds : first [] []) : Tells source first state state :=
  ⟨List.suffix_rfl, rfl, fun _ => ⟨[], rfl, [], holds, .refl state⟩⟩

theorem chained_tells {shape : List String → List Token → Prop} (nil : shape [] [])
    (append : ∀ {names others front rest}, shape names front → shape others rest →
      shape (names ++ others) (front ++ rest)) : Chained (Tells source shape) where
  refl _ := tells_of_unmoved nil
  trans early late := early.append late append
  reports tells := tells.reports

theorem tells_of_reported (still : before.Still after) (reported : after.reports ≠ []) :
    Tells source first before after :=
  spells_of_reported still reported

theorem tells_reportHere (cause : Cause) : Obeys (Tells source first) (reportHere cause) :=
  fun state => tells_of_reported ((closed_still .endOfInput).obeys_reportHere cause state)
    (List.cons_ne_nil _ _)

/-! ## Words -/

theorem tells_of_single {word : String} (spells : Spells source (Single word) before after)
    (still : before.Still after) : Tells source (Silent (Words [word])) before after := by
  refine tells_of_silent (spells.mono ?_) still.adds
  rintro _ ⟨token, rfl, value_eq⟩
  exact congrArg (fun value => [value]) value_eq

theorem tells_accept_of_holds {word : String} {state : State}
    (held : (Test.is word).holds state = true) (inside : word ≠ "EOF") :
    Tells source (Silent (Words [word])) state (state.emit state.current).skip :=
  tells_of_single (spells_accept_of_holds held inside) (still_emit_skip _ state)

theorem tells_expect {word : String} (inside : word ≠ "EOF") :
    Obeys (Tells source (Silent (Words [word]))) (expect word) :=
  fun state => tells_of_single (spells_expect inside state)
    ((closed_still .endOfInput).obeys_expect inside state)

theorem tells_expectOr {word : String} (inside : word ≠ "EOF") (problem : Problem) :
    Obeys (Tells source (Silent (Words [word]))) (expectOr word problem) :=
  fun state => tells_of_single (spells_expectOr inside problem state)
    ((closed_still .endOfInput).obeys_expectOr inside problem state)

theorem Silent.append {names others : List String} {front rest : List Token}
    (first : Silent early names front) (second : Silent late others rest) :
    Silent (Then early late) (names ++ others) (front ++ rest) := by
  obtain ⟨rfl, holds⟩ := first
  obtain ⟨rfl, further⟩ := second
  exact ⟨rfl, front, rest, rfl, holds, further⟩

theorem Silent.words {words more names others : List String} {front rest : List Token}
    (first : Silent (Words words) names front) (second : Silent (Words more) others rest) :
    Silent (Words (words ++ more)) (names ++ others) (front ++ rest) := by
  obtain ⟨rfl, holds⟩ := first
  obtain ⟨rfl, further⟩ := second
  exact ⟨rfl, holds.append further⟩

/-- Some words and then others. -/
theorem tells_words {words more : List String} {analysis : Analysis α} {next : α → Analysis β}
    (first : Obeys (Tells source (Silent (Words words))) analysis)
    (second : ∀ value, Obeys (Tells source (Silent (Words more))) (next value)) :
    Obeys (Tells source (Silent (Words (words ++ more)))) (analysis >>= next) :=
  tells_bind first second Silent.words

theorem tells_divisionHeader (division : Division) :
    Obeys (Tells source (Silent (Header division))) (divisionHeader division) := by
  have known : division.keyword ≠ "EOF" := by cases division <;> decide
  exact tells_words (tells_expect known) fun _ =>
    tells_words (tells_expect (by decide)) fun _ => tells_expectOr (by decide) _

/-! ## Entries -/

theorem admits_inside (source : String) :
    Admits source (.period :: Landmark.idParagraphs) Inside where
  nonempty := by simp
  free inside free := by
    intro token member
    rw [List.forall_mem_cons] at free
    have period := Source.value_ne_period (inside token member) (free.1 token member)
    have begins := Source.value_notMem_idWords (inside token member)
      fun landmark listed => free.2 landmark listed token member
    simp [period, begins]
  append front rest := List.forall_mem_append.mpr ⟨front, rest⟩

/-- Whether an analysis has read no landmark and declared nothing. -/
def Frees (source : String) (landmark : Landmark) (before after : State) : Prop :=
  Spells source (Free landmark) before after ∧ Adds [] before after

theorem closed_frees (source : String) (landmark : Landmark) :
    Closed landmark (Frees source landmark) where
  refl state := ⟨(closed_free source landmark).refl state, .refl state⟩
  trans early late := ⟨(closed_free source landmark).trans early.1 late.1, early.2.append late.2⟩
  reports frees := frees.1.reports
  move step := ⟨(closed_free source landmark).move step, step.still.adds⟩

theorem frees_revise (landmark : Landmark) (key : Option SymbolKey) (operation : Operation) :
    Obeys (Frees source landmark) (revise key operation) := by
  intro state
  refine ⟨?_, adds_revise key operation state⟩
  cases key <;> exact ⟨List.suffix_rfl, rfl, fun _ => ⟨[], rfl, by simp [Free]⟩⟩

/-- What is read in an entry before its period. -/
theorem tells_inside {analysis : Analysis α}
    (each : ∀ landmark ∈ .period :: Landmark.idParagraphs,
      Obeys (Frees source landmark) analysis) :
    Obeys (Tells source (Silent Inside)) analysis := by
  intro state
  have spells := (admits_inside source).spells fun landmark listed => (each landmark listed state).1
  exact tells_of_silent spells (each .period List.mem_cons_self state).2

theorem tells_clauses (key : Option SymbolKey) :
    Obeys (Tells source (Silent Inside)) (clauses key) := by
  refine tells_inside fun landmark listed => ?_
  have outside := Landmark.outsideEntries_of_mem landmark listed
  have closed := closed_frees source landmark
  exact closed.remarking.obeys_clauses outside (fun _ _ => frees_revise _ _ _)
    (closed.remarking.obeys_pictureClause outside (fun _ => frees_revise _ _ _)
      fun _ => frees_revise _ _ _)

/-- What comes before the end of an entry belongs to it. -/
theorem tells_tail {analysis : Analysis α} {next : α → Analysis β}
    (first : Obeys (Tells source (Silent Inside)) analysis)
    (rest : ∀ value, Obeys (Tells source (Silent EntryTail)) (next value)) :
    Obeys (Tells source (Silent EntryTail)) (analysis >>= next) := by
  refine tells_bind first rest ?_
  rintro _ _ front _ ⟨rfl, inside⟩ ⟨rfl, clauses, period, rfl, more, ends⟩
  refine ⟨rfl, front ++ clauses, period, (List.append_assoc _ _ _).symm, ?_, ends⟩
  exact List.forall_mem_append.mpr ⟨inside, more⟩

theorem tells_tail_when {test : Test} {clause : Analysis Unit} {next : Unit → Analysis Unit}
    (first : Obeys (Tells source (Silent Inside)) clause)
    (rest : Obeys (Tells source (Silent EntryTail)) (next ())) :
    Obeys (Tells source (Silent EntryTail))
      (ask test >>= fun held => if held then clause >>= next else next ()) :=
  obeys_ask ((tells_tail first fun _ => rest).obeysFrom _) (rest.obeysFrom _)

theorem tells_entryPeriod : Obeys (Tells source (Silent EntryTail)) entryPeriod := by
  intro state
  refine (tells_expectOr (by decide) _ state).mono ?_
  rintro _ read ⟨rfl, ends⟩
  exact ⟨rfl, [], read, rfl, by simp [Inside], ends⟩

/-- A name that is declared is read first. -/
theorem tells_declare (name : Token) (item : Item) :
    Obeys (Tells source fun names read => names = [name.value] ∧ read = [])
      (declare name item) := by
  intro state
  unfold declare
  dsimp only
  split
  · next table added =>
    refine ⟨List.suffix_rfl, rfl, fun _ => ⟨[], rfl, _, ⟨rfl, rfl⟩, rfl, rfl, ?_⟩⟩
    rw [SymbolTable.keys, SymbolTable.entries_of_add_eq_ok added, List.map_append]
    rfl
  · exact tells_of_reported ((closed_still .endOfInput).obeys_report name _ state)
      (List.cons_ne_nil _ _)

theorem tells_operand {categories : List Category} (inside : Category.eof ∉ categories)
    (description : String) (state : State) :
    Tells source (Silent fun read => read = [state.current] ∧ state.current.category ∈ categories)
      state (operand categories description state).2 :=
  tells_of_silent (spells_operand inside description state)
    ((closed_still .endOfInput).obeys_operand inside description state).adds

/-- The name of an item is read and declared. -/
theorem tells_entryName (create : Token → Item) :
    Obeys (Tells source fun names read => ∃ name, names = [name] ∧ Name name read) (do
        let name ← Analysis.current
        if ← identifier then declare name (create name) else return none) := by
  intro state
  have named : Tells source _ state (identifier state).2 :=
    @tells_operand source [.identifier] (by decide) _ state
  rw [run_bind, run_current, run_bind, run_ite]
  split
  · refine named.append (tells_declare _ _ _) ?_
    rintro _ _ _ _ ⟨rfl, rfl, category⟩ ⟨rfl, rfl⟩
    exact ⟨_, rfl, .single (List.mem_singleton.mp category)⟩
  · next missing =>
    apply tells_of_reported ((closed_still .endOfInput).obeys_identifier (by decide) state)
    rw [identifier, operand, run_acceptIf] at missing ⊢
    split at missing
    · exact absurd rfl missing
    · next refused =>
      rw [if_neg refused]
      exact reports_reject_ne_nil _ _ state

theorem tells_entryHeader (create : String → Nat → Nat → Item) :
    Obeys (Tells source fun names read => ∃ name, names = [name] ∧ EntryHead name read)
      (entryHeader create) := by
  intro state
  have level : Tells source _ state (number state).2 :=
    @tells_operand source [.numeric] (by decide) _ state
  rw [entryHeader, run_bind, run_word, run_bind]
  refine level.append (tells_entryName _ _) ?_
  rintro _ _ _ item ⟨rfl, rfl, level⟩ ⟨name, rfl, named⟩
  exact ⟨name, rfl, _, item, rfl, .single (List.mem_singleton.mp level), named⟩

/-- An entry is read from its header to its period. -/
theorem tells_entry {next : Option SymbolKey → Analysis Unit} (create : String → Nat → Nat → Item)
    (rest : ∀ key, Obeys (Tells source (Silent EntryTail)) (next key)) :
    Obeys (Tells source (Row Entry)) (entryHeader create >>= next) := by
  refine tells_bind (tells_entryHeader create) rest ?_
  rintro _ _ front rest ⟨name, rfl, head⟩ ⟨rfl, tail⟩
  exact .single ⟨front, rest, rfl, head, tail⟩

theorem tells_storageEntry : Obeys (Tells source (Row Entry)) storageEntry := by
  refine tells_entry Item.storage fun key => ?_
  have rest : Obeys (Tells source (Silent EntryTail)) (clauses key >>= fun picture => do
      revise key (.setShape (if picture then .elementary else .group))
      entryPeriod) :=
    tells_tail (tells_clauses key) fun picture =>
      tells_tail (tells_inside fun _ _ => frees_revise _ _ _) fun _ => tells_entryPeriod
  intro state
  rw [run_bind, run_ask, run_ite]
  split
  · exact rest state
  · exact (rest _).after_report ((closed_still .endOfInput).reject state state.current _)
      (reports_reject_ne_nil _ _ state)

theorem chained_entries (source : String) : Chained (Tells source (Row Entry)) :=
  chained_tells .nil .append

theorem tells_constantEntry : Obeys (Tells source (Row Entry)) constantEntry := by
  have outside := Landmark.outsideEntries_of_mem
  apply (chained_entries source).obeys_unless ((tells_reportHere _).obeysFrom _)
  refine tells_entry Item.constant fun key => ?_
  refine tells_tail (tells_inside fun landmark listed => ?_) fun _ => ?_
  · exact (closed_frees source landmark).obeys_expect ((outside landmark listed).ne (by decide))
  refine tells_tail_when (tells_inside fun landmark listed => ?_) ?_
  · exact (closed_frees source landmark).remarking.obeys_globalClause (outside landmark listed)
      (frees_revise _ _ _)
  refine tells_tail (tells_inside fun landmark listed => ?_) fun value => ?_
  · exact (closed_frees source landmark).remarking.obeys_constantValue (outside landmark listed)
  cases value with
  | none => exact tells_entryPeriod
  | some value =>
      exact tells_tail (tells_inside fun _ _ => frees_revise _ _ _) fun _ => tells_entryPeriod

/-! ## The data division -/

theorem tells_entries : Obeys (Tells source (Row Entry)) entries := by
  have chained := chained_entries source
  have storage : Obeys (Tells source (Row Entry)) storageEntry := tells_storageEntry
  have records : Obeys (Tells source (Row Entry)) recordEntries :=
    chained.obeys_bind storage fun _ => chained.obeys_whilst (storage.obeysFrom _)
  refine obeys_ask (tells_constantEntry.obeysFrom _) (Obeys.obeysFrom ?_ _)
  refine obeys_ask (storage.obeysFrom _) (Obeys.obeysFrom ?_ _)
  refine obeys_ask (records.obeysFrom _) (Obeys.obeysFrom ?_ _)
  exact chained.obeys_bind (tells_reportHere _) fun _ => storage

/-- Some more words before the rest of a part that begins with words. -/
theorem tells_heading {words more : List String} {shape : List String → List Token → Prop}
    {analysis : Analysis α} {next : α → Analysis β}
    (first : Obeys (Tells source (Silent (Words words))) analysis)
    (rest : ∀ value, Obeys (Tells source fun names => Then (Words more) (shape names))
      (next value)) :
    Obeys (Tells source fun names => Then (Words (words ++ more)) (shape names))
      (analysis >>= next) := by
  refine tells_bind first rest ?_
  rintro _ _ front _ ⟨rfl, early⟩ ⟨other, part, rfl, late, holds⟩
  exact ⟨front ++ other, part, (List.append_assoc _ _ _).symm, early.append late, holds⟩

theorem tells_dataSection (kind : DataSection) :
    Obeys (Tells source fun names => Section (kind, names)) (dataSection kind) := by
  have begin : Obeys (Tells source (Silent (Words []))) (beginSection kind) :=
    fun state => ⟨List.suffix_rfl, rfl, fun _ => ⟨[], rfl, [], ⟨rfl, rfl⟩, rfl, rfl,
      (List.append_nil _).symm⟩⟩
  have known : kind.keyword ≠ "EOF" := by cases kind <;> decide
  change Obeys (Tells source fun names =>
    Then (Words ([] ++ ([kind.keyword] ++ (["SECTION"] ++ ["."])))) (Row Entry names)) _
  apply tells_heading begin
  intro _
  apply tells_heading (tells_expect known)
  intro _
  apply tells_heading (tells_expect (by decide))
  intro _
  refine tells_bind (tells_expect (by decide))
    (fun _ => (chained_entries source).obeys_whilst (tells_entries.obeysFrom _)) ?_
  rintro _ _ front rest ⟨rfl, words⟩ entries
  exact ⟨front, rest, rfl, words, entries⟩

theorem tells_dataSections (kinds : List DataSection) :
    Obeys (Tells source (Sections kinds)) (kinds.forM fun kind => do
      if ← ask (.is kind.keyword) then dataSection kind) := by
  induction kinds with
  | nil => exact fun state => tells_of_unmoved ⟨[], .slnil, rfl, .nil⟩
  | cons kind kinds ih =>
      have first : Obeys (Tells source fun names read =>
          names = [] ∧ read = [] ∨ Section (kind, names) read)
          (do if ← ask (.is kind.keyword) then dataSection kind) :=
        obeys_ask (fun state _ => (tells_dataSection kind state).mono .inr)
          fun state _ => tells_of_unmoved (.inl ⟨rfl, rfl⟩)
      refine tells_bind first (fun _ => ih) ?_
      rintro names _ front _ part ⟨parts, ordered, rfl, row⟩
      rcases part with ⟨rfl, rfl⟩ | part
      · exact ⟨parts, ordered.cons kind, rfl, row⟩
      · exact ⟨(kind, names) :: parts, ordered.cons_cons kind, rfl, .cons part row⟩

theorem tells_dataDivision : Obeys (Tells source DataDivision) dataDivision := by
  have ended : Obeys (Tells source (Silent (Words []))) (do
      unless ← ask (.is "PROCEDURE") do
        reportHere (.expectedCategory "Data Division data items and sections")
        Analysis.skip) :=
    obeys_ask (fun _ _ => tells_of_unmoved ⟨rfl, rfl⟩) fun state _ => spells_reject _ _ state
  have sections : Obeys (Tells source (Sections DataSection.all)) (do
      DataSection.all.forM fun kind => do
        if ← ask (.is kind.keyword) then dataSection kind
      unless ← ask (.is "PROCEDURE") do
        reportHere (.expectedCategory "Data Division data items and sections")
        Analysis.skip) := by
    refine tells_bind (tells_dataSections _) (fun _ => ended) ?_
    rintro _ _ _ _ sections ⟨rfl, none⟩
    rw [List.map_eq_nil_iff.mp none, List.append_nil, List.append_nil]
    exact sections
  refine tells_bind (tells_divisionHeader _) (fun _ => sections) ?_
  rintro _ _ front rest ⟨rfl, header⟩ sections
  exact ⟨front, rest, rfl, header, sections⟩

end State

end CobolCheck
