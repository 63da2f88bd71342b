import CobolCheck.Division.SourceText
import CobolCheck.Proofs.Division.Entries
import CobolCheck.Proofs.Statement.Reach

/-!
# How far source units reach

A source unit obeys a closed relation that its entries and its sentences obey,
if the unit that is being read does not matter to that relation.
-/

namespace CobolCheck

namespace Analysis

/-- Whether a relation is obeyed and the unit stays the same. -/
def Keeping (R : State → State → Prop) (before after : State) : Prop :=
  R before after ∧ after.unit = before.unit

/-- What follows the first two words of the header of a procedure division. -/
def headerEnd : Analysis Unit := do
  match (← currentUnit).kind with
  | .function =>
      expect "RETURNING"
      returningItem
  | .program => if ← optional "RETURNING" then returningItem
  expectOr "." (.headerPeriod .procedure)

/-- What follows the word END of an END marker. -/
def unitEndName (unit : SourceUnit) : Analysis Unit := do
  expect unit.kind.keyword
  let name ← word
  if (← ask .identifier) && name != unit.name && unit.name != "" then
    reportHere (.general (.endMarkerName unit.kind unit.name))
  discard identifier
  expectOr "." (.endMarkerPeriod unit.kind)

/-- Whether a section of a data division is being read. -/
def InSection (state : State) : Prop :=
  state.unit.currentSection.isSome

end Analysis

open Analysis

theorem Closed.keeping {landmark : Landmark} {R : State → State → Prop}
    (closed : Closed landmark R) : Closed landmark (Keeping R) where
  refl state := ⟨closed.refl state, rfl⟩
  trans first second := ⟨closed.trans first.1 second.1, second.2.trans first.2⟩
  move step := ⟨closed.move step, step.still.unit_eq⟩
  reports both := closed.reports both.1

/-- A closed relation that all parts of a source unit but its sentences obey.
Entries are only read in a section, and they leave the unit as it is. -/
structure ClosedHeaders (landmark : Landmark) (R : State → State → Prop) : Prop
    extends Closed landmark R where
  foreign : landmark.Foreign
  unit (state : State) (unit : SourceUnit) : R state { state with unit }
  entries : ObeysFrom InSection (Keeping R) entries

/-- A closed relation that all parts of a source unit obey. -/
structure ClosedUnits (landmark : Landmark) (R : State → State → Prop) : Prop
    extends ClosedHeaders landmark R where
  sentences (limit : Nat) : Obeys R (sentences limit)

namespace Closed

variable {landmark : Landmark} {R : State → State → Prop}

/-! ## Entries -/

theorem obeysFrom_bind_keeping (closed : Closed landmark R) {α β : Type}
    {analysis : Analysis α} {next : α → Analysis β}
    (first : ObeysFrom InSection (Keeping R) analysis)
    (second : ∀ value, ObeysFrom InSection (Keeping R) (next value)) :
    ObeysFrom InSection (Keeping R) (analysis >>= next) := by
  intro state begun
  rw [run_bind]
  have reached := first state begun
  refine closed.keeping.trans reached (second _ _ ?_)
  rw [InSection, reached.2]
  exact begun

theorem obeysFrom_whilst_keeping (closed : Closed landmark R) {test : Test}
    {body : Analysis Unit} (round : ObeysFrom InSection (Keeping R) body) :
    ObeysFrom InSection (Keeping R) (whilst test body) := by
  intro state begun
  refine closed.keeping.whilst_of_reached fun middle reached _ => round middle ?_
  rw [InSection, reached.2]
  exact begun

/-- The entries of a section obey what single entries obey. -/
theorem obeysFrom_entries (closed : Closed landmark R)
    (storage : ObeysFrom InSection (Keeping R) storageEntry)
    (constant : ObeysFrom InSection (Keeping R) constantEntry) :
    ObeysFrom InSection (Keeping R) entries := by
  have records : ObeysFrom InSection (Keeping R) recordEntries :=
    closed.obeysFrom_bind_keeping storage fun _ => closed.obeysFrom_whilst_keeping storage
  have reported : ObeysFrom InSection (Keeping R) (reportHere (.general .entryLevel)) :=
    (closed.keeping.obeys_reportHere _).obeysFrom _
  intro state begun
  rw [entries, run_bind, run_ask, run_ite]
  split
  · exact constant state begun
  rw [run_bind, run_ask, run_ite]
  split
  · exact storage state begun
  rw [run_bind, run_ask, run_ite]
  split
  · exact records state begun
  · exact closed.obeysFrom_bind_keeping reported (fun _ => storage) state begun

/-- An item is declared without a change to the unit. -/
theorem keeping_declare (closed : Closed landmark R)
    (table : ∀ (state : State) (table : SymbolTable), R state { state with table })
    (name : Token) (item : Item) : Obeys (Keeping R) (declare name item) := by
  intro state
  unfold declare
  dsimp only
  split
  · exact ⟨table state _, rfl⟩
  · exact closed.keeping.move (.report state name _)

theorem keeping_revise (closed : Closed landmark R)
    (table : ∀ (state : State) (table : SymbolTable), R state { state with table })
    (key : Option SymbolKey) (operation : Operation) :
    Obeys (Keeping R) (revise key operation) := by
  intro state
  cases key with
  | some key => exact ⟨table state _, rfl⟩
  | none => exact closed.keeping.refl state

/-- A relation that does not look at the symbol table is obeyed by every entry. -/
theorem keeping_storageEntry (closed : Closed landmark R) (foreign : landmark.Foreign)
    (table : ∀ (state : State) (table : SymbolTable), R state { state with table }) :
    Obeys (Keeping R) storageEntry :=
  closed.keeping.remarking.obeys_storageEntry foreign (closed.keeping_declare table)
    (closed.keeping_revise table)

theorem keeping_constantEntry (closed : Closed landmark R) (foreign : landmark.Foreign)
    (table : ∀ (state : State) (table : SymbolTable), R state { state with table }) :
    Obeys (Keeping R) constantEntry :=
  closed.keeping.remarking.obeys_constantEntry foreign (closed.keeping_declare table)
    (closed.keeping_revise table)

end Closed

/-- A relation that does not look at the unit or at the symbol table is obeyed by
all parts of a source unit but its sentences. -/
theorem Closed.headers {landmark : Landmark} {R : State → State → Prop}
    (closed : Closed landmark R) (foreign : landmark.Foreign)
    (unit : ∀ (state : State) (unit : SourceUnit), R state { state with unit })
    (table : ∀ (state : State) (table : SymbolTable), R state { state with table }) :
    ClosedHeaders landmark R :=
  { closed with
    foreign
    unit
    entries := closed.obeysFrom_entries ((closed.keeping_storageEntry foreign table).obeysFrom _)
      ((closed.keeping_constantEntry foreign table).obeysFrom _) }

theorem Closed.units {R : State → State → Prop} (closed : Closed .endOfInput R)
    (unit : ∀ (state : State) (unit : SourceUnit), R state { state with unit })
    (table : ∀ (state : State) (table : SymbolTable), R state { state with table }) :
    ClosedUnits .endOfInput R :=
  { closed.headers Landmark.foreign_endOfInput unit table with
    sentences := closed.obeys_all_sentences }

/-- What withdraws no report is a closed relation, whatever else happens. -/
theorem closed_reports : Closed .endOfInput (Keeps fun _ => True) :=
  closed_keeps fun _ _ => trivial

/-- No part of a source unit withdraws a report. -/
theorem units_reports : ClosedUnits .endOfInput (Keeps fun _ => True) :=
  closed_reports.units (fun _ _ => ⟨List.suffix_rfl, id⟩) fun _ _ => ⟨List.suffix_rfl, id⟩

/-- An entry withdraws no report and leaves the unit as it is. -/
theorem keeping_reports_storageEntry : Obeys (Keeping (Keeps fun _ => True)) storageEntry :=
  closed_reports.keeping_storageEntry Landmark.foreign_endOfInput fun _ _ => ⟨List.suffix_rfl, id⟩

theorem keeping_reports_constantEntry : Obeys (Keeping (Keeps fun _ => True)) constantEntry :=
  closed_reports.keeping_constantEntry Landmark.foreign_endOfInput
    fun _ _ => ⟨List.suffix_rfl, id⟩

/-- The header of a paragraph or section is made of names and of the words that close it. -/
theorem Closed.obeys_paragraphHeader {landmark : Landmark} {R : State → State → Prop}
    (closed : Closed landmark R) (name : landmark.category ∉ [Category.identifier])
    (marks : landmark.word ∉ [".", "SECTION"]) : Obeys R paragraphHeader := by
  simp only [List.mem_cons, List.not_mem_nil, or_false, not_or] at name marks
  refine obeys_ask (closed.obeysFrom_bind ?_ fun _ => closed.obeys_pure true) ?_
  · apply closed.obeysFrom_acceptMany_of_holds
    intro offset less
    obtain rfl | rfl : offset = 0 ∨ offset = 1 := by omega
    · simp [Test.identifier, Test.has, Test.avoids, name]
    · simp [Test.next, Test.avoids, marks]
  refine Obeys.obeysFrom (obeys_ask (closed.obeysFrom_bind ?_ fun _ => closed.obeys_pure true) ?_) _
  · apply closed.obeysFrom_acceptMany_of_holds
    intro offset less
    obtain rfl | rfl | rfl : offset = 0 ∨ offset = 1 ∨ offset = 2 := by omega
    · simp [Test.identifier, Test.has, Test.avoids, name]
    · simp [Test.next, Test.avoids, marks]
    · simp [Test.next, Test.avoids, marks]
  · exact fun state _ => closed.refl state

namespace ClosedHeaders

variable {landmark : Landmark} {R : State → State → Prop}

/-! ## The data division -/

theorem obeys_divisionHeader (closed : ClosedHeaders landmark R) (division : Division) :
    Obeys R (divisionHeader division) := by
  have known : division.keyword ∈ divisionWords := by cases division <;> decide
  apply closed.obeys_bind (closed.obeys_expect (closed.foreign.ne known))
  intro _
  apply closed.obeys_bind (closed.obeys_expect (closed.foreign.ne (by decide)))
  intro _
  exact closed.obeys_expectOr (closed.foreign.ne (by decide)) _

theorem obeys_beginSection (closed : ClosedHeaders landmark R) (kind : DataSection) :
    Obeys R (beginSection kind) :=
  fun state => closed.unit state _

theorem obeys_dataSection (closed : ClosedHeaders landmark R) (kind : DataSection) :
    Obeys R (dataSection kind) := by
  have known : kind.keyword ∈ divisionWords := by cases kind <;> decide
  have expected {word : String} (known : word ∈ divisionWords) :
      ObeysFrom InSection (Keeping R) (expect word) :=
    (closed.keeping.obeys_expect (closed.foreign.ne known)).obeysFrom _
  have body : ObeysFrom InSection (Keeping R) (do
      expect kind.keyword
      expect "SECTION"
      expect "."
      whilst (.has [.numeric]) Analysis.entries) := by
    apply closed.obeysFrom_bind_keeping (expected known)
    intro _
    apply closed.obeysFrom_bind_keeping (expected (by decide))
    intro _
    apply closed.obeysFrom_bind_keeping (expected (by decide))
    intro _
    exact closed.obeysFrom_whilst_keeping closed.entries
  intro state
  rw [dataSection, run_bind]
  have begun : InSection (beginSection kind state).2 := rfl
  exact closed.trans (closed.obeys_beginSection kind state) (body _ begun).1

theorem obeys_dataDivision (closed : ClosedHeaders landmark R) : Obeys R dataDivision := by
  refine closed.obeys_bind (closed.obeys_divisionHeader _) fun _ => ?_
  refine closed.obeys_bind (closed.obeys_forM fun kind _ => ?_) fun _ => ?_
  · exact obeys_ask ((closed.obeys_dataSection kind).obeysFrom _) fun state _ => closed.refl state
  · refine obeys_ask (fun state _ => closed.refl state) fun state _ => ?_
    exact closed.reject state state.current _

/-! ## The identification of a unit -/

theorem obeys_unitParagraph (closed : ClosedHeaders landmark R) (kind : UnitKind) {word : String}
    (known : word ∈ divisionWords) :
    ObeysFrom (fun state => (Test.is word).holds state = true) R (unitParagraph kind) := by
  refine closed.obeysFrom_bind ?_ fun _ => ?_
  · exact closed.obeysFrom_accept_of_holds (Test.avoids_is (closed.foreign.ne known))
  have period : Obeys R (expect ".") := closed.obeys_expect (closed.foreign.ne (by decide))
  apply closed.obeys_bind period
  intro _
  apply closed.obeys_bind (closed.obeys_look fun _ => rfl)
  intro named
  apply closed.obeys_bind (closed.obeys_look fun _ => rfl)
  intro name
  apply closed.obeys_bind (fun state => closed.unit state _)
  intro _
  refine closed.obeys_bind (closed.obeys_operand (closed.foreign.not_mem (by decide)) _) fun _ => ?_
  exact period

theorem obeys_identification (closed : ClosedHeaders landmark R) : Obeys R identification := by
  apply closed.obeys_when ((closed.obeys_divisionHeader _).obeysFrom _)
  refine obeys_ask (closed.obeys_unitParagraph _ (by decide)) (Obeys.obeysFrom ?_ _)
  apply obeys_ask (closed.obeys_unitParagraph _ (by decide))
  intro state _
  rw [run_bind]
  exact closed.trans (closed.unit state {}) (closed.obeys_reportHere _ _)

/-! ## The procedure division -/

theorem obeys_returningItem (closed : ClosedHeaders landmark R) : Obeys R returningItem := by
  refine obeys_ask (Obeys.obeysFrom ?_ _) ((closed.obeys_reportBefore _).obeysFrom _)
  apply closed.obeys_bind (closed.obeys_look fun _ => rfl)
  intro name
  refine closed.obeys_bind (closed.obeys_operand (closed.foreign.not_mem (by decide)) _) fun _ => ?_
  apply closed.obeys_bind (closed.obeys_look fun _ => rfl)
  intro declared
  exact obeys_ite _ (closed.obeys_pure _) (closed.obeys_reportBefore _)

theorem obeysUpTo_headerEnd (closed : ClosedHeaders landmark R) :
    ObeysUpTo (expectOr ".") (fun _ => True) R headerEnd := by
  have period (start : State → Prop) :
      ObeysUpTo (expectOr ".") start R (expectOr "." (.headerPeriod .procedure)) :=
    closed.obeysUpTo_last (expectOr ".") _ start
  have returned (start : State → Prop) : ObeysUpTo (expectOr ".") start R (do
      returningItem
      expectOr "." (.headerPeriod .procedure)) :=
    closed.obeysUpTo_bind (closed.obeys_returningItem.obeysFrom _) fun _ => period _
  have expected : Obeys R (expect "RETURNING") :=
    closed.obeys_expect (closed.foreign.ne (by decide))
  have found : Obeys R (optional "RETURNING") :=
    closed.obeys_optional (closed.foreign.ne (by decide))
  apply closed.obeysUpTo_bind ((closed.obeys_look fun _ => rfl).obeysFrom _)
  intro unit
  dsimp only
  split
  · exact closed.obeysUpTo_bind (expected.obeysFrom _) fun _ => returned _
  · exact closed.obeysUpTo_bind (found.obeysFrom _) fun _ =>
      obeysUpTo_ite _ (returned _) (period _)

theorem obeys_procedureHeader (closed : ClosedHeaders landmark R) : Obeys R procedureHeader := by
  have expected {word : String} (known : word ∈ divisionWords) : Obeys R (expect word) :=
    closed.obeys_expect (closed.foreign.ne known)
  apply closed.obeys_bind (expected (by decide))
  intro _
  apply closed.obeys_bind (expected (by decide))
  intro _
  have period : ∀ problem, Obeys R (expectOr "." problem) :=
    closed.obeys_expectOr (closed.foreign.ne (by decide))
  exact closed.obeysUpTo_headerEnd.obeys period closed.trans

theorem obeys_paragraphHeader (closed : ClosedHeaders landmark R) : Obeys R paragraphHeader := by
  have marks : ∀ word ∈ [".", "SECTION"], word ∈ divisionWords := by decide
  exact closed.toClosed.obeys_paragraphHeader (closed.foreign.not_mem (by decide))
    fun listed => closed.foreign.word (marks _ listed)

theorem obeysUpTo_unitEndName (closed : ClosedHeaders landmark R)
    (marker : landmark.word ∉ ["PROGRAM", "FUNCTION"]) (unit : SourceUnit) :
    ObeysUpTo (expectOr ".") (fun _ => True) R (unitEndName unit) := by
  have kind : unit.kind.keyword ≠ landmark.word := by
    intro same
    rw [← same] at marker
    cases kind : unit.kind <;> simp [kind, UnitKind.keyword] at marker
  have rest : ObeysUpTo (expectOr ".") (fun _ => True) R (do
      discard identifier
      expectOr "." (.endMarkerPeriod unit.kind)) := by
    have name : Obeys R identifier := closed.obeys_operand (closed.foreign.not_mem (by decide)) _
    exact closed.obeysUpTo_bind (name.obeysFrom _) fun _ =>
      closed.obeysUpTo_last (expectOr ".") _ _
  apply closed.obeysUpTo_bind ((closed.obeys_expect kind).obeysFrom _)
  intro _
  apply closed.obeysUpTo_bind ((closed.obeys_look fun _ => rfl).obeysFrom _)
  intro name
  apply closed.obeysUpTo_bind ((closed.obeys_look fun _ => rfl).obeysFrom _)
  intro named
  refine obeysUpTo_ite _ ?_ rest
  exact closed.obeysUpTo_bind ((closed.obeys_reportHere _).obeysFrom _) fun _ => rest

theorem obeys_unitEndName (closed : ClosedHeaders landmark R)
    (marker : landmark.word ∉ ["PROGRAM", "FUNCTION"]) (unit : SourceUnit) :
    Obeys R (unitEndName unit) := by
  have period : ∀ problem, Obeys R (expectOr "." problem) :=
    closed.obeys_expectOr (closed.foreign.ne (by decide))
  exact (closed.obeysUpTo_unitEndName marker unit).obeys period closed.trans

theorem obeys_unitEndMarker (closed : ClosedHeaders landmark R)
    (marker : landmark.word ∉ ["END", "PROGRAM", "FUNCTION"]) (unit : SourceUnit) :
    Obeys R (unitEndMarker unit) := by
  simp only [List.mem_cons, not_or] at marker
  apply closed.obeys_bind (closed.obeys_expect (Ne.symm marker.1))
  intro _
  exact closed.obeys_unitEndName (by simpa using marker.2) unit

theorem obeys_leftover (closed : ClosedHeaders landmark R) : Obeys R leftover := by
  refine obeys_ask (fun state _ => closed.refl state) (Obeys.obeysFrom ?_ _)
  exact closed.obeys_reportHere_bind _ (closed.obeysFrom_whilst_skip _)

end ClosedHeaders

/-! ## Source units -/

namespace Chained

variable {R : State → State → Prop} {limit : Nat}

theorem obeys_procedureBody (chained : Chained R) (sentences : Obeys R (sentences limit))
    (header : Obeys R paragraphHeader) : Obeys R (procedureBody limit) := by
  refine chained.obeys_loop (fun _ => ?_) ()
  apply chained.obeys_bind sentences
  intro _
  apply chained.obeys_bind header
  intro found
  exact obeys_ite _ (chained.obeys_pure _) (chained.obeys_pure _)

/-- What comes after the header of a procedure division. -/
theorem obeys_procedureRest (chained : Chained R)
    (reported : ∀ problem, Obeys R (reportBefore problem))
    (body : Obeys R (procedureBody limit)) (marker : ∀ unit, Obeys R (unitEndMarker unit)) :
    Obeys R (do
      procedureBody limit
      let unit ← currentUnit
      if ← ask .unitStart then reportBefore (.missingEndMarker unit.kind)
      else if unit.kind = .function then unitEndMarker unit
      else if ← ask (.and (.is "END") (.next unit.kind.keyword)) then unitEndMarker unit) := by
  apply chained.obeys_bind body
  intro _
  apply chained.obeys_bind (chained.obeys_look fun _ => rfl)
  intro unit
  refine obeys_ask ((reported _).obeysFrom _) (Obeys.obeysFrom ?_ _)
  apply obeys_ite _ (marker unit)
  exact obeys_ask ((marker unit).obeysFrom _) fun state _ => chained.refl state

theorem obeys_procedureDivision (chained : Chained R)
    (reported : ∀ problem, Obeys R (reportBefore problem)) (header : Obeys R procedureHeader)
    (body : Obeys R (procedureBody limit)) (marker : ∀ unit, Obeys R (unitEndMarker unit)) :
    Obeys R (procedureDivision limit) :=
  chained.obeys_bind header fun _ => chained.obeys_procedureRest reported body marker

theorem obeys_sourceUnit (chained : Chained R) (identified : Obeys R identification)
    (environment : Obeys R (divisionHeader .environment)) (data : Obeys R dataDivision)
    (procedure : Obeys R (procedureDivision limit)) : Obeys R (sourceUnit limit) := by
  apply chained.obeys_bind identified
  intro _
  apply chained.obeys_when (environment.obeysFrom _)
  exact chained.obeys_when (data.obeysFrom _) procedure

theorem obeys_sourceUnits (chained : Chained R) (each : Obeys R (sourceUnit limit)) :
    Obeys R (sourceUnits limit) := by
  refine chained.obeys_loop (fun _ => obeys_ask (fun state _ => chained.refl state) ?_) ()
  refine Obeys.obeysFrom (chained.obeys_bind each fun _ => ?_) _
  exact obeys_ask (fun state _ => chained.refl state) fun state _ => chained.refl state

end Chained

namespace ClosedUnits

variable {landmark : Landmark} {R : State → State → Prop}

theorem obeys_procedureBody (closed : ClosedUnits landmark R) (limit : Nat) :
    Obeys R (procedureBody limit) :=
  closed.toChained.obeys_procedureBody (closed.sentences limit) closed.obeys_paragraphHeader

theorem obeys_sourceUnit (closed : ClosedUnits landmark R)
    (marker : landmark.word ∉ ["END", "PROGRAM", "FUNCTION"]) (limit : Nat) :
    Obeys R (sourceUnit limit) := by
  apply closed.toChained.obeys_sourceUnit closed.obeys_identification
    (closed.obeys_divisionHeader _) closed.obeys_dataDivision
  exact closed.toChained.obeys_procedureDivision closed.obeys_reportBefore
    closed.obeys_procedureHeader (closed.obeys_procedureBody limit)
    (closed.obeys_unitEndMarker marker)

theorem obeys_sourceUnits (closed : ClosedUnits landmark R)
    (marker : landmark.word ∉ ["END", "PROGRAM", "FUNCTION"]) (limit : Nat) :
    Obeys R (sourceUnits limit) :=
  closed.toChained.obeys_sourceUnits (closed.obeys_sourceUnit marker limit)

end ClosedUnits

end CobolCheck
