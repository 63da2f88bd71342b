import Mathlib.Data.List.Nodup
import CobolCheck.Proofs.Division.Units

/-!
# Items that are returned

An accepted source text is a row of source units. The item that a unit returns is
declared by a unit of that name that has begun by then. The symbol table tells units
apart by their names only, so this is the unit itself if no two units have one name,
and may be another one if they do.
-/

namespace CobolCheck

open Analysis Shape

/-- Whether a source text is a row of units, and nothing follows the last one. -/
def Source.Comprises (source : String) (units : List UnitText) : Prop :=
  ∃ read line column, tokenize source = read ++ [Token.endOfInput line column] ∧
    Row UnitText.Shapes units read

/-- Whether each unit returns an item only if a unit of its name, which is no later than
the unit itself, declares an item of that name. -/
def ReturnsOwn (units : List UnitText) : Prop :=
  ∀ earlier unit later, units = earlier ++ unit :: later → ∀ name ∈ unit.returned,
    ∃ declaring ∈ earlier ++ [unit], declaring.name = unit.name ∧ name ∈ declaring.declared

theorem UnitText.mem_keys_iff {unit : UnitText} {key : SymbolKey} :
    key ∈ unit.keys ↔ key.unit = unit.name ∧ key.name ∈ unit.declared := by
  rw [UnitText.keys, List.mem_map]
  constructor
  · rintro ⟨name, listed, rfl⟩
    exact ⟨rfl, listed⟩
  · rintro ⟨unit_eq, listed⟩
    exact ⟨key.name, listed, by rw [← unit_eq]⟩

theorem ReturnsDeclared.mem_keys {keys : List SymbolKey} {earlier later : List UnitText}
    {unit : UnitText} (returns : ReturnsDeclared keys (earlier ++ unit :: later)) :
    ∀ name ∈ unit.returned,
      ⟨unit.name, name⟩ ∈ keys ++ (earlier ++ [unit]).flatMap UnitText.keys := by
  induction earlier generalizing keys with
  | nil => simpa using returns.1
  | cons first earlier ih =>
      have rest := ih returns.2
      rwa [List.append_assoc, ← List.flatMap_cons] at rest

theorem ReturnsDeclared.returnsOwn {units : List UnitText} (returns : ReturnsDeclared [] units) :
    ReturnsOwn units := by
  rintro earlier unit later rfl name listed
  obtain ⟨declaring, inside, member⟩ := List.mem_flatMap.mp (returns.mem_keys name listed)
  rw [UnitText.mem_keys_iff] at member
  exact ⟨declaring, inside, member.1.symm, member.2⟩

/-- Among units with different names each one declares what it returns. -/
theorem ReturnsOwn.mem_declared {units : List UnitText} (returns : ReturnsOwn units)
    (distinct : (units.map UnitText.name).Nodup) {unit : UnitText} (member : unit ∈ units)
    {name : String} (listed : name ∈ unit.returned) : name ∈ unit.declared := by
  obtain ⟨earlier, later, rfl⟩ := List.append_of_mem member
  obtain ⟨declaring, inside, same, declared⟩ := returns earlier unit later rfl name listed
  have known : declaring ∈ earlier ++ unit :: later := by
    rw [List.append_cons]
    exact List.mem_append_left _ inside
  rwa [List.inj_on_of_nodup_map distinct known member same] at declared

/-- An accepted source text is a row of units, in none of which another ID paragraph
begins. Their items are the items of the symbol table, and each unit declares the item
that it returns, unless another unit of the same name does so before it. -/
theorem exists_comprises_of_accepted {file source : String} {output : List Token}
    (accepted : (checkSource file source).result = .ok output) :
    ∃ units, Source.Comprises source units ∧
      (checkSource file source).table.keys = units.flatMap UnitText.keys ∧
      ReturnsOwn units ∧
      ((units.map UnitText.name).Nodup →
        ∀ unit ∈ units, ∀ name ∈ unit.returned, name ∈ unit.declared) := by
  obtain ⟨read, line, column, tokens_eq, units, row, keys_eq, returns⟩ :=
    exists_read_of_spells accepted rfl (State.told_sourceUnits maxNesting _)
  have table_eq := (sourceUnits_of_accepted accepted rfl).2.2.2
  have own := returns.returnsOwn
  refine ⟨units, ⟨read, line, column, tokens_eq, row⟩, ?_, own, ?_⟩
  · rw [checkSource, checkTokens, table_eq, keys_eq]
    rfl
  · exact fun distinct unit member name listed => own.mem_declared distinct member listed

/-- A program and a function. Each returns an item that it declares. -/
def returningProgram : String :=
  "PROGRAM-ID. P. DATA DIVISION. LINKAGE SECTION. 01 X PIC 9(4). " ++
  "PROCEDURE DIVISION RETURNING X. END PROGRAM P. " ++
  "FUNCTION-ID. F. DATA DIVISION. LINKAGE SECTION. 01 X PIC 9(4). " ++
  "PROCEDURE DIVISION RETURNING X. END FUNCTION F."

/-- The table of that text has an item of each unit. -/
theorem comprises_returningProgram :
    ∃ units, Source.Comprises returningProgram units ∧
      units.flatMap UnitText.keys = [⟨"P", "X"⟩, ⟨"F", "X"⟩] ∧ ReturnsOwn units := by
  have accepted : (checkSource "a.cob" returningProgram).result =
      .ok (checkSource "a.cob" returningProgram).output := by
    rw [Outcome.result_eq_ok_iff]
    decide +kernel
  have keys_eq : (checkSource "a.cob" returningProgram).table.keys = [⟨"P", "X"⟩, ⟨"F", "X"⟩] := by
    decide +kernel
  obtain ⟨units, comprises, table_eq, own, -⟩ := exists_comprises_of_accepted accepted
  exact ⟨units, comprises, table_eq.symm.trans keys_eq, own⟩

/-- A program that declares an item and then a program of the same name, without a data
division, that returns it. -/
def twiceProgram : String :=
  "PROGRAM-ID. P.\nDATA DIVISION.\nLINKAGE SECTION.\n01 X PIC 9(4).\nPROCEDURE DIVISION.\n" ++
  "END PROGRAM P.\nPROGRAM-ID. P.\nPROCEDURE DIVISION RETURNING X.\nEND PROGRAM P.\n"

/-- The words of its first unit. -/
def declaringUnit : List String :=
  ["PROGRAM-ID", ".", "P", ".", "DATA", "DIVISION", ".", "LINKAGE", "SECTION", ".",
    "01", "X", "PIC", "9", "(", "4", ")", ".", "PROCEDURE", "DIVISION", ".",
    "END", "PROGRAM", "P", "."]

/-- The words of its second unit. -/
def returningUnit : List String :=
  ["PROGRAM-ID", ".", "P", ".", "PROCEDURE", "DIVISION", "RETURNING", "X", ".",
    "END", "PROGRAM", "P", "."]

/-- Units of one name may return the items of each other: nothing is reported for a unit
that returns an item and declares none. -/
theorem accepted_returning_undeclared :
    (checkSource "twice.cob" twiceProgram).diagnostics = [] ∧
      Words (declaringUnit ++ returningUnit ++ ["EOF"]) (Source.tokenize twiceProgram) ∧
      "DATA" ∉ returningUnit := by
  decide +kernel

end CobolCheck
