import CobolCheck.Symbol.Table

/-!
# Source units

A source unit is a program or a user-defined function: everything from an ID
paragraph to the END marker of that unit.
-/

namespace CobolCheck

/-- The kinds of source unit. -/
inductive UnitKind where
  | program
  | function
  deriving DecidableEq

/-- The word that names the kind of a unit in its END marker. -/
def UnitKind.keyword : UnitKind → String
  | .program => "PROGRAM"
  | .function => "FUNCTION"

/-- The unit that is being read: its name, which is empty as long as no ID
paragraph gave one, and the data section whose entries are being read. -/
structure SourceUnit where
  name : String := ""
  kind : UnitKind := .program
  currentSection : Option DataSection := none
  deriving DecidableEq

/-- The key of an item that the unit declares. -/
def SourceUnit.key (unit : SourceUnit) (name : String) : SymbolKey :=
  ⟨unit.name, name⟩

end CobolCheck
