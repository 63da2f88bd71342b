import CobolCheck.Division.Entry

/-!
# The data division

The sections of a data division come in a fixed order. Each holds entries, of
which records go on with the entries of their items.
-/

namespace CobolCheck.Analysis

/-- `(IDENTIFICATION | ENVIRONMENT | DATA) DIVISION.` -/
def divisionHeader (division : Division) : Analysis Unit := do
  expect division.keyword
  expect "DIVISION"
  expectOr "." (.headerPeriod division)

/-- A record entry and the entries of its items, which are not linked to it. -/
def recordEntries : Analysis Unit := do
  storageEntry
  whilst .subordinate storageEntry

/-- The entry at the cursor, and those that belong to it. -/
def entries : Analysis Unit := do
  if ← ask (.word 2 ["CONSTANT"]) then constantEntry
  else if ← ask (.is "77") then storageEntry
  else if ← ask (.isAny ["01", "1"]) then recordEntries
  else
    reportHere (.general .entryLevel)
    storageEntry

/-- Notes which section is being read. -/
def beginSection (kind : DataSection) : Analysis Unit :=
  modify fun state => { state with unit := { state.unit with currentSection := some kind } }

/-- A section header and the entries of the section. -/
def dataSection (kind : DataSection) : Analysis Unit := do
  beginSection kind
  expect kind.keyword
  expect "SECTION"
  expect "."
  whilst (.has [.numeric]) entries

/-- A data division, up to the procedure division. -/
def dataDivision : Analysis Unit := do
  divisionHeader .data
  DataSection.all.forM fun kind => do
    if ← ask (.is kind.keyword) then dataSection kind
  unless ← ask (.is "PROCEDURE") do
    reportHere (.expectedCategory "Data Division data items and sections")
    skip

end CobolCheck.Analysis
