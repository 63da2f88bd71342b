import CobolCheck.Division.DataDivision
import CobolCheck.Statement.Sequence

/-!
# Source units and source texts

A source text is a sequence of source units. Each begins with an ID paragraph
and has an optional data division and a procedure division, and all but the
last program must be closed by an END marker. Nothing but the symbol table goes
over from one unit to the next.
-/

namespace CobolCheck.Analysis

/-- The unit that is being read. -/
def currentUnit : Analysis SourceUnit := fun state =>
  (state.unit, state)

/-- Begins another unit. -/
def beginUnit (unit : SourceUnit) : Analysis Unit :=
  modify fun state => { state with unit := unit }

/-! ## The ID paragraph -/

/-- `(PROGRAM-ID | FUNCTION-ID). name.` A unit whose name is no identifier has none. -/
def unitParagraph (kind : UnitKind) : Analysis Unit := do
  accept
  expect "."
  let named ← ask .identifier
  let name ← word
  beginUnit { name := if named then name else "", kind := kind }
  discard identifier
  expect "."

/-- `[IDENTIFICATION DIVISION.]` and the ID paragraph. -/
def identification : Analysis Unit := do
  if ← ask (.is "IDENTIFICATION") then divisionHeader .identification
  if ← ask (.is "PROGRAM-ID") then unitParagraph .program
  else if ← ask (.is "FUNCTION-ID") then unitParagraph .function
  else
    beginUnit {}
    reportHere (.general .missingUnitName)

/-! ## The procedure division -/

/-- The item that a procedure division returns. It must be declared in the unit. -/
def returningItem : Analysis Unit := do
  if ← ask .identifier then
    let name ← word
    discard identifier
    let declared ← fun state => (state.table.contains (state.unit.key name), state)
    unless declared do reportBefore .undeclaredReturningItem
  else reportBefore .missingReturningItem

/-- `PROCEDURE DIVISION [RETURNING name].` Only a program may leave the item out. -/
def procedureHeader : Analysis Unit := do
  expect Division.procedure.keyword
  expect "DIVISION"
  match (← currentUnit).kind with
  | .function =>
      expect "RETURNING"
      returningItem
  | .program => if ← optional "RETURNING" then returningItem
  expectOr "." (.headerPeriod .procedure)

/-- Accepts the header of a paragraph or section, if the cursor is at one, and
tells whether it was. -/
def paragraphHeader : Analysis Bool := do
  if ← ask (.and .identifier (.next ".")) then
    acceptMany 2
    return true
  else if ← ask (.and .identifier (.and (.next "SECTION") (.word 2 ["."]))) then
    acceptMany 3
    return true
  else return false

/-- The sentences of a procedure division, with paragraph and section headers
between them. -/
def procedureBody (limit : Nat) : Analysis Unit :=
  loop (fun _ => do
    sentences limit
    if ← paragraphHeader then return some () else return none) ()

/-- `END (PROGRAM | FUNCTION) name.` The name must be that of the unit, if the
unit has one. -/
def unitEndMarker (unit : SourceUnit) : Analysis Unit := do
  expect "END"
  expect unit.kind.keyword
  let name ← word
  if (← ask .identifier) && name != unit.name && unit.name != "" then
    reportHere (.general (.endMarkerName unit.kind unit.name))
  discard identifier
  expectOr "." (.endMarkerPeriod unit.kind)

/-- A procedure division and the END marker of its unit. -/
def procedureDivision (limit : Nat) : Analysis Unit := do
  procedureHeader
  procedureBody limit
  let unit ← currentUnit
  if ← ask .unitStart then reportBefore (.missingEndMarker unit.kind)
  else if unit.kind = .function then unitEndMarker unit
  else if ← ask (.and (.is "END") (.next unit.kind.keyword)) then unitEndMarker unit

/-! ## Units -/

/-- A source unit, from its ID paragraph to its END marker. -/
def sourceUnit (limit : Nat) : Analysis Unit := do
  identification
  if ← ask (.is "ENVIRONMENT") then divisionHeader .environment
  if ← ask (.is "DATA") then dataDivision
  procedureDivision limit

/-- All source units. -/
def sourceUnits (limit : Nat) : Analysis Unit :=
  loop (fun _ => do
    if ← ask .eof then return none
    else
      sourceUnit limit
      if ← ask .unitStart then return some () else return none) ()

/-- What is left after the last unit is reported once. -/
def leftover : Analysis Unit := do
  unless ← ask .eof do
    reportHere (.general .leftoverTokens)
    whilst (.not .eof) skip

/-- A whole source text. The end of the input is the last token of the output. -/
def sourceText (limit : Nat) : Analysis Unit := do
  sourceUnits limit
  leftover
  modify fun state => state.emit state.current

end CobolCheck.Analysis
