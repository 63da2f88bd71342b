import CobolCheck.Analysis.Matcher
import CobolCheck.Symbol.Operation

/-!
# Data description entries

An entry declares one data item and then says more about it, clause by clause.
An item that cannot be declared, because it has no name or because its name is
taken, has no key: its clauses are read all the same, but change nothing.
-/

namespace CobolCheck

/-- The text of a string literal without its quotes. -/
def unquote (literal : String) : String :=
  let strip (quote : Char) : Option (List Char) :=
    match literal.toList with
    | first :: rest =>
        if first = quote ∧ rest.getLast? = some quote then some rest.dropLast else none
    | [] => none
  match strip '"' <|> strip '\x27' with
  | some text => String.ofList text
  | none => literal

namespace Analysis

/-! ## Declaring an item -/

/-- Declares an item of the unit in the section that is being read. The name of
an item that is already declared is reported. -/
def declare (name : Token) (item : Item) : Analysis (Option SymbolKey) := fun state =>
  let key := state.unit.key name.value
  match state.table.add key { item with inSection := state.unit.currentSection } with
  | .ok table => (some key, { state with table := table })
  | .error first => (none, state.report name (.general (.duplicateItem first)))

/-- Changes an item that was declared. -/
def revise (key : Option SymbolKey) (operation : Operation) : Analysis Unit :=
  match key with
  | some key =>
      modify fun state => { state with table := state.table.update key operation.change }
  | none => return ()

/-- Reads a level number and a name and declares an item, which `create` makes
from its name, level number and line. -/
def entryHeader (create : String → Nat → Nat → Item) : Analysis (Option SymbolKey) := do
  let level := (Level.ofText? (← word)).getD 0
  number
  let name ← current
  if ← identifier then declare name (create name.value level name.line)
  else return none

/-- Reads the period that closes an entry. -/
def entryPeriod : Analysis Unit :=
  expectOr "." .entryPeriod

/-! ## Clauses -/

/-- `[IS] EXTERNAL [AS literal]` -/
def externalClause (key : Option SymbolKey) : Analysis Unit := do
  discard <| optional "IS"
  expect "EXTERNAL"
  if ← optional "AS" then
    if ← ask (.has [.string]) then
      let name ← word
      accept
      revise key (.setExternal (unquote name))
    else
      reportBefore .externalName
      skip
  else
    match key with
    | some declared => revise key (.setExternal declared.name)
    | none => return ()

/-- `[IS] GLOBAL` -/
def globalClause (key : Option SymbolKey) : Analysis Unit := do
  discard <| optional "IS"
  expect "GLOBAL"
  revise key .setGlobal

/-- The type of a picture, which is reported if it is unknown. -/
def pictureTypeCode (key : Option SymbolKey) : Analysis (Option PictureType) := do
  match PictureType.ofCode? (← word) with
  | some type =>
      accept
      revise key (.setType type)
      return some type
  | none =>
      reportHere (.general .pictureType)
      skip
      return none

/-- `(digits)`, whose text is the result even if it is no number. -/
def digitCount : Analysis String := do
  expect "("
  let digits ← word
  number
  expect ")"
  return digits

/-- `(PIC | PICTURE) [IS] type(digits)[V9(digits)]` -/
def pictureClause (key : Option SymbolKey) : Analysis Unit := do
  choose ["PIC", "PICTURE"] none
  discard <| optional "IS"
  let type ← pictureTypeCode key
  let digits ← digitCount
  let length ←
    if ← ask (.is "V9") then
      if type.any fun type => !type.isNumeric then reportHere (.general .scaleOfText)
      accept
      let scale ← digitCount
      pure (digits ++ "V" ++ scale)
    else pure digits
  revise key (.setPictureLength length)

/-- `VALUE literal` -/
def valueClause (key : Option SymbolKey) : Analysis Unit := do
  expect "VALUE"
  if ← ask (.has [.string, .numeric]) then
    let value ← word
    revise key (.setInitialValue value)
    accept
  else
    reportHere (.general .initialValue)
    unless ← ask (.is ".") do skip

/-- The word that tells which clause begins at the cursor. The word IS may come
before the word of three clauses. -/
def clauseWord : Analysis String := do
  if ← ask (.and (.is "IS") (.word 1 ["EXTERNAL", "GLOBAL", "TYPEDEF"])) then
    wordAt 1
  else word

/-- Reads one clause, and tells whether it was a picture. A clause that says
nothing about the table is accepted word by word. -/
def clause (key : Option SymbolKey) : Analysis Bool := do
  match ← clauseWord with
  | "EXTERNAL" => externalClause key; return false
  | "GLOBAL" => globalClause key; return false
  | "TYPEDEF" => discard <| optional "IS"; expect "TYPEDEF"; return false
  | "BASED" => accept; revise key .setBased; return false
  | "PIC" => pictureClause key; return true
  | "PICTURE" => pictureClause key; return true
  | "VALUE" => valueClause key; return false
  | "IS" => reportHere (.general .loneIs); skip; return false
  | _ => accept; return false

/-- Reads all clauses of an entry, and tells whether a picture was among them. -/
def clauses (key : Option SymbolKey) : Analysis Bool :=
  loop (fun picture => do
    if ← ask .clause then
      let found ← clause key
      return some (picture || found)
    else return none) false

/-! ## Entries -/

/-- `level name {clause}.` -/
def storageEntry : Analysis Unit := do
  let key ← entryHeader Item.storage
  unless ← ask (.or .clause (.or (.is ".") .eof)) do
    reportHere (.general (.noClause (← current).display))
    skip
  let picture ← clauses key
  revise key (.setShape (if picture then .elementary else .group))
  entryPeriod

/-- The value of a constant, as a literal or by the name of an item. -/
def constantValue : Analysis (Option ConstantValue) := do
  if ← optional "FROM" then
    let name ← word
    if ← identifier then return some (.ofItem name) else return none
  else
    discard <| optional "AS"
    let literal ← word
    let known ← ask (.has [.string, .numeric, .figurative])
    if known then accept
    else
      reportHere (.expectedCategory "literal, figurative literal or FROM identifier")
      unless ← ask (.is ".") do skip
    ["LENGTH", "BYTE-LENGTH"].forM fun kind => do
      if ← optional kind then
        discard <| optional "OF"
        discard identifier
    return if known then some (.literal literal) else none

/-- `01 name CONSTANT [[IS] GLOBAL] ([AS] literal [LENGTH [OF] name] | FROM name).` -/
def constantEntry : Analysis Unit := do
  unless ← ask (.isAny ["01", "1"]) do reportHere (.general .constantLevel)
  let key ← entryHeader Item.constant
  expect "CONSTANT"
  if ← ask (.isAny ["IS", "GLOBAL"]) then globalClause key
  match ← constantValue with
  | some value => revise key (.setValue value)
  | none => pure ()
  entryPeriod

end Analysis

end CobolCheck
