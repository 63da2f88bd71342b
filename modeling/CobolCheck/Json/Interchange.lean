import CobolCheck.Json.Printer
import CobolCheck.Json.Reader
import CobolCheck.Symbol.Table
import CobolCheck.Token

/-!
# Tokens and symbols as JSON

Token streams are exchanged as JSON arrays of tokens. Symbol tables are written
as one object, with a field for each item in the order of the keys.
-/

namespace CobolCheck

/-! ## Names -/

/-- The name that a JSON value stands for: a string, or an object with that name
as its only field and with null as its value. -/
def Json.name? : Json → Option String
  | .string name => some name
  | .object [(name, .null)] => some name
  | _ => none

/-- Every category. -/
def Category.every : List Category :=
  [.identifier, .numeric, .string, .symbol, .figurative, .reserved, .device, .eof]

/-- The name of a category in a token stream. -/
def Category.name : Category → String
  | .identifier => "identifier"
  | .numeric => "numeric"
  | .string => "string"
  | .symbol => "symbol"
  | .figurative => "figurative_literal"
  | .reserved => "reserved"
  | .device => "device"
  | .eof => "eof"

/-- The category with a name. -/
def Category.ofName? (name : String) : Option Category :=
  Category.every.find? (·.name == name)

theorem Category.ofName?_name (category : Category) :
    Category.ofName? category.name = some category := by
  cases category <;> decide

/-- The category whose name a JSON value stands for. -/
def Category.ofJson? (json : Json) : Option Category :=
  json.name?.bind Category.ofName?

theorem Category.ofJson?_name (category : Category) :
    Category.ofJson? (.string category.name) = some category :=
  Category.ofName?_name category

/-- Every context. -/
def Context.every : List Context :=
  [.plain, .clause, .statement]

/-- The name of a context in a token stream. -/
def Context.name : Context → String
  | .plain => "none"
  | .clause => "is_clause"
  | .statement => "is_statement"

/-- The context with a name. -/
def Context.ofName? (name : String) : Option Context :=
  Context.every.find? (·.name == name)

theorem Context.ofName?_name (context : Context) :
    Context.ofName? context.name = some context := by
  cases context <;> decide

/-- The context whose name a JSON value stands for. -/
def Context.ofJson? (json : Json) : Option Context :=
  json.name?.bind Context.ofName?

theorem Context.ofJson?_name (context : Context) :
    Context.ofJson? (.string context.name) = some context :=
  Context.ofName?_name context

namespace Token

/-! ## Tokens -/

/-- A token as a JSON object. -/
def toJson (token : Token) : Json :=
  .object
    [("value", .string token.value),
     ("category", .string token.category.name),
     ("clauseContext", .string token.context.name),
     ("line", .natural token.line),
     ("column", .natural token.column)]

/-- The line or column that a JSON value stands for. -/
def position? (json : Json) : Option Nat :=
  json.natural?.filter (· < positionBound)

/-- A token from the values of its parts. A token without context has the plain one. -/
def ofParts? (value category : Json) (context : Option Json) (line column : Json) :
    Option Token := do
  let value ← value.text?
  let category ← Category.ofJson? category
  let context ← (context.map Context.ofJson?).getD (some .plain)
  let line ← position? line
  let column ← position? column
  some { value, category, context, line, column }

/-- The value of the field of a name, which an object may have once. -/
def field? (fields : List (String × Json)) (name : String) : Option (Option Json) :=
  match fields.filter fun field => field.1 == name with
  | [] => some none
  | [field] => some (some field.2)
  | _ => none

/-- A token from the fields of an object. Fields of other names mean nothing. -/
def ofFields? (fields : List (String × Json)) : Option Token := do
  let value ← (← field? fields "value")
  let category ← (← field? fields "category")
  let context ← field? fields "clauseContext"
  let line ← (← field? fields "line")
  let column ← (← field? fields "column")
  ofParts? value category context line column

/-- A token from a JSON value: an object, or an array with the parts of a token
in the order in which they are written. -/
def ofJson? : Json → Option Token
  | .object fields => ofFields? fields
  | .array [value, category, context, line, column] =>
      ofParts? value category (some context) line column
  | _ => none

/-! ## Token streams -/

/-- A token stream as a JSON array. -/
def streamToJson (tokens : List Token) : Json :=
  .array (tokens.map toJson)

/-- The token stream that a JSON value stands for. It has no invalid token. -/
def streamOfJson? (json : Json) : Option (List Token) :=
  json.elements?.bind (List.mapM ofJson?)

/-- A token that fits into a token stream is read back as it was written. -/
theorem ofJson?_toJson {token : Token} (line : token.line < positionBound)
    (column : token.column < positionBound) : ofJson? token.toJson = some token := by
  simp [toJson, ofJson?, ofFields?, field?, ofParts?, position?, Json.text?,
    Json.natural?, Category.ofJson?_name, Context.ofJson?_name, Option.filter, line, column]

end Token

/-! ## Symbols -/

/-- The name of a shape in a symbol table. -/
def Shape.name : Shape → String
  | .undecided => "undecided"
  | .elementary => "elementary"
  | .group => "group"

/-- The value of a constant as a JSON object that names its kind. -/
def ConstantValue.toJson : ConstantValue → Json
  | .literal text => .object [("literal", .string text)]
  | .ofItem name => .object [("from", .string name)]

/-- The fields that only one kind of item has. -/
def ItemBody.fields : ItemBody → List (String × Json)
  | .storage attributes =>
      [("class", .string "storage"),
       ("data_type", .ofText? (attributes.type.map PictureType.code)),
       ("picture_length", .ofText? attributes.pictureLength),
       ("default_value", .ofText? attributes.initialValue),
       ("shape", .string attributes.shape.name)]
  | .constant value =>
      [("class", .string "constant"),
       ("value", (value.map ConstantValue.toJson).getD .null)]

/-- An item as a JSON object. -/
def Item.toJson (item : Item) : Json :=
  .object
    ([("identifier", .string item.identifier),
      ("level_number", .natural item.level),
      ("line", .natural item.line),
      ("section", .ofText? (item.inSection.map DataSection.keyword)),
      ("parent", .ofText? item.parent),
      ("external_name", .ofText? item.externalName),
      ("is_external", .bool item.isExternal),
      ("is_global", .bool item.isGlobal),
      ("is_based", .bool item.isBased)] ++ item.body.fields)

/-- A symbol table as a JSON object, ordered by its keys. -/
def SymbolTable.toJson (table : SymbolTable) : Json :=
  .object (table.sorted.map fun entry => (entry.1.text, entry.2.toJson))

end CobolCheck
