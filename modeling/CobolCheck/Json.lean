/-!
# JSON values

The values of JSON texts, with the fields of an object in the order in which
they are written. Natural numbers are told apart from all other numbers, which
nothing here calculates with.
-/

namespace CobolCheck

/-- A JSON value. -/
inductive Json where
  | null
  | bool (value : Bool)
  /-- A number without sign, fraction and exponent. -/
  | natural (value : Nat)
  /-- Any other number, as it is written. -/
  | decimal (literal : String)
  | string (text : String)
  /-- A string, or an object with the name of a field, of which an escape stands
  for half a pair of surrogates: it has no text. -/
  | unpaired
  | array (elements : List Json)
  | object (fields : List (String × Json))

namespace Json

/-- The value of an optional text. -/
def ofText? (text : Option String) : Json :=
  match text with
  | some text => string text
  | none => null

/-- The text of a string. -/
def text? : Json → Option String
  | string text => some text
  | _ => none

/-- The value of a natural number. -/
def natural? : Json → Option Nat
  | natural value => some value
  | _ => none

/-- The elements of an array. -/
def elements? : Json → Option (List Json)
  | array elements => some elements
  | _ => none

/-- The fields of an object. -/
def fields? : Json → Option (List (String × Json))
  | object fields => some fields
  | _ => none

/-- The last field of a name of an object. -/
def field? (json : Json) (name : String) : Option Json :=
  json.fields?.bind fun fields => fields.reverse.lookup name

end Json

end CobolCheck
