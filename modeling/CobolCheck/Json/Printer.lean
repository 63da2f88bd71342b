import CobolCheck.Json
import CobolCheck.Json.Text

/-!
# Writing JSON

A value is written either on one line, or with each element and field on a line
of its own, indented by two blanks for each level. Empty arrays and objects are
written without a line break.
-/

namespace CobolCheck.Json

/-- How a value is laid out. -/
inductive Layout where
  /-- Everything on one line. -/
  | compact
  /-- One element or field a line, at a depth. -/
  | indented (depth : Nat)

namespace Layout

/-- The layout of the elements and fields of a value. -/
def inner : Layout → Layout
  | compact => compact
  | indented depth => indented (depth + 1)

/-- What separates a bracket, or a comma, from what follows it. -/
def gap : Layout → List Char
  | compact => []
  | indented depth => '\n' :: List.replicate (2 * depth) ' '

/-- What separates the name of a field from its value. -/
def colon : Layout → List Char
  | compact => [':']
  | indented _ => [':', ' ']

end Layout

mutual

/-- A value as it is written in a layout. -/
def render (layout : Layout) : Json → List Char
  | null => ['n', 'u', 'l', 'l']
  | bool true => ['t', 'r', 'u', 'e']
  | bool false => ['f', 'a', 'l', 's', 'e']
  | natural value => Nat.toDigits 10 value
  | decimal literal => literal.toList
  | string text => quote text
  | unpaired => ['"', '\\', 'u', 'd', '8', '0', '0', '"']
  | array [] => ['[', ']']
  | array (first :: rest) =>
      '[' :: layout.inner.gap ++ render layout.inner first ++
        renderElements layout.inner rest ++ layout.gap ++ [']']
  | object [] => ['\x7b', '\x7d']
  | object ((name, value) :: rest) =>
      '\x7b' :: layout.inner.gap ++ quote name ++ layout.colon ++ render layout.inner value ++
        renderFields layout.inner rest ++ layout.gap ++ ['\x7d']

/-- The further elements of an array. -/
def renderElements (layout : Layout) : List Json → List Char
  | [] => []
  | first :: rest =>
      ',' :: layout.gap ++ render layout first ++ renderElements layout rest

/-- The further fields of an object. -/
def renderFields (layout : Layout) : List (String × Json) → List Char
  | [] => []
  | (name, value) :: rest =>
      ',' :: layout.gap ++ quote name ++ layout.colon ++ render layout value ++
        renderFields layout rest

end

/-- A value on one line. -/
def compact (json : Json) : String :=
  String.ofList (json.render .compact)

/-- A value on several lines. -/
def pretty (json : Json) : String :=
  String.ofList (json.render (.indented 0))

end CobolCheck.Json
