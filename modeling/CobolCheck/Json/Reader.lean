import CobolCheck.Json
import CobolCheck.Json.Text

/-!
# Reading JSON

Reads a text that is one JSON value and nothing else. Between the parts of a
value there may be blanks.
-/

namespace CobolCheck.Json

/-- Whether a character only separates the parts of a value. -/
def isSpace (c : Char) : Bool :=
  c == ' ' || c == '\t' || c == '\n' || c == '\r'

/-- The text from the next part of a value on. -/
def skipSpaces (input : List Char) : List Char :=
  input.dropWhile isSpace

/-! ## Numbers -/

/-- One or more digits, and the text after them. -/
def readDigits (input : List Char) : Option (List Char × List Char) :=
  match input.takeWhile Char.isDigit with
  | [] => none
  | digits => some (digits, input.dropWhile Char.isDigit)

/-- The digits before the decimal point. They begin with a zero only if there is
no other digit. -/
def readWhole : List Char → Option (List Char × List Char)
  | '0' :: rest => some (['0'], rest)
  | input => readDigits input

/-- The decimal point and what follows it, which may be missing. -/
def readFraction : List Char → Option (List Char × List Char)
  | '.' :: input => (readDigits input).map fun (digits, rest) => ('.' :: digits, rest)
  | input => some ([], input)

/-- The exponent, which may be missing. -/
def readExponent : List Char → Option (List Char × List Char)
  | mark :: input =>
      if mark = 'e' ∨ mark = 'E' then
        match input with
        | sign :: rest =>
            if sign = '+' ∨ sign = '-' then
              (readDigits rest).map fun (digits, rest) => (mark :: sign :: digits, rest)
            else (readDigits input).map fun (digits, rest) => (mark :: digits, rest)
        | [] => none
      else some ([], mark :: input)
  | [] => some ([], [])

/-- A number, and the text after it. -/
def readNumber (input : List Char) : Option (Json × List Char) := do
  let sign := input.takeWhile (· == '-')
  if 1 < sign.length then none
  else
    let (whole, rest) ← readWhole (input.drop sign.length)
    let (fraction, rest) ← readFraction rest
    let (exponent, rest) ← readExponent rest
    if sign = [] ∧ fraction = [] ∧ exponent = [] then
      some (natural (Nat.ofDigitChars 10 whole 0), rest)
    else some (decimal (String.ofList (sign ++ whole ++ fraction ++ exponent)), rest)

/-! ## Values -/

/-- An object, of whose fields some name may have no text. -/
def ofFields (fields : List (Option String × Json)) : Json :=
  match fields.mapM fun field => field.1.map fun name => (name, field.2) with
  | some fields => object fields
  | none => unpaired

mutual

/-- A value, and the text after it. `room` bounds the length of the value. -/
def readValue : Nat → List Char → Option (Json × List Char)
  | 0, _ => none
  | room + 1, input =>
      match skipSpaces input with
      | 'n' :: 'u' :: 'l' :: 'l' :: rest => some (null, rest)
      | 't' :: 'r' :: 'u' :: 'e' :: rest => some (bool true, rest)
      | 'f' :: 'a' :: 'l' :: 's' :: 'e' :: rest => some (bool false, rest)
      | '"' :: rest => do
          let (text, rest) ← readText room rest
          some ((text.map string).getD unpaired, rest)
      | '[' :: rest =>
          match skipSpaces rest with
          | ']' :: rest => some (array [], rest)
          | rest => do
              let (elements, rest) ← readElements room rest
              some (array elements, rest)
      | '\x7b' :: rest =>
          match skipSpaces rest with
          | '\x7d' :: rest => some (object [], rest)
          | rest => do
              let (fields, rest) ← readFields room rest
              some (ofFields fields, rest)
      | rest => readNumber rest

/-- One or more elements of an array and its closing bracket, and the text after it. -/
def readElements : Nat → List Char → Option (List Json × List Char)
  | 0, _ => none
  | room + 1, input => do
      let (first, rest) ← readValue room input
      match skipSpaces rest with
      | ',' :: rest =>
          let (others, rest) ← readElements room rest
          some (first :: others, rest)
      | ']' :: rest => some ([first], rest)
      | _ => none

/-- One or more fields of an object and its closing bracket, and the text after it. -/
def readFields : Nat → List Char → Option (List (Option String × Json) × List Char)
  | 0, _ => none
  | room + 1, input =>
      match skipSpaces input with
      | '"' :: rest => do
          let (name, rest) ← readText room rest
          match skipSpaces rest with
          | ':' :: rest =>
              let (value, rest) ← readValue room rest
              match skipSpaces rest with
              | ',' :: rest =>
                  let (others, rest) ← readFields room rest
                  some ((name, value) :: others, rest)
              | '\x7d' :: rest => some ([(name, value)], rest)
              | _ => none
          | _ => none
      | _ => none

end

/-- The value of a text, if it is JSON. -/
def parse? (text : String) : Option Json :=
  let input := text.toList
  match readValue (2 * input.length + 1) input with
  | some (value, rest) => if (skipSpaces rest).isEmpty then some value else none
  | none => none

end CobolCheck.Json
