/-!
# JSON strings

How characters are written in a JSON string and how they are read back. The
quote, the backslash and the control characters are escaped when written; every
escape of the format is understood when read.
-/

namespace CobolCheck.Json

/-! ## Writing -/

/-- The characters with an escape of one letter, and that letter. -/
def letterEscapes : List (Char × Char) :=
  [('"', '"'), ('\\', '\\'), ('\x08', 'b'), ('\x0c', 'f'), ('\n', 'n'), ('\r', 'r'), ('\t', 't')]

/-- A character as it is written in a string. -/
def escape (c : Char) : List Char :=
  match letterEscapes.lookup c with
  | some letter => ['\\', letter]
  | none =>
      if c.toNat < 0x20 then
        ['\\', 'u', '0', '0', Nat.digitChar (c.toNat / 16), Nat.digitChar (c.toNat % 16)]
      else [c]

/-- A text as a string between quotes. -/
def quote (text : String) : List Char :=
  '"' :: text.toList.flatMap escape ++ ['"']

/-! ## Reading -/

/-- The value of a hexadecimal digit. -/
def hexDigit? (c : Char) : Option Nat :=
  if c.isDigit then some (c.toNat - '0'.toNat)
  else if 'a' ≤ c ∧ c ≤ 'f' then some (c.toNat - 'a'.toNat + 10)
  else if 'A' ≤ c ∧ c ≤ 'F' then some (c.toNat - 'A'.toNat + 10)
  else none

/-- The UTF-16 code unit that four hexadecimal digits stand for, and the text after them. -/
def codeUnit? : List Char → Option (Nat × List Char)
  | first :: second :: third :: fourth :: rest => do
      let first ← hexDigit? first
      let second ← hexDigit? second
      let third ← hexDigit? third
      let fourth ← hexDigit? fourth
      some (((first * 16 + second) * 16 + third) * 16 + fourth, rest)
  | _ => none

/-- Whether a code unit is the first half of a pair of surrogates. -/
def isHighSurrogate (unit : Nat) : Bool :=
  0xD800 ≤ unit && unit < 0xDC00

/-- Whether a code unit is the second half of a pair of surrogates. -/
def isLowSurrogate (unit : Nat) : Bool :=
  0xDC00 ≤ unit && unit < 0xE000

/-- The character of a pair of surrogates. -/
def ofSurrogates (high low : Nat) : Char :=
  Char.ofNat (0x10000 + (high - 0xD800) * 0x400 + (low - 0xDC00))

/-- The character that an escaped code unit stands for, and the text after it. A
surrogate without its partner stands for none. -/
def ofCodeUnit (unit : Nat) (rest : List Char) : Option Char × List Char :=
  if isHighSurrogate unit then
    match rest with
    | '\\' :: 'u' :: digits =>
        match codeUnit? digits with
        | some (low, after) =>
            if isLowSurrogate low then (some (ofSurrogates unit low), after) else (none, rest)
        | none => (none, rest)
    | _ => (none, rest)
  else if isLowSurrogate unit then (none, rest)
  else (some (Char.ofNat unit), rest)

/-- The character that an escape stands for, read after its backslash, and the
text after it. -/
def unescape : List Char → Option (Option Char × List Char)
  | 'u' :: digits => do
      let (unit, rest) ← codeUnit? digits
      some (ofCodeUnit unit rest)
  | '/' :: rest => some (some '/', rest)
  | letter :: rest =>
      (letterEscapes.find? fun entry => entry.2 == letter).map fun entry => (some entry.1, rest)
  | [] => none

/-- The characters of a string, read after its opening quote, and the text after
its closing quote. `room` bounds the number of characters. -/
def readCharacters : Nat → List Char → Option (List (Option Char) × List Char)
  | 0, _ => none
  | _, [] => none
  | room + 1, c :: rest =>
      if c = '"' then some ([], rest)
      else if c = '\\' then do
        let (character, rest) ← unescape rest
        let (characters, rest) ← readCharacters room rest
        some (character :: characters, rest)
      else if c.toNat < 0x20 then none
      else do
        let (characters, rest) ← readCharacters room rest
        some (some c :: characters, rest)

/-- The text of a string, read after its opening quote, and what follows it. The
text is missing if an escape stands for no character. -/
def readText (room : Nat) (input : List Char) : Option (Option String × List Char) := do
  let (characters, rest) ← readCharacters room input
  some ((characters.mapM id).map String.ofList, rest)

end CobolCheck.Json
