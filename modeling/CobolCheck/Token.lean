/-!
# Tokens

A token is a word, literal or symbol of a source text together with the role
the reserved word lists give it and the place where it was written. Lines and
columns count from one, and columns count bytes of the UTF-8 encoding.
-/

namespace CobolCheck

/-- The lexical category of a token. A device name is never read from a source
text: the analysis assigns that category to a word that names a device. -/
inductive Category where
  | identifier
  | numeric
  | string
  | symbol
  | figurative
  | reserved
  | device
  | eof
  deriving DecidableEq, Inhabited

/-- The grammatical role of a reserved word: it begins a statement, it begins a
data description clause, or neither. -/
inductive Context where
  | plain
  | clause
  | statement
  deriving DecidableEq, Inhabited

/-- A token and the line and column of its first byte. -/
structure Token where
  value : String
  category : Category
  context : Context := .plain
  line : Nat
  column : Nat
  deriving DecidableEq, Inhabited

/-- The category as it is named in diagnostics. -/
def Category.description : Category → String
  | .identifier => "identifier"
  | .numeric => "numeric literal"
  | .string => "string literal"
  | .symbol => "symbol"
  | .figurative => "figurative literal"
  | .reserved => "reserved word"
  | .device => "device name"
  | .eof => "EOF"

namespace Token

/-- Lines and columns are numbers of 64 bits. Those of a token that is not read
from a source text may be any of these numbers. -/
def positionBound : Nat :=
  UInt64.size

/-- The token that stands for the end of the input. -/
def endOfInput (line column : Nat) : Token :=
  { value := "EOF", category := .eof, line := line, column := column }

/-- Whether the token marks the end of the input, whatever its text is. -/
def isEof (token : Token) : Bool :=
  token.category == .eof

/-- Whether the text of the token is exactly `word`. -/
def is (token : Token) (word : String) : Bool :=
  token.value == word

/-- The same token under another category. -/
def retag (token : Token) (category : Category) : Token :=
  { token with category := category }

/-- The token without the place where it is written. -/
def unplaced (token : Token) : Token :=
  { token with line := 0, column := 0 }

/-- The token as it is quoted in diagnostics: an end of input has no text of its own. -/
def display (token : Token) : String :=
  if token.isEof then "EOF" else token.value

/-- Whether a sign that follows the token directly is a binary operator. -/
def endsOperand (token : Token) : Bool :=
  [.identifier, .numeric, .string, .figurative].contains token.category || token.is ")"

@[simp]
theorem isEof_endOfInput (line column : Nat) : (endOfInput line column).isEof = true :=
  rfl

theorem isEof_eq_true_iff (token : Token) : token.isEof = true ↔ token.category = .eof := by
  simp [isEof]

theorem is_eq_true_iff (token : Token) (word : String) :
    token.is word = true ↔ token.value = word := by
  simp [is]

@[simp]
theorem retag_self (token : Token) : token.retag token.category = token :=
  rfl

@[simp]
theorem retag_retag (token : Token) (first second : Category) :
    (token.retag first).retag second = token.retag second :=
  rfl

/-- Two tokens differ in their places alone if they have the same text and the same role. -/
theorem unplaced_eq_iff {token other : Token} :
    token.unplaced = other.unplaced ↔
      token.value = other.value ∧ token.category = other.category ∧
        token.context = other.context := by
  simp [unplaced]

/-- Under any category but that of the end of the input a token is quoted by its text. -/
theorem display_eq_value {token : Token} (inside : token.isEof = false) :
    token.display = token.value := by
  simp [display, inside]

end Token

end CobolCheck
