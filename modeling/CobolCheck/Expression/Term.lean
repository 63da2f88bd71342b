import CobolCheck.Token

/-!
# Terms of a condition

A condition is read as a list of terms: operands, operators of various kinds
and parentheses. Several words together may make one term, and some words make
none. Which term a word makes depends on whether an operand ends before it.
-/

namespace CobolCheck

/-- The role of a term. Operators of higher precedence bind more tightly. -/
inductive Role where
  | operand
  /-- An operator between two operands. -/
  | binary (precedence : Nat) (rightAssociative : Bool)
  /-- An operator before its operand. -/
  | unary (precedence : Nat)
  /-- A class or sign test after its operand. -/
  | classTest
  | opening
  | closing
  deriving DecidableEq

/-- A term and the token that stands for it. -/
structure Term where
  role : Role
  token : Token
  deriving DecidableEq

namespace Role

/-- Whether a sign after a term of this role is a binary operator. -/
def endsOperand : Role → Bool
  | operand => true
  | closing => true
  | classTest => true
  | _ => false

/-- Words that test the class or the sign of the operand before them. The
figurative constant zero is such a word only there. -/
def isClassWord (word : String) : Bool :=
  ["NUMERIC", "ALPHABETIC", "ALPHABETIC-LOWER", "ALPHABETIC-UPPER", "POSITIVE", "NEGATIVE",
   "ZERO", "ZEROS", "ZEROES"].contains word

/-- Words that change nothing in a condition. -/
def isNoiseWord (word : String) : Bool :=
  ["IS", "THAN", "TO", ","].contains word

/-- The role of relational operators. -/
def relational : Role :=
  binary 3 false

/-- The role of the operator NOT. -/
def negation : Role :=
  unary 2

/-- The role of a word that makes a term by itself. -/
def ofWord (afterOperand : Bool) (word : String) : Role :=
  match word with
  | "OR" => binary 0 false
  | "AND" => binary 1 false
  | "(" => opening
  | ")" => closing
  | "**" => binary 6 true
  | "*" => binary 5 false
  | "/" => binary 5 false
  | "+" => if afterOperand then binary 4 false else unary 7
  | "-" => if afterOperand then binary 4 false else unary 7
  | word => if afterOperand && isClassWord word then classTest else operand

end Role

/-- The relational operator at the beginning of a list of words, and how many
words it takes up: `GREATER THAN OR EQUAL TO` is one operator of five words. -/
def relation? : List String → Option (String × Nat)
  | [] => none
  | word :: rest =>
      if ["=", "<", ">", "<=", ">=", "<>"].contains word then some (word, 1)
      else if word = "EQUAL" then some ("=", if rest.head? = some "TO" then 2 else 1)
      else if word = "GREATER" ∨ word = "LESS" then
        let operator := if word = "GREATER" then ">" else "<"
        let than := if rest.head? = some "THAN" then 1 else 0
        match rest.drop than with
        | "OR" :: "EQUAL" :: rest =>
            some (operator ++ "=", than + if rest.head? = some "TO" then 4 else 3)
        | _ => some (operator, than + 1)
      else none

/-- What the words ahead in a condition make: the role of a term, unless it is
noise, its text and the number of words it takes up. -/
structure Reading where
  role : Option Role
  text : String
  count : Nat
  deriving DecidableEq

namespace Reading

/-- The reading of a word and the words that follow it. NOT goes together with
a relational operator or with a class test, and stands for itself otherwise. -/
def ofWords (afterOperand : Bool) (word : String) (following : List String) : Reading :=
  if Role.isNoiseWord word then ⟨none, word, 1⟩
  else if word = "NOT" then
    match relation? following with
    | some (operator, count) => ⟨some .relational, "NOT " ++ operator, count + 1⟩
    | none =>
        match following.head? with
        | some next =>
            if afterOperand && Role.isClassWord next then
              ⟨some .classTest, "NOT " ++ next, 2⟩
            else ⟨some .negation, word, 1⟩
        | none => ⟨some .negation, word, 1⟩
  else
    match relation? (word :: following) with
    | some (operator, count) => ⟨some .relational, operator, count⟩
    | none => ⟨some (.ofWord afterOperand word), word, 1⟩

/-- The token that stands for a reading which begins with `first`. Several words
together are a symbol at the place of the first. -/
def token (reading : Reading) (first : Token) : Token :=
  if reading.count = 1 then first
  else ⟨reading.text, .symbol, .plain, first.line, first.column⟩

/-- The term of a reading which begins with `first`. -/
def term? (reading : Reading) (first : Token) : Option Term :=
  reading.role.map fun role => ⟨role, reading.token first⟩

end Reading

theorem one_le_of_relation?_eq_some {words : List String} {operator : String} {count : Nat}
    (found : relation? words = some (operator, count)) : 1 ≤ count := by
  unfold relation? at found
  grind

/-- A reading takes up at least one word. -/
theorem Reading.one_le_count (afterOperand : Bool) (word : String) (following : List String) :
    1 ≤ (ofWords afterOperand word following).count := by
  unfold ofWords
  split
  · exact Nat.le_refl 1
  split
  · split
    · exact Nat.le_add_left 1 _
    · split
      · split <;> simp
      · exact Nat.le_refl 1
  · split
    · next found => exact one_le_of_relation?_eq_some found
    · exact Nat.le_refl 1

end CobolCheck
