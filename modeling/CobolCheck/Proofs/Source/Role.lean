import CobolCheck.Source.Tokenize

/-!
# The roles of words

The tokenizer gives every text that it reads as one token a category and a
context. The words of the grammar are reserved, its marks are symbols, and a name
or a literal is never one of them.
-/

namespace CobolCheck

namespace Source

/-- The category and the context of a text that the tokenizer reads as one token. -/
def role? (text : String) : Option (Category × Context) :=
  match tokenize text with
  | [token, _] => if token.value = text then some (token.category, token.context) else none
  | _ => none

end Source

/-- The token has the category and the context that the tokenizer gives to its text. -/
def Token.Spelled (token : Token) : Prop :=
  Source.role? token.value = some (token.category, token.context)

instance (token : Token) : Decidable token.Spelled :=
  inferInstanceAs (Decidable (_ = _))

/-- A text that the tokenizer reads as a token of one of some categories, and that
begins neither a statement nor a clause. -/
def IsOperand (categories : List Category) (text : String) : Prop :=
  ∃ category ∈ categories, Source.role? text = some (category, .plain)

instance (categories : List Category) (text : String) : Decidable (IsOperand categories text) :=
  inferInstanceAs (Decidable (∃ category ∈ categories, _))

/-- The categories of operands. -/
def operandCategories : List Category :=
  [.identifier, .numeric, .string, .figurative]

/-- A text that the tokenizer reads as an identifier. -/
def IsName (text : String) : Prop :=
  IsOperand [.identifier] text

instance (text : String) : Decidable (IsName text) :=
  inferInstanceAs (Decidable (IsOperand _ text))

theorem IsOperand.mono {first second : List Category} {text : String}
    (operand : IsOperand first text) (wider : ∀ category ∈ first, category ∈ second) :
    IsOperand second text := by
  obtain ⟨category, listed, role⟩ := operand
  exact ⟨category, wider category listed, role⟩

/-! ## The words of the grammar -/

namespace Grammar

/-- The marks of the grammar. -/
def marks : List String :=
  [".", "=", "<", ">", "<=", ">=", "<>", "(", ")", "+", "-", "*", "/", "**", ","]

/-- The words that a statement may end at, besides those that begin another one. -/
def closers : List String :=
  ["ELSE", "END-IF", "END-COMPUTE", "END-ADD", "END-SUBTRACT", "END-MULTIPLY", "END-DIVIDE",
   "END-DELETE", "END-REWRITE", "END-RETURN", "NOT", "ON", "SIZE", "INVALID", "EXCEPTION",
   "AT", "END"]

/-- The other reserved words of the grammar. -/
def particles : List String :=
  ["THEN", "AND", "OR", "EQUAL", "GREATER", "LESS", "THAN", "TO", "GIVING", "FROM", "BY",
   "INTO", "REMAINDER", "FILE", "OVERRIDE", "RECORD", "RETRY", "FOREVER", "FOR", "SECONDS",
   "TIMES", "WITH", "LOCK", "NO", "KEY", "ERROR", "RUN", "SECTION", "PROGRAM", "PROGRAM-ID",
   "PROCEDURE", "DIVISION", "UPON", "END-DISPLAY", "END-CALL", "DEPENDING", "AFTER", "NORMAL",
   "CORRESPONDING", "CORR", "NEXT", "WORKING-STORAGE", "LOCAL-STORAGE", "LINKAGE", "CONSTANT",
   "AS"]

theorem role?_mark : ∀ word ∈ marks, Source.role? word = some (.symbol, .plain) := by
  decide +kernel

theorem role?_closer : ∀ word ∈ closers, Source.role? word = some (.reserved, .plain) := by
  decide +kernel

theorem role?_particle : ∀ word ∈ particles, Source.role? word = some (.reserved, .plain) := by
  decide +kernel

theorem role?_statementWord :
    ∀ word ∈ Word.statementWords, Source.role? word = some (.reserved, .statement) := by
  decide +kernel

theorem role?_clauseWord :
    ∀ word ∈ Word.clauseWords, Source.role? word = some (.reserved, .clause) := by
  decide +kernel

/-- The words and marks of the grammar. None of them is an operand. -/
def vocabulary : List String :=
  marks ++ closers ++ particles ++ Word.statementWords ++ Word.clauseWords

theorem exists_role?_vocabulary {word : String} (known : word ∈ vocabulary) :
    ∃ category context, Source.role? word = some (category, context) ∧
      category ∉ operandCategories := by
  simp only [vocabulary, List.mem_append] at known
  rcases known with (((mark | closer) | particle) | statement) | clause
  · exact ⟨_, _, role?_mark word mark, by decide⟩
  · exact ⟨_, _, role?_closer word closer, by decide⟩
  · exact ⟨_, _, role?_particle word particle, by decide⟩
  · exact ⟨_, _, role?_statementWord word statement, by decide⟩
  · exact ⟨_, _, role?_clauseWord word clause, by decide⟩

end Grammar

/-- An operand is no word of the grammar. -/
theorem IsOperand.notMem {categories : List Category} {text : String} {words : List String}
    (operand : IsOperand categories text)
    (within : ∀ category ∈ categories, category ∈ operandCategories)
    (known : ∀ word ∈ words, word ∈ Grammar.vocabulary) : text ∉ words := by
  intro listed
  obtain ⟨category, member, role⟩ := operand
  obtain ⟨other, context, other_role, other_plain⟩ :=
    Grammar.exists_role?_vocabulary (known _ listed)
  rw [role, Option.some.injEq, Prod.mk.injEq] at other_role
  exact other_plain (other_role.1 ▸ within category member)

end CobolCheck
