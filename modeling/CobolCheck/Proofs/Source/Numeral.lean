import CobolCheck.Proofs.Source.Lexed

/-!
# Numeric literals

A numeric token is written in digits, with a sign before them and a fraction after them
if it has one. A sign that the tokenizer splits off leaves an unsigned numeral.
-/

namespace CobolCheck

/-- One or more decimal digits. -/
def AreDigits (text : List Char) : Prop :=
  text ≠ [] ∧ ∀ c ∈ text, c.isDigit = true

instance (text : List Char) : Decidable (AreDigits text) :=
  decidable_of_iff ((!text.isEmpty && text.all Char.isDigit) = true) (by simp [AreDigits])

/-- Digits, and a decimal point with further digits if there is a fraction. -/
inductive IsUnsigned : List Char → Prop
  | whole {digits : List Char} (whole : AreDigits digits) : IsUnsigned digits
  | fraction {digits decimals : List Char} (whole : AreDigits digits)
      (fraction : AreDigits decimals) : IsUnsigned (digits ++ '.' :: decimals)

/-- A numeral without a sign, or one after a sign. -/
inductive IsNumeral : List Char → Prop
  | unsigned {text : List Char} (numeral : IsUnsigned text) : IsNumeral text
  | signed {sign : Char} {text : List Char} (signs : Piece.isSign sign = true)
      (numeral : IsUnsigned text) : IsNumeral (sign :: text)

/-- The characters of a numeral are digits, signs and the decimal point. -/
theorem IsUnsigned.isDigit_or_point {text : List Char} (numeral : IsUnsigned text) :
    ∀ c ∈ text, c.isDigit = true ∨ c = '.' := by
  intro c member
  cases numeral with
  | whole whole => exact .inl (whole.2 c member)
  | fraction whole fraction =>
      rw [List.mem_append, List.mem_cons] at member
      rcases member with before | rfl | after
      · exact .inl (whole.2 c before)
      · exact .inr rfl
      · exact .inl (fraction.2 c after)

theorem IsNumeral.mem {text : List Char} (numeral : IsNumeral text) :
    ∀ c ∈ text, c.isDigit = true ∨ c = '.' ∨ Piece.isSign c = true := by
  intro c member
  cases numeral with
  | unsigned numeral => exact (numeral.isDigit_or_point c member).imp_right .inl
  | signed signs numeral =>
      rw [List.mem_cons] at member
      rcases member with rfl | member
      · exact .inr (.inr signs)
      · exact (numeral.isDigit_or_point c member).imp_right .inl

namespace Piece

theorem areDigits_takeWhile {first : Char} {rest : List Char} (digit : first.isDigit = true) :
    AreDigits (first :: rest.takeWhile Char.isDigit) := by
  refine ⟨List.cons_ne_nil _ _, ?_⟩
  rw [List.forall_mem_cons]
  exact ⟨digit, List.all_eq_true.mp List.all_takeWhile⟩

theorem fraction_eq_nil_or (text : List Char) :
    fraction text = [] ∨ ∃ decimals, fraction text = '.' :: decimals ∧ AreDigits decimals := by
  unfold fraction
  split
  · split
    · next digit => exact .inr ⟨_, rfl, areDigits_takeWhile digit⟩
    · exact .inl rfl
  · exact .inl rfl

/-- A digit and what a numeric literal goes on with. -/
theorem isUnsigned_numberRest {first : Char} (digit : first.isDigit = true) (rest : List Char) :
    IsUnsigned (first :: numberRest rest) := by
  have whole : AreDigits (first :: rest.takeWhile Char.isDigit) := areDigits_takeWhile digit
  rw [numberRest, ← List.cons_append]
  rcases fraction_eq_nil_or (rest.dropWhile Char.isDigit) with none | ⟨decimals, some, fraction⟩
  · rw [none, List.append_nil]
    exact .whole whole
  · rw [some]
    exact .fraction whole fraction

theorem numberRest_cons {digit : Char} (isDigit : digit.isDigit = true) (rest : List Char) :
    numberRest (digit :: rest) = digit :: numberRest rest := by
  rw [numberRest, List.takeWhile_cons_of_pos isDigit, List.dropWhile_cons_of_pos isDigit,
    List.cons_append, numberRest]

/-- A numeric literal begins with a digit, or with a sign before one. -/
theorem cut_eq_numeric {first : Char} {rest more : List Char}
    (cut_eq : cut first rest = (.numeric, more)) :
    first.isDigit = true ∧ more = numberRest rest ∨
      isSign first = true ∧ IsUnsigned more := by
  unfold cut at cut_eq
  split at cut_eq
  · cases cut_eq
  split at cut_eq
  · cases cut_eq
  split at cut_eq
  · dsimp only at cut_eq
    split at cut_eq <;> cases cut_eq
  split at cut_eq
  · next digit =>
    unfold digitRest at cut_eq
    dsimp only at cut_eq
    split at cut_eq
    · cases cut_eq
    · cases cut_eq
      exact .inl ⟨digit, rfl⟩
  split at cut_eq
  · cases cut_eq
  split at cut_eq
  · next signed =>
    cases cut_eq
    cases rest with
    | nil => simp at signed
    | cons digit rest =>
        simp only [List.head?_cons, Option.map_some, Option.getD_some] at signed
        have unsigned := isUnsigned_numberRest signed.2 rest
        exact .inr ⟨signed.1, by rwa [numberRest_cons signed.2]⟩
  · cases cut_eq

theorem IsCut.isNumeral {piece : Piece} (cuts : piece.IsCut) (numeric : piece.kind = .numeric) :
    IsNumeral piece.text := by
  obtain ⟨rest, cut_eq⟩ := cuts
  rw [numeric] at cut_eq
  rcases cut_eq_numeric cut_eq with ⟨digit, more_eq⟩ | ⟨sign, unsigned⟩
  · rw [text, more_eq]
    exact .unsigned (isUnsigned_numberRest digit rest)
  · exact .signed sign unsigned

/-- A sign that is split off leaves an unsigned numeral. -/
theorem IsCut.isUnsigned_more {piece : Piece} (cuts : piece.IsCut) (numeric : piece.kind = .numeric)
    (signed : piece.isSigned = true) : IsUnsigned piece.more := by
  obtain ⟨rest, cut_eq⟩ := cuts
  rw [numeric] at cut_eq
  rcases cut_eq_numeric cut_eq with ⟨digit, -⟩ | ⟨-, unsigned⟩
  · have sign : piece.first = '+' ∨ piece.first = '-' := by
      simpa [isSigned, isSign] using signed
    rcases sign with first | first
    · rw [first] at digit
      exact absurd digit (by decide)
    · rw [first] at digit
      exact absurd digit (by decide)
  · exact unsigned

theorem IsCut.isNumeral_of_mem_tokens {piece : Piece} (cuts : piece.IsCut) {start : Position}
    {afterOperand : Bool} {token : Token} (member : token ∈ piece.tokens start afterOperand)
    (numeric : token.category = .numeric) : IsNumeral token.value.toList := by
  unfold tokens at member
  split at member
  · simp at member
  · simp at member
  · rw [List.mem_singleton] at member
    subst member
    have listed := Word.category_classify (String.ofList (piece.text.map Char.toUpper))
    simp [show (Word.classify _).1 = Category.numeric from numeric] at listed
  · next literal =>
    split at member
    · next split =>
      rw [Bool.and_eq_true] at split
      rw [List.mem_cons, List.mem_singleton] at member
      rcases member with rfl | rfl
      · cases numeric
      · rw [String.toList_ofList]
        exact .unsigned (cuts.isUnsigned_more literal split.2)
    · rw [List.mem_singleton] at member
      subst member
      rw [value, String.toList_ofList]
      exact cuts.isNumeral literal
  · rw [List.mem_singleton] at member
    subst member
    cases numeric
  · rw [List.mem_singleton] at member
    subst member
    cases numeric

end Piece

/-- The text of every numeric token of a source text is a numeral. -/
theorem Source.isNumeral_of_mem {source : String} {token : Token}
    (member : token ∈ tokenize source) (numeric : token.category = .numeric) :
    IsNumeral token.value.toList := by
  rcases mem_tokensFrom member with ⟨line, column, rfl⟩ | ⟨piece, inside, _, _, found⟩
  · cases numeric
  · exact (Piece.isCut_of_mem_piecesAfter inside).isNumeral_of_mem_tokens found numeric

end CobolCheck
