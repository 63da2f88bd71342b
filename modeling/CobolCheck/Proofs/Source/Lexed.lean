import CobolCheck.Source.Tokenize

/-!
# The tokens that a source text gives

A token that is read from a source text is a word, whose category and context
the word lists give, or a literal or symbol that begins with no letter. Only
the last token of a source text is an end of input.
-/

namespace CobolCheck

/-- What a token that is read from a source text can be. -/
inductive Token.Lexed (token : Token) : Prop
  | word (classified : (token.category, token.context) = Word.classify token.value)
  | other (category : token.category ∈ [Category.numeric, .string, .symbol])
      (context : token.context = .plain)
      (begun : ∀ first ∈ token.value.toList.head?, first.isAlpha = false)

/-! ## Letters -/

theorem isUpper_iff_toNat {c : Char} : c.isUpper = true ↔ 65 ≤ c.toNat ∧ c.toNat ≤ 90 :=
  decide_eq_true_iff

theorem isLower_iff_toNat {c : Char} : c.isLower = true ↔ 97 ≤ c.toNat ∧ c.toNat ≤ 122 :=
  Bool.and_eq_true_iff.trans (and_congr decide_eq_true_iff decide_eq_true_iff)

theorem toUpper_eq_self {c : Char} (other : c.isLower = false) : c.toUpper = c := by
  rw [← Bool.not_eq_true, isLower_iff_toNat] at other
  exact dif_neg other

theorem toNat_toUpper_of_isLower {c : Char} (lower : c.isLower = true) :
    97 ≤ c.toNat ∧ c.toNat ≤ 122 ∧ c.toUpper.toNat + 32 = c.toNat := by
  have bounds := isLower_iff_toNat.mp lower
  have upper : c.toUpper = ⟨c.val + ('A'.val - 'a'.val), _⟩ := dif_pos bounds
  have same : c.val.toNat = c.toNat := rfl
  refine ⟨bounds.1, bounds.2, ?_⟩
  rw [upper, Char.toNat_mk, UInt32.toNat_add, same]
  simp
  omega

theorem isAlpha_toUpper (c : Char) : c.toUpper.isAlpha = c.isAlpha := by
  cases lower : c.isLower with
  | false => rw [toUpper_eq_self lower]
  | true =>
      obtain ⟨least, greatest, shifted⟩ := toNat_toUpper_of_isLower lower
      have upper : c.toUpper.isUpper = true := isUpper_iff_toNat.mpr (by omega)
      have capital : c.toUpper.isAlpha = true := (Bool.or_eq_true _ _).mpr (.inl upper)
      have letter : c.isAlpha = true := (Bool.or_eq_true _ _).mpr (.inr lower)
      rw [capital, letter]

/-- What is no letter is not a letter in upper case. -/
theorem toUpper_eq_iff {c mark : Char} (other : mark.isAlpha = false) :
    c.toUpper = mark ↔ c = mark := by
  cases letter : c.isAlpha with
  | false =>
      have lower : c.isLower = false := (Bool.or_eq_false_iff.mp letter).2
      rw [toUpper_eq_self lower]
  | true =>
      refine iff_of_false ?_ ?_
      · rintro rfl
        rw [isAlpha_toUpper, letter] at other
        cases other
      · rintro rfl
        rw [letter] at other
        cases other

/-! ## Pieces -/

namespace Piece

/-- Whether a piece is cut from the beginning of some text. -/
def IsCut (piece : Piece) : Prop :=
  ∃ rest, cut piece.first rest = (piece.kind, piece.more)

theorem isCut_of_mem_piecesAfter {skip : Nat} {text : List Char} {piece : Piece}
    (member : piece ∈ piecesAfter skip text) : piece.IsCut := by
  induction text generalizing skip with
  | nil => simp [piecesAfter] at member
  | cons first rest ih =>
      cases skip with
      | succ skip => exact ih member
      | zero =>
          rw [piecesAfter, List.mem_cons] at member
          rcases member with rfl | later
          · exact ⟨rest, rfl⟩
          · exact ih later

theorem isDigit_eq_false_of_isAlpha {c : Char} (letter : c.isAlpha = true) :
    c.isDigit = false := by
  have cases : c.isUpper = true ∨ c.isLower = true := Bool.or_eq_true_iff.mp letter
  rw [isUpper_iff_toNat, isLower_iff_toNat] at cases
  rw [← Bool.not_eq_true, Char.isDigit_iff_toNat]
  simp
  omega

theorem isAlpha_eq_false_of_isDigit {c : Char} (digit : c.isDigit = true) :
    c.isAlpha = false := by
  rw [← Bool.not_eq_true]
  intro letter
  rw [isDigit_eq_false_of_isAlpha letter] at digit
  contradiction

/-- A piece that begins with a letter is a word. -/
theorem IsCut.kind_eq_word {piece : Piece} (cuts : piece.IsCut)
    (letter : piece.first.isAlpha = true) : piece.kind = .word := by
  obtain ⟨rest, cut_eq⟩ := cuts
  have differs (mark : Char) (plain : mark.isAlpha = false) : piece.first ≠ mark := by
    rintro equal
    rw [equal, plain] at letter
    contradiction
  have digit := isDigit_eq_false_of_isAlpha letter
  simp [cut, isBlank, differs, letter, digit] at cut_eq
  exact cut_eq.1.symm

/-- What follows the sign of a numeric literal is a digit. -/
theorem IsCut.exists_digit_of_isSigned {piece : Piece} (cuts : piece.IsCut)
    (numeric : piece.kind = .numeric) (signed : piece.isSigned = true) :
    ∃ digit later, piece.more = digit :: later ∧ digit.isDigit = true := by
  obtain ⟨rest, cut_eq⟩ := cuts
  have sign : piece.first = '+' ∨ piece.first = '-' := by
    simpa [isSigned, isSign] using signed
  have cut_sign : cut piece.first rest =
      if (rest.head?.map Char.isDigit).getD false then (.numeric, numberRest rest)
      else (.symbol, symbolRest piece.first rest) := by
    rcases sign with first | first <;> simp [cut, isBlank, isSign, first]
  rw [cut_sign] at cut_eq
  split at cut_eq
  · next digit =>
    cases rest with
    | nil => simp at digit
    | cons next rest =>
        simp only [List.head?_cons, Option.map_some, Option.getD_some] at digit
        simp only [Prod.mk.injEq, numberRest, List.takeWhile_cons, digit, if_true] at cut_eq
        exact ⟨next, _, cut_eq.2.symm, digit⟩
  · simp [numeric] at cut_eq

end Piece

/-! ## Tokens -/

/-- A word is an identifier, a figurative literal or reserved. -/
theorem Word.category_classify (word : String) :
    (classify word).1 ∈ [Category.identifier, .figurative, .reserved] := by
  unfold classify
  repeat' split
  all_goals simp

theorem Word.classify_ne_eof (word : String) : (classify word).1 ≠ .eof := by
  intro ended
  have category := category_classify word
  simp [ended] at category

/-- An identifier begins no statement and no clause. -/
theorem Word.context_of_identifier {word : String} {context : Context}
    (identifier : classify word = (.identifier, context)) : context = .plain := by
  have role : (classify word).1 = .identifier → (classify word).2 = .plain := by
    unfold classify
    repeat' split
    all_goals simp
  rw [identifier] at role
  exact role rfl

namespace Piece

theorem tokens_of_word {piece : Piece} (kind : piece.kind = .word) (start : Position)
    (before : Bool) : piece.tokens start before =
      [⟨String.ofList (piece.text.map Char.toUpper),
        (Word.classify (String.ofList (piece.text.map Char.toUpper))).1,
        (Word.classify (String.ofList (piece.text.map Char.toUpper))).2,
        start.line, start.column⟩] := by
  rw [tokens, kind]

/-- Every token of a piece is a word, a literal or a symbol. -/
theorem IsCut.lexed {piece : Piece} (cuts : piece.IsCut) {start : Position}
    {afterOperand : Bool} {token : Token} (member : token ∈ piece.tokens start afterOperand) :
    token.Lexed := by
  have begun (other : piece.kind ≠ .word) : piece.first.isAlpha = false := by
    rw [← Bool.not_eq_true]
    exact fun letter => other (cuts.kind_eq_word letter)
  unfold tokens at member
  split at member
  · simp at member
  · simp at member
  · next word =>
    rw [List.mem_singleton] at member
    subst member
    exact .word rfl
  · next numeric =>
    split at member
    · next split =>
      rw [Bool.and_eq_true] at split
      rw [List.mem_cons, List.mem_singleton] at member
      rcases member with rfl | rfl
      · have sign := begun (by simp [numeric])
        exact .other (by simp) rfl (by simpa using sign)
      · obtain ⟨digit, later, more_eq, isDigit⟩ := cuts.exists_digit_of_isSigned numeric split.2
        refine .other (by simp) rfl ?_
        simpa [more_eq] using isAlpha_eq_false_of_isDigit isDigit
    · rw [List.mem_singleton] at member
      subst member
      exact .other (by simp) rfl (by simpa [value, text] using begun (by simp [numeric]))
  · next string =>
    rw [List.mem_singleton] at member
    subst member
    exact .other (by simp) rfl (by simpa [value, text] using begun (by simp [string]))
  · next symbol =>
    rw [List.mem_singleton] at member
    subst member
    exact .other (by simp) rfl (by simpa [value, text] using begun (by simp [symbol]))

/-- Only a symbol begins with a period. -/
theorem IsCut.kind_of_period {piece : Piece} (cuts : piece.IsCut) (period : piece.first = '.') :
    piece.kind = .symbol := by
  obtain ⟨rest, cut_eq⟩ := cuts
  rw [period] at cut_eq
  simp [cut, isBlank, isSign] at cut_eq
  exact cut_eq.1.symm

/-- A token that is a period is a symbol. -/
theorem IsCut.symbol_of_period {piece : Piece} (cuts : piece.IsCut) {start : Position}
    {afterOperand : Bool} {token : Token} (member : token ∈ piece.tokens start afterOperand)
    (period : token.value = ".") : token.category = .symbol ∧ token.context = .plain := by
  have head {text : List Char} (value_eq : String.ofList text = ".") : text = ['.'] := by
    rw [← String.toList_inj, String.toList_ofList] at value_eq
    exact value_eq
  have other (kind : piece.kind ≠ .symbol) : piece.first ≠ '.' :=
    fun first => kind (cuts.kind_of_period first)
  unfold tokens at member
  split at member
  · simp at member
  · simp at member
  · next word =>
    rw [List.mem_singleton] at member
    subst member
    have letters := head period
    rw [text, List.map_cons, List.cons.injEq] at letters
    exact absurd ((toUpper_eq_iff (by decide)).mp letters.1) (other (by simp [word]))
  · next numeric =>
    split at member
    · next split =>
      rw [Bool.and_eq_true] at split
      rw [List.mem_cons, List.mem_singleton] at member
      rcases member with rfl | rfl
      · exact ⟨rfl, rfl⟩
      · obtain ⟨digit, later, more_eq, isDigit⟩ := cuts.exists_digit_of_isSigned numeric split.2
        have digits := head period
        rw [more_eq, List.cons.injEq] at digits
        rw [digits.1] at isDigit
        exact absurd isDigit (by decide)
    · rw [List.mem_singleton] at member
      subst member
      have letters := head period
      rw [text, List.cons.injEq] at letters
      exact absurd letters.1 (other (by simp [numeric]))
  · next string =>
    rw [List.mem_singleton] at member
    subst member
    have letters := head period
    rw [text, List.cons.injEq] at letters
    exact absurd letters.1 (other (by simp [string]))
  · rw [List.mem_singleton] at member
    subst member
    exact ⟨rfl, rfl⟩

end Piece

theorem Token.Lexed.category_ne_eof {token : Token} (lexed : token.Lexed) :
    token.category ≠ .eof := by
  intro ended
  cases lexed with
  | word classified =>
      have category_eq := congrArg Prod.fst classified
      rw [ended] at category_eq
      exact Word.classify_ne_eof token.value category_eq.symm
  | other category => simp [ended] at category

/-- The word lists give the role of every token that begins with a letter. -/
theorem Token.Lexed.classified {token : Token} (lexed : token.Lexed)
    (begun : ∃ first ∈ token.value.toList.head?, first.isAlpha = true) :
    (token.category, token.context) = Word.classify token.value := by
  cases lexed with
  | word classified => exact classified
  | other _ _ other =>
      obtain ⟨first, found, letter⟩ := begun
      rw [other first found] at letter
      contradiction

/-- An identifier is a word on no list. -/
theorem Token.Lexed.classify_of_identifier {token : Token} (lexed : token.Lexed)
    (category : token.category = .identifier) :
    Word.classify token.value = (.identifier, token.context) := by
  cases lexed with
  | word classified => rw [← classified, category]
  | other listed => simp [category] at listed

namespace Source

theorem exists_lexed_append_tokensFrom {pieces : List Piece} (cuts : ∀ piece ∈ pieces, piece.IsCut)
    (start : Position) (afterOperand : Bool) :
    ∃ front line column,
      tokensFrom start afterOperand pieces = front ++ [Token.endOfInput line column] ∧
        ∀ token ∈ front, token.Lexed := by
  induction pieces generalizing start afterOperand with
  | nil => exact ⟨[], _, _, rfl, by simp⟩
  | cons piece rest ih =>
      rw [List.forall_mem_cons] at cuts
      obtain ⟨front, line, column, rest_eq, lexed⟩ := ih cuts.2 _ _
      refine ⟨piece.tokens start afterOperand ++ front, line, column, ?_, ?_⟩
      · rw [tokensFrom, rest_eq, List.append_assoc]
      · rw [List.forall_mem_append]
        exact ⟨fun token member => cuts.1.lexed member, lexed⟩

/-- A source text gives words, literals and symbols, and then the end of the input. -/
theorem exists_lexed_append (source : String) :
    ∃ front line column, tokenize source = front ++ [Token.endOfInput line column] ∧
      ∀ token ∈ front, token.Lexed :=
  exists_lexed_append_tokensFrom (fun _ member => Piece.isCut_of_mem_piecesAfter member) _ _

/-- Before another token of a source text there is no end of the input. -/
theorem lexed_of_append {source : String} {front rest : List Token} {next : Token}
    (read : tokenize source = front ++ next :: rest) : ∀ token ∈ front, token.Lexed := by
  obtain ⟨lexed, line, column, lexed_eq, inside⟩ := exists_lexed_append source
  have init_eq : lexed = front ++ (next :: rest).dropLast := by
    rw [← List.dropLast_append_of_ne_nil (List.cons_ne_nil next rest), ← read, lexed_eq,
      List.dropLast_concat]
  intro token member
  apply inside token
  rw [init_eq]
  exact List.mem_append_left _ member

/-- A source text gives its tokens and then the end of the input. -/
theorem exists_tokenize_eq (source : String) :
    ∃ line column, tokenize source = (tokenize source).dropLast ++ [Token.endOfInput line column] := by
  obtain ⟨front, line, column, tokens_eq, -⟩ := exists_lexed_append source
  exact ⟨line, column, by rw [tokens_eq, List.dropLast_concat]⟩

theorem mem_tokensFrom {start : Position} {afterOperand : Bool} {pieces : List Piece}
    {token : Token} (member : token ∈ tokensFrom start afterOperand pieces) :
    (∃ line column, token = Token.endOfInput line column) ∨
      ∃ piece ∈ pieces, ∃ start afterOperand, token ∈ piece.tokens start afterOperand := by
  induction pieces generalizing start afterOperand with
  | nil =>
      rw [tokensFrom, List.mem_singleton] at member
      exact .inl ⟨_, _, member⟩
  | cons piece rest ih =>
      rw [tokensFrom, List.mem_append] at member
      rcases member with own | later
      · exact .inr ⟨piece, List.mem_cons_self, start, afterOperand, own⟩
      · rcases ih later with last | ⟨other, inside, found⟩
        · exact .inl last
        · exact .inr ⟨other, List.mem_cons_of_mem _ inside, found⟩

/-- Every period of a source text is a symbol. -/
theorem symbol_of_period {source : String} {token : Token} (member : token ∈ tokenize source)
    (period : token.value = ".") : token.category = .symbol ∧ token.context = .plain := by
  rcases mem_tokensFrom member with ⟨line, column, rfl⟩ | ⟨piece, inside, _, _, found⟩
  · simp [Token.endOfInput] at period
  · exact (Piece.isCut_of_mem_piecesAfter inside).symbol_of_period found period

/-- No identifier of a source text is empty. -/
theorem value_ne_empty_of_identifier {source : String} {token : Token}
    (member : token ∈ tokenize source) (named : token.category = .identifier) :
    token.value ≠ "" := by
  rcases mem_tokensFrom member with ⟨line, column, rfl⟩ | ⟨piece, _, _, _, found⟩
  · cases named
  unfold Piece.tokens at found
  split at found
  case h_3 =>
    rw [List.mem_singleton] at found
    subst found
    rw [ne_eq, ← String.toList_inj, String.toList_ofList, Piece.text, List.map_cons]
    exact List.cons_ne_nil _ _
  all_goals grind

/-- The word lists give the role of every word of a source text that begins with a
letter, other than that of the end of the input. -/
theorem classified {source : String} {token : Token} (member : token ∈ tokenize source)
    (begun : ∃ first ∈ token.value.toList.head?, first.isAlpha = true)
    (inside : token.value ≠ "EOF") :
    (token.category, token.context) = Word.classify token.value := by
  rcases mem_tokensFrom member with ⟨line, column, rfl⟩ | ⟨piece, cut, _, _, found⟩
  · exact absurd rfl inside
  · exact ((Piece.isCut_of_mem_piecesAfter cut).lexed found).classified begun

end Source

end CobolCheck
