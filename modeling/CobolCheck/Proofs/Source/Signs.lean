import CobolCheck.Proofs.LineByLine

/-!
# Signs and operands

A sign with a digit right after it belongs to the number, unless an operand stands before it:
then it is a symbol of its own. Among the tokens of a source text each half of this rule can be
seen from the neighbours of the number: what stands before a signed number ends no operand, and
a lone sign that a number adjoins stands after an operand.
-/

namespace CobolCheck

namespace Token

/-- An operand may end with this token. -/
def IsOperandEnd (token : Token) : Prop :=
  token.category ∈ [Category.identifier, .numeric, .string, .figurative] ∨ token.value = ")"

/-- The token is a sign by itself. -/
def IsLoneSign (token : Token) : Prop :=
  token.category = .symbol ∧ (token.value = "+" ∨ token.value = "-")

/-- The second token begins at the byte right after the first one. -/
def Adjoins (first second : Token) (source : String) : Prop :=
  ∃ span next, first.span source = some span ∧ second.span source = some next ∧
    next.offset = span.offset + span.length

theorem isOperandEnd_iff (token : Token) : token.IsOperandEnd ↔ token.endsOperand = true := by
  rw [IsOperandEnd, endsOperand, Bool.or_eq_true, List.contains_iff_mem, is_eq_true_iff]

theorem isOperandEnd_of_isSigned {token : Token} (signed : token.isSigned = true) :
    token.IsOperandEnd :=
  token.isOperandEnd_iff.mpr (endsOperand_of_isSigned signed)

/-! ## The place of one token -/

/-- What the signs of a token tell about the token before it, of which `afterOperand` tells
whether it ends an operand: after an operand no number is signed, and elsewhere no lone sign has a
digit right after it. -/
structure SignsPlaced (source : String) (afterOperand : Bool) (token : Token) : Prop where
  signed : token.isSigned = true → afterOperand = false
  alone : token.IsLoneSign → afterOperand = false →
    ∃ before after, source = before ++ token.value ++ after ∧ token.StandsAfter before ∧
      ∀ c ∈ after.toList.head?, c.isDigit = false

theorem signsPlaced_of_category {source : String} {token : Token}
    (literal : token.category ≠ .numeric) (symbol : token.category ≠ .symbol)
    (afterOperand : Bool) : token.SignsPlaced source afterOperand where
  signed signed := by
    rw [isSigned_of_category_ne literal] at signed
    cases signed
  alone sign := absurd sign.1 symbol

theorem signsPlaced_of_numeric {source : String} {token : Token} {afterOperand : Bool}
    (literal : token.category = .numeric) (signed : token.isSigned = true → afterOperand = false) :
    token.SignsPlaced source afterOperand where
  signed := signed
  alone sign := by
    rw [IsLoneSign, literal] at sign
    cases sign.1

theorem signsPlaced_of_operand {source : String} {token : Token}
    (symbol : token.category = .symbol) : token.SignsPlaced source true where
  signed signed := by
    rw [isSigned_of_category_ne (by simp [symbol])] at signed
    cases signed
  alone _ before := by cases before

end Token

/-- The signs of all tokens are placed by the rule. -/
def SignsPlaced (source : String) : (afterOperand : Bool) → List Token → Prop
  | _, [] => True
  | afterOperand, token :: rest =>
      token.SignsPlaced source afterOperand ∧ SignsPlaced source token.endsOperand rest

theorem SignsPlaced.of_append {source : String} {afterOperand : Bool} {before rest : List Token}
    (placed : SignsPlaced source afterOperand (before ++ rest)) :
    SignsPlaced source (Source.endsOperand afterOperand before) rest := by
  induction before generalizing afterOperand with
  | nil => exact placed
  | cons token before ih =>
      rw [← List.singleton_append, Source.endsOperand_append]
      exact ih placed.2

/-! ## The tokens of a piece -/

namespace Piece

/-- A number begins with a digit if it does not begin with a sign. -/
theorem isSign_of_isDigit {c : Char} (digit : c.isDigit = true) : isSign c = false := by
  by_contra signs
  rw [Bool.not_eq_false, isSign, Bool.or_eq_true, beq_iff_eq, beq_iff_eq] at signs
  rcases signs with rfl | rfl <;> cases digit

/-- The digits that a sign is split off from have no sign. -/
theorem isSigned_digits {text : List Char} (numeral : IsUnsigned text) (line column : Nat) :
    Token.isSigned ⟨String.ofList text, .numeric, .plain, line, column⟩ = false := by
  obtain ⟨first, more, rfl, digit, -⟩ := exists_cons_of_isUnsigned numeral
  simp [Token.isSigned, isSign_of_isDigit digit]

/-- A sign that is cut off as a symbol has no digit after it. -/
theorem isDigit_of_cut_sign {first : Char} {more after : List Char} (signs : isSign first = true)
    (cut_eq : cut first (more ++ after) = (.symbol, more)) :
    ∀ c ∈ after.head?, c.isDigit = false := by
  rw [cut_of_isSign signs] at cut_eq
  split at cut_eq
  · cases cut_eq
  · next other =>
    obtain ⟨-, rfl⟩ := Prod.mk.inj cut_eq
    intro c found
    rw [List.nil_append, found, Option.map_some, Option.getD_some] at other
    exact (Bool.not_eq_true _).mp other

theorem signsPlaced_symbol {source : String} {before after : List Char} {piece : Piece}
    (split : source = String.ofList before ++ String.ofList piece.text ++ String.ofList after)
    (cut_eq : cut piece.first (piece.more ++ after) = (.symbol, piece.more))
    (afterOperand : Bool) :
    Token.SignsPlaced source afterOperand ⟨piece.value, .symbol, .plain,
      (Position.start.advance before).line, (Position.start.advance before).column⟩ where
  signed signed := by cases signed
  alone sign _ := by
    refine ⟨String.ofList before, String.ofList after, split, ?_, ?_⟩
    · rw [Token.StandsAfter, String.toList_ofList]
    · rw [String.toList_ofList]
      refine isDigit_of_cut_sign ?_ cut_eq
      have value_eq : piece.text = ['+'] ∨ piece.text = ['-'] := by
        simpa [value, ← String.toList_inj] using sign.2
      rcases value_eq with single | single <;> rw [(List.cons.inj single).1] <;> rfl

/-- The rule goes over from the tokens after a piece to those that begin with it. -/
theorem signsPlaced_tokens {source : String} {before after : List Char} {piece : Piece}
    {afterOperand : Bool} {tokens : List Token}
    (split : source = String.ofList before ++ String.ofList piece.text ++ String.ofList after)
    (cut_eq : cut piece.first (piece.more ++ after) = (piece.kind, piece.more))
    (rest : SignsPlaced source
      (Source.endsOperand afterOperand
        (piece.tokens (Position.start.advance before) afterOperand)) tokens) :
    SignsPlaced source afterOperand
      (piece.tokens (Position.start.advance before) afterOperand ++ tokens) := by
  cases kind : piece.kind with
  | blank => simpa [Piece.tokens, kind, Source.endsOperand] using rest
  | comment => simpa [Piece.tokens, kind, Source.endsOperand] using rest
  | word =>
      rw [tokens_of_word kind] at rest ⊢
      have listed := Word.category_classify (String.ofList (piece.text.map Char.toUpper))
      refine ⟨Token.signsPlaced_of_category ?_ ?_ afterOperand, rest⟩
      all_goals
        intro other
        dsimp only at other
        simp [other] at listed
  | string =>
      simp only [Piece.tokens, kind] at rest ⊢
      exact ⟨Token.signsPlaced_of_category (by simp) (by simp) afterOperand, rest⟩
  | symbol =>
      rw [kind] at cut_eq
      simp only [Piece.tokens, kind] at rest ⊢
      exact ⟨signsPlaced_symbol split cut_eq afterOperand, rest⟩
  | numeric =>
      simp only [Piece.tokens, kind] at rest ⊢
      split at rest
      · next divided =>
        rw [if_pos divided]
        rw [Bool.and_eq_true] at divided
        obtain ⟨rfl, signs⟩ := divided
        have cuts : piece.IsCut := ⟨_, cut_eq⟩
        have digits := isSigned_digits (cuts.isUnsigned_more kind signs)
          (Position.start.advance before).line ((Position.start.advance before).column + 1)
        refine ⟨Token.signsPlaced_of_operand rfl, Token.signsPlaced_of_numeric rfl ?_, rest⟩
        rw [digits]
        intro signed
        cases signed
      · next whole =>
        rw [if_neg whole]
        refine ⟨Token.signsPlaced_of_numeric rfl fun signed => ?_, rest⟩
        have signs : piece.isSigned = true := by
          simpa [Token.isSigned, value, text, isSigned] using signed
        rwa [signs, Bool.and_true, Bool.not_eq_true] at whole

end Piece

/-- The signs of the tokens of a source text are placed by the rule. -/
theorem Source.signsPlaced_tokenize (source : String) :
    SignsPlaced source false (tokenize source) := by
  have whole : source = String.ofList [] ++ String.ofList source.toList := by simp
  refine tokensFrom_induction (motive := fun _ => SignsPlaced source)
    ?finish ?step [] source.toList false whole
  case finish =>
    intro before afterOperand _
    exact ⟨Token.signsPlaced_of_category (by simp [Token.endOfInput])
      (by simp [Token.endOfInput]) afterOperand, trivial⟩
  case step =>
    intro before after piece afterOperand tokens split cut_eq rest
    exact Piece.signsPlaced_tokens split cut_eq rest

/-! ## Two neighbours -/

/-- Of a text there is one beginning of each size. -/
theorem eq_of_append_eq_of_size {first second third fourth : String}
    (same : first ++ second = third ++ fourth) (size : first.utf8ByteSize = third.utf8ByteSize) :
    first = third ∧ second = fourth := by
  have bytes := congrArg String.toByteArray same
  rw [String.toByteArray_append, String.toByteArray_append] at bytes
  have first_eq : first = third := by
    rw [← String.toByteArray_inj]
    apply ByteArray.append_inj_left bytes
    rwa [String.size_toByteArray, String.size_toByteArray]
  subst first_eq
  exact ⟨rfl, String.append_right_inj first |>.mp same⟩

namespace Source

/-- A number without a sign that adjoins a lone sign has a digit right after the sign. -/
theorem exists_digit_of_adjoins {source before after : String} {sign number : Token}
    (member : number ∈ tokenize source) (numeric : number.category = .numeric)
    (unsigned : number.isSigned = false) (alone : sign.IsLoneSign)
    (split : source = before ++ sign.value ++ after) (stands : sign.StandsAfter before)
    (adjoins : sign.Adjoins number source) : ∃ c ∈ after.toList.head?, c.isDigit = true := by
  obtain ⟨span, next, span_eq, next_eq, offset_eq⟩ := adjoins
  have reads : sign.Reads sign.value := by
    refine ⟨by simp [alone.1], ?_, rfl, fun _ => rfl⟩
    rcases alone.2 with value_eq | value_eq <;> rw [value_eq] <;> decide
  obtain rfl := Option.some.inj ((reads.span_eq split stands).symm.trans span_eq)
  obtain ⟨front, last, tokens_eq, ends, -, written⟩ := (laid_tokenize source).exists_front
  have inside : number ∈ front := by
    rw [tokens_eq, List.mem_append, List.mem_singleton] at member
    refine member.resolve_right ?_
    rintro rfl
    rw [numeric] at ends
    cases ends
  obtain ⟨found, text, found_eq, ⟨upto, later, source_eq, place⟩, number_reads, -⟩ :=
    written number inside
  obtain rfl := Option.some.inj (found_eq.symm.trans next_eq)
  have text_eq : text = number.value := number_reads.value_eq (by simp [numeric])
  subst place
  dsimp only at offset_eq
  rw [source_eq, String.append_assoc] at split
  have after_eq := (eq_of_append_eq_of_size split (by rw [String.utf8ByteSize_append, offset_eq])).2
  have numeral := isNumeral_of_mem member numeric
  generalize number_eq : number.value.toList = characters at numeral
  cases numeral with
  | signed signs _ => simp [Token.isSigned, numeric, number_eq, signs] at unsigned
  | unsigned numeral =>
      obtain ⟨first, more, rfl, digit, -⟩ := Piece.exists_cons_of_isUnsigned numeral
      refine ⟨first, ?_, digit⟩
      rw [← after_eq, text_eq, String.toList_append, number_eq]
      rfl

/-- Signs are part of a number exactly where no operand precedes them. Of two neighbouring tokens
of a source text let the second one be a number. If it is signed, no operand ends with the first
one, not even in digits that a sign was split off from. If it is not signed and adjoins a lone
sign, there is a token right before the sign, and an operand ends with it. -/
theorem tokenize_signs {source : String} {before after : List Token} {first second : Token}
    (split : tokenize source = before ++ first :: second :: after)
    (numeric : second.category = .numeric) :
    (second.isSigned = true → ¬first.IsOperandEnd) ∧
      (second.isSigned = false → first.IsLoneSign → first.Adjoins second source →
        ∃ operand ∈ before.getLast?, operand.IsOperandEnd) := by
  have placed := signsPlaced_tokenize source
  rw [split] at placed
  obtain ⟨own, next, -⟩ := placed.of_append
  constructor
  · intro signed ends
    rw [Token.isOperandEnd_iff, next.signed signed] at ends
    cases ends
  · intro unsigned alone adjoins
    by_contra none
    have plain : endsOperand false before = false := by
      rw [endsOperand]
      cases last : before.getLast? with
      | none => rfl
      | some operand =>
          rw [Option.map_some, Option.getD_some, ← Bool.not_eq_true, ← Token.isOperandEnd_iff]
          exact fun ends => none ⟨operand, last, ends⟩
    obtain ⟨upto, later, source_eq, stands, other⟩ := own.alone alone plain
    have member : second ∈ tokenize source := by simp [split]
    obtain ⟨c, found, digit⟩ :=
      exists_digit_of_adjoins member numeric unsigned alone source_eq stands adjoins
    rw [other c found] at digit
    cases digit

theorem tokenize_signs_of_chain :
    (∃ before after, tokenize "A = -1 -2 -3" =
        before ++ ⟨"=", .symbol, .plain, 1, 3⟩ :: ⟨"-1", .numeric, .plain, 1, 5⟩ :: after ∧
      ¬Token.IsOperandEnd ⟨"=", .symbol, .plain, 1, 3⟩) ∧
    ∃ before after, tokenize "A = -1 -2 -3" =
        before ++ ⟨"-", .symbol, .plain, 1, 11⟩ :: ⟨"3", .numeric, .plain, 1, 12⟩ :: after ∧
      Token.Adjoins ⟨"-", .symbol, .plain, 1, 11⟩ ⟨"3", .numeric, .plain, 1, 12⟩
        "A = -1 -2 -3" ∧
      ∃ operand ∈ before.getLast?, operand.IsOperandEnd := by
  have glued : tokenize "A = -1 -2 -3" =
      [⟨"A", .identifier, .plain, 1, 1⟩] ++ ⟨"=", .symbol, .plain, 1, 3⟩ ::
        ⟨"-1", .numeric, .plain, 1, 5⟩ ::
          [⟨"-", .symbol, .plain, 1, 8⟩, ⟨"2", .numeric, .plain, 1, 9⟩,
            ⟨"-", .symbol, .plain, 1, 11⟩, ⟨"3", .numeric, .plain, 1, 12⟩,
            Token.endOfInput 1 13] := by
    decide +kernel
  have adjoins : Token.Adjoins ⟨"-", .symbol, .plain, 1, 11⟩ ⟨"3", .numeric, .plain, 1, 12⟩
      "A = -1 -2 -3" :=
    ⟨⟨10, 1⟩, ⟨11, 1⟩, by decide +kernel, by decide +kernel, rfl⟩
  have divided := glued.trans (List.append_assoc _ (_ :: _ :: _ :: _ :: []) (_ :: _ :: _)).symm
  exact ⟨⟨_, _, glued, (tokenize_signs glued rfl).1 rfl⟩,
    ⟨_, _, divided, adjoins,
      (tokenize_signs divided rfl).2 rfl ⟨rfl, .inr rfl⟩ adjoins⟩⟩

end Source

end CobolCheck
