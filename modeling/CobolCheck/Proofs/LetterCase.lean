import CobolCheck.Proofs.Source.Recut

/-!
# The case of letters

Words are read in upper case, and letters decide nothing else. So a text in upper case is cut
in the same places, and gives the same tokens with their texts in upper case.
-/

namespace CobolCheck

namespace Piece

/-! ## Characters -/

theorem beq_toUpper (mark : Char) (other : mark.isAlpha = false) (c : Char) :
    (c.toUpper == mark) = (c == mark) := by
  rw [Bool.eq_iff_iff, beq_iff_eq, beq_iff_eq, toUpper_eq_iff other]

theorem isBlank_toUpper (c : Char) : isBlank c.toUpper = isBlank c := by
  simp only [isBlank, beq_toUpper ' ' (by decide), beq_toUpper '\t' (by decide),
    beq_toUpper '\r' (by decide), beq_toUpper '\n' (by decide),
    beq_toUpper '\x0c' (by decide)]

theorem isSign_toUpper (c : Char) : isSign c.toUpper = isSign c := by
  simp only [isSign, beq_toUpper '+' (by decide), beq_toUpper '-' (by decide)]

/-! ## Longest continuations -/

/-- A test that does not see the case of letters stops at the same character. -/
theorem takeWhile_map_toUpper {p : Char → Bool} (same : ∀ c : Char, p c.toUpper = p c)
    (text : List Char) :
    (text.map Char.toUpper).takeWhile p = (text.takeWhile p).map Char.toUpper := by
  have compose : p ∘ Char.toUpper = p := funext same
  rw [List.takeWhile_map, compose]

theorem dropWhile_map_toUpper {p : Char → Bool} (same : ∀ c : Char, p c.toUpper = p c)
    (text : List Char) :
    (text.map Char.toUpper).dropWhile p = (text.dropWhile p).map Char.toUpper := by
  have compose : p ∘ Char.toUpper = p := funext same
  rw [List.dropWhile_map, compose]

theorem fraction_map_toUpper (text : List Char) :
    fraction (text.map Char.toUpper) = (fraction text).map Char.toUpper := by
  cases text with
  | nil => rfl
  | cons point rest =>
      by_cases isPoint : point = '.'
      · subst isPoint
        cases rest with
        | nil => rfl
        | cons digit rest =>
            have unchanged : ('.').toUpper = '.' := by decide
            rw [List.map_cons, List.map_cons, unchanged, fraction, fraction, isDigit_toUpper,
              takeWhile_map_toUpper isDigit_toUpper]
            split
            · rw [List.map_cons, List.map_cons, unchanged]
            · rfl
      · have other : point.toUpper ≠ '.' := mt (toUpper_eq_iff (by decide)).mp isPoint
        rw [List.map_cons, fraction_cons_of_ne other, fraction_cons_of_ne isPoint, List.map_nil]

theorem numberRest_map_toUpper (rest : List Char) :
    numberRest (rest.map Char.toUpper) = (numberRest rest).map Char.toUpper := by
  rw [numberRest, takeWhile_map_toUpper isDigit_toUpper, dropWhile_map_toUpper isDigit_toUpper,
    fraction_map_toUpper, ← List.map_append, numberRest]

theorem digitRest_map_toUpper (rest : List Char) :
    digitRest (rest.map Char.toUpper) =
      ((digitRest rest).1, (digitRest rest).2.map Char.toUpper) := by
  unfold digitRest
  dsimp only
  rw [numberRest_map_toUpper, takeWhile_map_toUpper isWordRest_toUpper, List.length_map,
    List.length_map]
  split <;> rfl

theorem quotedRest_map_toUpper {quote : Char} (other : quote.isAlpha = false) (pending : Bool)
    (rest : List Char) :
    quotedRest quote pending (rest.map Char.toUpper) =
      ((quotedRest quote pending rest).1.map Char.toUpper, (quotedRest quote pending rest).2) := by
  induction rest generalizing pending with
  | nil => rfl
  | cons c rest ih =>
      have feed : ('\n').isAlpha = false := by decide
      simp only [List.map_cons, quotedRest, toUpper_eq_iff other, toUpper_eq_iff feed, ih]
      split
      · rfl
      · split
        · rfl
        · split <;> rfl

theorem symbolRest_map_toUpper (first : Char) (rest : List Char) :
    symbolRest first.toUpper (rest.map Char.toUpper) =
      (symbolRest first rest).map Char.toUpper := by
  cases rest with
  | nil => rfl
  | cons second rest =>
      simp (disch := decide) only [List.map_cons, symbolRest, List.mem_cons, List.not_mem_nil,
        Prod.mk.injEq, toUpper_eq_iff]
      split <;> rfl

/-! ## Cutting -/

/-- A text in upper case is cut off at the same place as a piece of the same kind. -/
theorem cut_map_toUpper (first : Char) (rest : List Char) :
    cut first.toUpper (rest.map Char.toUpper) =
      ((cut first rest).1, (cut first rest).2.map Char.toUpper) := by
  have comment : (rest.map Char.toUpper).head? = some '>' ↔ rest.head? = some '>' := by
    cases rest with
    | nil => exact Iff.rfl
    | cons c rest => simp (disch := decide) [toUpper_eq_iff]
  have digit : ((rest.map Char.toUpper).head?.map Char.isDigit).getD false =
      (rest.head?.map Char.isDigit).getD false := by
    cases rest with
    | nil => rfl
    | cons c rest => exact isDigit_toUpper c
  have line : (rest.map Char.toUpper).takeWhile (· ≠ '\n') =
      (rest.takeWhile (· ≠ '\n')).map Char.toUpper :=
    takeWhile_map_toUpper
      (fun c => decide_eq_decide.mpr (not_congr (toUpper_eq_iff (by decide)))) rest
  by_cases quote : first = '"' ∨ first = '\x27'
  · have letter : first.isAlpha = false := by rcases quote with rfl | rfl <;> decide
    have same : first.toUpper = first := (toUpper_eq_iff letter).mpr rfl
    rw [same, cut_of_quote quote, cut_of_quote quote, quotedRest_map_toUpper letter]
  · simp (disch := decide) only [cut, isBlank_toUpper, toUpper_eq_iff, comment, if_neg quote,
      isDigit_toUpper, isAlpha_toUpper, isSign_toUpper, digit, digitRest_map_toUpper,
      numberRest_map_toUpper, symbolRest_map_toUpper, line,
      takeWhile_map_toUpper isWordRest_toUpper]
    repeat' split
    all_goals rfl

/-- A text in upper case has the same pieces in upper case. -/
theorem piecesAfter_map_toUpper (skip : Nat) (text : List Char) :
    piecesAfter skip (text.map Char.toUpper) = (piecesAfter skip text).map toUpper := by
  induction text generalizing skip with
  | nil => cases skip <;> rfl
  | cons first rest ih =>
      cases skip with
      | succ skip => exact ih skip
      | zero =>
          rw [List.map_cons, piecesAfter, cut_map_toUpper, List.length_map, ih, piecesAfter]
          rfl

end Piece

/-! ## Tokens -/

/-- The token with its text in upper case. -/
def Token.toUpper (token : Token) : Token :=
  { token with value := token.value.toUpper }

theorem toUpper_ofList (text : List Char) :
    (String.ofList text).toUpper = String.ofList (text.map Char.toUpper) := by
  rw [← String.toList_inj, String.toUpper, String.toList_map, String.toList_ofList,
    String.toList_ofList]

theorem Position.advance_map_toUpper (position : Position) (text : List Char) :
    position.advance (text.map Char.toUpper) = position.advance text := by
  have same (position : Position) (c : Char) : position.step c.toUpper = position.step c := by
    simp (disch := decide) only [step, toUpper_eq_iff, utf8Size_toUpper]
  induction text generalizing position with
  | nil => rfl
  | cons c text ih => rw [List.map_cons, advance_cons, advance_cons, same, ih]

theorem Token.endsOperand_toUpper (token : Token) :
    token.toUpper.endsOperand = token.endsOperand := by
  have closing : token.toUpper.is ")" = token.is ")" := by
    have letters : token.value.toList.map Char.toUpper = [')'] ↔ token.value.toList = [')'] := by
      simp (disch := decide) [List.map_eq_singleton_iff, toUpper_eq_iff]
    rw [Bool.eq_iff_iff, is_eq_true_iff, is_eq_true_iff, ← String.toList_inj, ← String.toList_inj,
      toUpper, String.toUpper, String.toList_map]
    exact letters
  rw [endsOperand, endsOperand, closing]
  rfl

/-- The tokens of a piece in upper case. -/
theorem Piece.tokens_toUpper (piece : Piece) (start : Position) (before : Bool) :
    piece.toUpper.tokens start before = (piece.tokens start before).map Token.toUpper := by
  have value_eq : piece.toUpper.value = piece.value.toUpper := (toUpper_ofList piece.text).symm
  cases kind : piece.kind with
  | blank => rw [tokens, tokens, toUpper, kind, List.map_nil]
  | comment => rw [tokens, tokens, toUpper, kind, List.map_nil]
  | word =>
      have upper : piece.toUpper.kind = .word := kind
      have again : Char.toUpper ∘ Char.toUpper = Char.toUpper := funext toUpper_toUpper
      rw [tokens_of_word upper, tokens_of_word kind, List.map_singleton, Token.toUpper,
        toUpper_ofList, text_toUpper, List.map_map, again]
  | numeric =>
      have upper : piece.toUpper.kind = .numeric := kind
      have signed : piece.toUpper.isSigned = piece.isSigned := isSign_toUpper piece.first
      rw [tokens, tokens, upper, kind]
      dsimp only
      rw [signed]
      split
      · simp only [List.map_cons, List.map_nil, Token.toUpper, toUpper_ofList,
          String.singleton_eq_ofList]
        rfl
      · rw [List.map_singleton, Token.toUpper, value_eq]
  | string =>
      have upper : piece.toUpper.kind = .string := kind
      rw [tokens, tokens, upper, kind, value_eq]
      rfl
  | symbol =>
      have upper : piece.toUpper.kind = .symbol := kind
      rw [tokens, tokens, upper, kind, value_eq]
      rfl

namespace Source

/-- The tokens of the same pieces in upper case. -/
theorem tokensFrom_map_toUpper (start : Position) (before : Bool) (pieces : List Piece) :
    tokensFrom start before (pieces.map Piece.toUpper) =
      (tokensFrom start before pieces).map Token.toUpper := by
  induction pieces generalizing start before with
  | nil =>
      have last : ("EOF").toUpper = "EOF" := by decide +kernel
      rw [List.map_nil, tokensFrom, List.map_singleton, Token.endOfInput, Token.toUpper, last]
  | cons piece rest ih =>
      rw [List.map_cons, tokensFrom, tokensFrom, List.map_append, piece.tokens_toUpper,
        Piece.text_toUpper, Position.advance_map_toUpper, ih,
        endsOperand_map Token.endsOperand_toUpper]

/-- The case of letters makes no difference: a text in upper case has the same tokens, in the same
places and with the same roles, with their texts in upper case. -/
theorem tokenize_toUpper (source : String) :
    tokenize source.toUpper = (tokenize source).map Token.toUpper := by
  rw [tokenize, Piece.pieces, String.toUpper, String.toList_map, Piece.piecesAfter_map_toUpper,
    tokensFrom_map_toUpper]
  rfl

end Source

end CobolCheck
