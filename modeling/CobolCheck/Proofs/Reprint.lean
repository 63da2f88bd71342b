import CobolCheck.Proofs.Source.Recut

/-!
# Tokens printed back

The texts of the tokens of a source, one on each line, are the tokens of the source again.
Each text is cut off as a whole, since the line feed after it goes on with none of them, and
it is read under the same role, since whether a sign belongs to a literal depends on the token
before it alone.
-/

namespace CobolCheck

open Source

/-- The texts of tokens, one on each line. -/
def Source.printed (tokens : List Token) : String :=
  "\n".intercalate (tokens.map Token.value)

/-- Whether a token is read again from its own text on a line. `before` tells whether the token
before it ends an operand. -/
def Token.Reprints (before : Bool) (token : Token) : Prop :=
  ∃ piece : Piece, token.value = piece.value ∧
    (∀ after, Broken after →
      Piece.cut piece.first (piece.more ++ after) = (piece.kind, piece.more)) ∧
    ∀ start, (piece.tokens start before).map Token.unplaced = [token.unplaced]

/-- Whether tokens are read again one after the other. -/
inductive Reprinted : (before : Bool) → List Token → Prop
  | nil (before : Bool) : Reprinted before []
  | cons {before : Bool} {token : Token} {rest : List Token} (first : token.Reprints before)
      (later : Reprinted token.endsOperand rest) : Reprinted before (token :: rest)

/-! ## Reading the lines -/

/-- What follows the text of a token is the next line, whose line feed is passed over. -/
theorem exists_printed_cons (token : Token) (rest : List Token) :
    ∃ after, Broken after ∧ (printed (token :: rest)).toList = token.value.toList ++ after ∧
      ∀ start before, ∃ next, tokensFrom start before (Piece.piecesAfter 0 after) =
        tokensFrom next before (Piece.piecesAfter 0 (printed rest).toList) := by
  cases rest with
  | nil =>
      refine ⟨[], broken_nil, ?_, fun start before => ⟨start, ?_⟩⟩
      · simp [printed]
      · simp [printed]
  | cons next others =>
      refine ⟨'\n' :: (printed (next :: others)).toList, broken_cons _, ?_,
        fun start before => ⟨start.advance ['\n'], ?_⟩⟩
      · simp [printed, String.toList_intercalate]
      · rw [Piece.piecesAfter_zero_cons]
        rfl

/-- Whether a token ends an operand is seen without its place. -/
theorem endsOperand_of_unplaced_eq {tokens : List Token} {token : Token}
    (same : tokens.map Token.unplaced = [token.unplaced]) (before : Bool) :
    endsOperand before tokens = token.endsOperand := by
  obtain ⟨only, rfl, unplaced⟩ := List.map_eq_singleton_iff.mp same
  have same : only.unplaced.endsOperand = token.unplaced.endsOperand :=
    congrArg Token.endsOperand unplaced
  exact same

/-- The lines of tokens that are read again are read as these tokens. -/
theorem Reprinted.map_unplaced {before : Bool} {tokens : List Token}
    (reprinted : Reprinted before tokens) (start : Position) :
    (tokensFrom start before (Piece.piecesAfter 0 (printed tokens).toList)).map Token.unplaced =
      tokens.map Token.unplaced ++ [Token.endOfInput 0 0] := by
  induction reprinted generalizing start with
  | nil before => rfl
  | @cons before token rest first later ih =>
      obtain ⟨piece, value_eq, cut_eq, tokens_eq⟩ := first
      obtain ⟨after, broken, printed_eq, passed⟩ := exists_printed_cons token rest
      rw [printed_eq, value_eq, Piece.value, String.toList_ofList, Piece.text, List.cons_append,
        Piece.piecesAfter_zero_cons, cut_eq after broken, List.drop_left, tokensFrom]
      dsimp only
      rw [List.map_append, tokens_eq, endsOperand_of_unplaced_eq (tokens_eq start)]
      obtain ⟨next, next_eq⟩ := passed (start.advance piece.text) token.endsOperand
      rw [next_eq, ih, List.map_cons, List.cons_append, List.nil_append, List.cons_append]

/-! ## The tokens of a source -/

namespace Piece

theorem map_unplaced_tokens (piece : Piece) (start other : Position) (before : Bool) :
    (piece.tokens start before).map Token.unplaced =
      (piece.tokens other before).map Token.unplaced := by
  unfold tokens
  split
  all_goals first | rfl | (split <;> rfl)

/-- A piece that gives its own text as a token. -/
theorem IsCut.reprints {piece : Piece} (cuts : piece.IsCut) {start : Position} {before : Bool}
    {token : Token} (tokens_eq : piece.tokens start before = [token])
    (value_eq : token.value = piece.value) : token.Reprints before := by
  have some : piece.tokens start before ≠ [] := by simp [tokens_eq]
  rw [Ne, tokens_eq_nil_iff, not_or] at some
  refine ⟨piece, value_eq, fun after broken => cuts.cut_append some.1 some.2 broken,
    fun other => ?_⟩
  rw [piece.map_unplaced_tokens other start, tokens_eq]
  rfl

/-- A word is read again in upper case. -/
theorem IsCut.reprints_word {piece : Piece} (cuts : piece.IsCut) (kind : piece.kind = .word)
    {start : Position} {before : Bool} {token : Token}
    (tokens_eq : piece.tokens start before = [token]) : token.Reprints before := by
  obtain ⟨rest, cut_eq⟩ := cuts
  rw [kind] at cut_eq
  have word := (isWord_of_cut cut_eq).toUpper
  have text_eq : piece.toUpper.text.map Char.toUpper = piece.text.map Char.toUpper := by
    have again : Char.toUpper ∘ Char.toUpper = Char.toUpper := funext toUpper_toUpper
    rw [text_toUpper, List.map_map, again]
  have upper : piece.toUpper.kind = .word := kind
  rw [tokens_of_word kind, List.singleton_inj] at tokens_eq
  subst tokens_eq
  refine ⟨piece.toUpper, rfl, fun after broken => ?_, fun other => ?_⟩
  · rw [upper]
    exact word.cut_append broken
  · rw [tokens_of_word upper, text_eq]
    rfl

/-- A sign that is split off is read again as a symbol. -/
theorem reprints_sign {sign : Char} (signs : isSign sign = true) (start : Position)
    (before : Bool) :
    (⟨String.singleton sign, .symbol, .plain, start.line, start.column⟩ : Token).Reprints before :=
  ⟨⟨.symbol, sign, []⟩, rfl, fun _ broken => cut_of_sign signs broken, fun _ => rfl⟩

/-- A sign does not end an operand. -/
theorem endsOperand_sign {sign : Char} (signs : isSign sign = true) (start : Position) :
    (⟨String.singleton sign, .symbol, .plain, start.line, start.column⟩ : Token).endsOperand =
      false := by
  have cases : sign = '+' ∨ sign = '-' := by simpa [isSign] using signs
  rcases cases with rfl | rfl <;> rfl

/-- A numeral without its sign is read again as it is. -/
theorem reprints_isUnsigned {text : List Char} (numeral : IsUnsigned text) (line column : Nat) :
    (⟨String.ofList text, .numeric, .plain, line, column⟩ : Token).Reprints false := by
  obtain ⟨first, more, rfl, -, -⟩ := exists_cons_of_isUnsigned numeral
  exact ⟨⟨.numeric, first, more⟩, rfl, fun _ broken => cut_of_isUnsigned numeral broken,
    fun _ => rfl⟩

/-- The tokens of a piece are read again before tokens that are. -/
theorem IsCut.reprinted_append {piece : Piece} (cuts : piece.IsCut) {start : Position}
    {before : Bool} {rest : List Token}
    (later : Reprinted (endsOperand before (piece.tokens start before)) rest) :
    Reprinted before (piece.tokens start before ++ rest) := by
  have single {token : Token} (tokens_eq : piece.tokens start before = [token])
      (first : token.Reprints before) : Reprinted before (piece.tokens start before ++ rest) := by
    rw [tokens_eq] at later ⊢
    exact .cons first later
  cases kind : piece.kind with
  | blank =>
      rw [(piece.tokens_eq_nil_iff start before).mpr (.inl kind)] at later ⊢
      exact later
  | comment =>
      rw [(piece.tokens_eq_nil_iff start before).mpr (.inr kind)] at later ⊢
      exact later
  | word =>
      have tokens_eq := tokens_of_word kind start before
      exact single tokens_eq (cuts.reprints_word kind tokens_eq)
  | numeric =>
      cases split : before && piece.isSigned with
      | false =>
          have tokens_eq : piece.tokens start before =
              [⟨piece.value, .numeric, .plain, start.line, start.column⟩] := by
            rw [tokens, kind]
            simp [split]
          exact single tokens_eq (cuts.reprints tokens_eq rfl)
      | true =>
          have signed : piece.isSigned = true := (Bool.and_eq_true_iff.mp split).2
          have tokens_eq : piece.tokens start before =
              [⟨String.singleton piece.first, .symbol, .plain, start.line, start.column⟩,
                ⟨String.ofList piece.more, .numeric, .plain, start.line, start.column + 1⟩] := by
            rw [tokens, kind]
            simp [split]
          rw [tokens_eq] at later ⊢
          refine .cons (reprints_sign signed start before) ?_
          rw [endsOperand_sign signed]
          exact .cons (reprints_isUnsigned (cuts.isUnsigned_more kind signed) _ _) later
  | string =>
      have tokens_eq : piece.tokens start before =
          [⟨piece.value, .string, .plain, start.line, start.column⟩] := by rw [tokens, kind]
      exact single tokens_eq (cuts.reprints tokens_eq rfl)
  | symbol =>
      have tokens_eq : piece.tokens start before =
          [⟨piece.value, .symbol, .plain, start.line, start.column⟩] := by rw [tokens, kind]
      exact single tokens_eq (cuts.reprints tokens_eq rfl)

end Piece

theorem exists_reprinted_append_tokensFrom {pieces : List Piece}
    (cuts : ∀ piece ∈ pieces, piece.IsCut) (start : Position) (before : Bool) :
    ∃ front line column,
      tokensFrom start before pieces = front ++ [Token.endOfInput line column] ∧
        Reprinted before front := by
  induction pieces generalizing start before with
  | nil => exact ⟨[], _, _, rfl, .nil before⟩
  | cons piece rest ih =>
      rw [List.forall_mem_cons] at cuts
      obtain ⟨front, line, column, rest_eq, reprinted⟩ := ih cuts.2 _ _
      refine ⟨piece.tokens start before ++ front, line, column, ?_,
        cuts.1.reprinted_append reprinted⟩
      rw [tokensFrom, rest_eq, List.append_assoc]

/-- The texts of the tokens of a source, one on each line and without the end of the input, are
read as the same tokens in other places. -/
theorem tokenize_printed (source : String) :
    (tokenize (printed (tokenize source).dropLast)).map Token.unplaced =
      (tokenize source).map Token.unplaced := by
  obtain ⟨front, line, column, tokens_eq, reprinted⟩ := exists_reprinted_append_tokensFrom
    (fun _ member => Piece.isCut_of_mem_piecesAfter member) .start false
  have source_eq : tokenize source = front ++ [Token.endOfInput line column] := tokens_eq
  rw [source_eq, List.dropLast_concat, List.map_append]
  exact reprinted.map_unplaced .start

example : printed (tokenize "Move a -1 to -2.5.").dropLast = "MOVE\nA\n-\n1\nTO\n-2.5\n." := by
  decide +kernel

end CobolCheck
