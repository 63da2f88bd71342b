import CobolCheck.Proofs.Source.Lines

/-!
# Tokens line by line

The tokens of two texts with a line feed between them are those of the first text and, further
down, those of the second. One thing goes over from a line to the next: after an operand, the
sign of a literal is a binary operator.
-/

namespace CobolCheck

/-! ## Further down -/

/-- The place as many lines further down, in the same column. -/
def Position.below (position : Position) (lines : Nat) : Position :=
  ⟨position.line + lines, position.column⟩

/-- The token as many lines further down, in the same column. -/
def Token.below (token : Token) (lines : Nat) : Token :=
  { token with line := token.line + lines }

namespace Position

theorem step_below (position : Position) (lines : Nat) (c : Char) :
    (position.below lines).step c = (position.step c).below lines := by
  unfold step below
  split
  · rw [Nat.add_right_comm]
  · rfl

theorem advance_below (position : Position) (lines : Nat) (text : List Char) :
    (position.below lines).advance text = (position.advance text).below lines := by
  induction text generalizing position with
  | nil => rfl
  | cons c text ih => rw [advance_cons, advance_cons, step_below, ih]

/-- The line is counted on by the line feeds of a text. -/
theorem line_advance (position : Position) (text : List Char) :
    (position.advance text).line = position.line + text.count '\n' := by
  induction text generalizing position with
  | nil => rfl
  | cons c text ih =>
      rw [advance_cons, ih, step, List.count_cons]
      by_cases feed : c = '\n'
      · rw [if_pos feed, if_pos (beq_iff_eq.mpr feed), Nat.add_assoc, Nat.add_comm 1]
      · rw [if_neg feed, if_neg (mt beq_iff_eq.mp feed), Nat.add_zero]

/-- After a line feed the text goes on in the first column of the next line. -/
theorem advance_append_lineFeed (text : List Char) :
    start.advance (text ++ ['\n']) = start.below (text.count '\n' + 1) := by
  rw [advance_append, advance_cons, advance_nil, step, if_pos rfl, line_advance, below,
    Nat.add_assoc]
  rfl

end Position

theorem Piece.tokens_below (piece : Piece) (start : Position) (lines : Nat) (before : Bool) :
    piece.tokens (start.below lines) before =
      (piece.tokens start before).map fun token => token.below lines := by
  unfold tokens
  split
  all_goals first | rfl | (split <;> rfl)

/-- The tokens of the same pieces further down. -/
theorem Source.tokensFrom_below (start : Position) (lines : Nat) (before : Bool)
    (pieces : List Piece) : tokensFrom (start.below lines) before pieces =
      (tokensFrom start before pieces).map fun token => token.below lines := by
  induction pieces generalizing start before with
  | nil => rfl
  | cons piece rest ih =>
      have same : ∀ token : Token, (token.below lines).endsOperand = token.endsOperand :=
        fun _ => rfl
      rw [tokensFrom, tokensFrom, List.map_append, piece.tokens_below, Position.advance_below, ih,
        endsOperand_map same]

/-! ## After an operand -/

/-- Whether the token is a numeric literal with a sign. -/
def Token.isSigned (token : Token) : Bool :=
  token.category == .numeric && token.value.toList.head?.any Piece.isSign

/-- The sign of a literal as a symbol, and the unsigned literal in the next column. -/
def Token.splitSign (token : Token) : List Token :=
  [⟨String.ofList (token.value.toList.take 1), .symbol, .plain, token.line, token.column⟩,
   ⟨String.ofList (token.value.toList.drop 1), .numeric, .plain, token.line, token.column + 1⟩]

theorem Token.isSigned_of_category_ne {token : Token} (other : token.category ≠ .numeric) :
    token.isSigned = false := by
  rw [isSigned, beq_false_of_ne other, Bool.false_and]

theorem Token.endsOperand_of_isSigned {token : Token} (signed : token.isSigned = true) :
    token.endsOperand = true := by
  rw [isSigned, Bool.and_eq_true, beq_iff_eq] at signed
  rw [endsOperand, signed.1]
  rfl

namespace Source

/-- Tokens as they are read after other ones, of which `before` tells whether they end in an
operand: a sign that the first token begins with is then a symbol of its own. -/
def resumed (before : Bool) : List Token → List Token
  | [] => []
  | first :: rest => (if before && first.isSigned then first.splitSign else [first]) ++ rest

theorem resumed_append {tokens : List Token} (some : tokens ≠ []) (before : Bool)
    (later : List Token) : resumed before (tokens ++ later) = resumed before tokens ++ later := by
  obtain ⟨first, rest, rfl⟩ := List.exists_cons_of_ne_nil some
  rw [List.cons_append, resumed, resumed, List.append_assoc]

/-- What a sign is split off from is a literal, as is what is left of it. -/
theorem endsOperand_resumed (before split : Bool) (tokens : List Token) :
    endsOperand before (resumed split tokens) = endsOperand before tokens := by
  cases tokens with
  | nil => rfl
  | cons first rest =>
      have whole := endsOperand_append before [first] rest
      rw [List.singleton_append] at whole
      rw [resumed, endsOperand_append, whole]
      congr 1
      split
      · next signed =>
        rw [Bool.and_eq_true] at signed
        exact (Token.endsOperand_of_isSigned signed.2).symm
      · rfl

theorem endsOperand_of_ne_nil {tokens : List Token} (some : tokens ≠ []) (before other : Bool) :
    endsOperand before tokens = endsOperand other tokens := by
  rw [endsOperand, endsOperand, List.getLast?_eq_some_getLast some]
  rfl

end Source

/-- A piece gives the same tokens after an operand, but for a sign that is split off. -/
theorem Piece.tokens_eq_resumed (piece : Piece) (start : Position) (before : Bool) :
    piece.tokens start before = Source.resumed before (piece.tokens start false) := by
  have whole {token : Token} (other : token.category ≠ .numeric) :
      [token] = Source.resumed before [token] := by
    rw [Source.resumed, Token.isSigned_of_category_ne other, Bool.and_false]
    rfl
  cases kind : piece.kind with
  | blank => rw [tokens, tokens, kind, Source.resumed]
  | comment => rw [tokens, tokens, kind, Source.resumed]
  | word =>
      rw [tokens_of_word kind, tokens_of_word kind]
      apply whole
      have listed := Word.category_classify (String.ofList (piece.text.map Char.toUpper))
      intro numeric
      dsimp only at numeric
      simp [numeric] at listed
  | numeric =>
      have signed : Token.isSigned ⟨piece.value, .numeric, .plain, start.line, start.column⟩ =
          piece.isSigned := by
        simp [Token.isSigned, value, text, isSigned]
      rw [tokens, tokens, kind, Bool.false_and, if_neg Bool.false_ne_true, Source.resumed, signed,
        List.append_nil, Token.splitSign, value, String.toList_ofList]
      rfl
  | string =>
      rw [tokens, tokens, kind]
      exact whole (by simp)
  | symbol =>
      rw [tokens, tokens, kind]
      exact whole (by simp)

/-- The tokens of the same pieces after an operand. -/
theorem Source.tokensFrom_eq_resumed (start : Position) (before : Bool) (pieces : List Piece) :
    tokensFrom start before pieces = resumed before (tokensFrom start false pieces) := by
  induction pieces generalizing start before with
  | nil =>
      have unsigned : (Token.endOfInput start.line start.column).isSigned = false := rfl
      rw [tokensFrom, tokensFrom, resumed, unsigned, Bool.and_false]
      rfl
  | cons piece rest ih =>
      rw [tokensFrom, tokensFrom, piece.tokens_eq_resumed start before, endsOperand_resumed]
      by_cases none : piece.tokens start false = []
      · rw [none]
        exact ih _ _
      · rw [resumed_append none, endsOperand_of_ne_nil none before false]

/-! ## Two texts -/

namespace Source

theorem tokensFrom_ne_nil (start : Position) (before : Bool) (pieces : List Piece) :
    tokensFrom start before pieces ≠ [] := by
  intro none
  have last := getLast?_tokensFrom start before pieces
  rw [none] at last
  cases last

/-- The tokens of pieces are those of the first ones, without the end of the input, and those of
the others. -/
theorem tokensFrom_append (start : Position) (before : Bool) (first second : List Piece) :
    tokensFrom start before (first ++ second) =
      (tokensFrom start before first).dropLast ++
        tokensFrom (start.advance (first.flatMap Piece.text))
          (endsOperand before (tokensFrom start before first).dropLast) second := by
  induction first generalizing start before with
  | nil => rfl
  | cons piece rest ih =>
      rw [List.cons_append, tokensFrom, tokensFrom, ih,
        List.dropLast_append_of_ne_nil (tokensFrom_ne_nil _ _ rest), endsOperand_append,
        List.flatMap_cons, Position.advance_append, List.append_assoc]

/-- A text is read line by line. The tokens of two texts with a line feed between them are those
of the first without the end of the input, and those of the second as many lines further down,
where a sign after an operand is split off the first token. So are the pieces, and no piece that
gives a token or is a comment reaches across a line feed. -/
theorem tokenize_append_lineFeed (first second : String) :
    tokenize (first ++ "\n" ++ second) =
        (tokenize first).dropLast ++
          resumed (endsOperand false (tokenize first).dropLast)
            ((tokenize second).map fun token => token.below (first.toList.count '\n' + 1)) ∧
      Piece.pieces (first ++ "\n" ++ second) =
        Piece.pieces first ++ Piece.lineFeed :: Piece.pieces second ∧
      ∀ piece ∈ Piece.pieces (first ++ "\n" ++ second), piece.kind ≠ .blank →
        '\n' ∉ piece.text := by
  have pieces_eq := Piece.pieces_append_lineFeed first second
  refine ⟨?_, pieces_eq, fun piece member visible =>
    (Piece.isCut_of_mem_piecesAfter member).lineFeed_notMem visible⟩
  have place : Position.start.advance ((Piece.pieces first).flatMap Piece.text ++ ['\n']) =
      Position.start.below (first.toList.count '\n' + 1) := by
    rw [Piece.flatMap_text_pieces, Position.advance_append_lineFeed]
  have further (before : Bool) :
      tokensFrom (Position.start.below (first.toList.count '\n' + 1)) before
          (Piece.pieces second) =
        resumed before
          ((tokenize second).map fun token => token.below (first.toList.count '\n' + 1)) := by
    rw [tokensFrom_eq_resumed, tokensFrom_below]
    rfl
  rw [tokenize, pieces_eq, tokensFrom_append, tokensFrom,
    show Piece.lineFeed.text = ['\n'] from rfl, ← Position.advance_append, place, further]
  rfl

/-- After the operand of one line, the sign that the next one begins with is split off. -/
example : (tokenize "MOVE A\n-1").map Token.value = ["MOVE", "A", "-", "1", "EOF"] := by
  decide +kernel

end Source

end CobolCheck
