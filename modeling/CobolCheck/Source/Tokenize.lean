import CobolCheck.Source.Piece
import CobolCheck.Source.Position
import CobolCheck.Token.Word

/-!
# The tokens of a source text

Every piece but a blank or a comment gives a token at the position where the
piece begins. One kind of piece gives two: a signed numeric literal right after
an operand is a binary sign and an unsigned literal, so that `A -1` reads as a
subtraction and `MOVE -1` as a negative number. The end of the input is a token
of its own.
-/

namespace CobolCheck

namespace Piece

/-- Whether a numeric literal carries a sign. -/
def isSigned (piece : Piece) : Bool :=
  isSign piece.first

/-- The text of a piece as a token value. -/
def value (piece : Piece) : String :=
  String.ofList piece.text

/-- The tokens of one piece. `afterOperand` tells whether the token before it
ends an operand. Words are read in upper case. -/
def tokens (piece : Piece) (start : Position) (afterOperand : Bool) : List Token :=
  match piece.kind with
  | .blank => []
  | .comment => []
  | .word =>
      let word := String.ofList (piece.text.map Char.toUpper)
      let (category, context) := Word.classify word
      [⟨word, category, context, start.line, start.column⟩]
  | .numeric =>
      if afterOperand && piece.isSigned then
        [⟨String.singleton piece.first, .symbol, .plain, start.line, start.column⟩,
         ⟨String.ofList piece.more, .numeric, .plain, start.line, start.column + 1⟩]
      else [⟨piece.value, .numeric, .plain, start.line, start.column⟩]
  | .string => [⟨piece.value, .string, .plain, start.line, start.column⟩]
  | .symbol => [⟨piece.value, .symbol, .plain, start.line, start.column⟩]

theorem tokens_eq_nil_iff (piece : Piece) (start : Position) (afterOperand : Bool) :
    piece.tokens start afterOperand = [] ↔ piece.kind = .blank ∨ piece.kind = .comment := by
  unfold tokens
  split <;> simp_all
  split <;> simp

/-- A piece lies on one line and so do its tokens. -/
theorem line_of_mem_tokens {piece : Piece} {start : Position} {afterOperand : Bool}
    {token : Token} (member : token ∈ piece.tokens start afterOperand) :
    token.line = start.line := by
  grind [tokens]

end Piece

namespace Source

/-- Whether a sign after these tokens is a binary operator; where there are
none, what held before them still holds. -/
def endsOperand (before : Bool) (tokens : List Token) : Bool :=
  (tokens.getLast?.map Token.endsOperand).getD before

/-- Whether a token ends an operand is all that counts of it for the tokens after it. -/
theorem endsOperand_map {change : Token → Token}
    (same : ∀ token, (change token).endsOperand = token.endsOperand) (before : Bool)
    (tokens : List Token) : endsOperand before (tokens.map change) = endsOperand before tokens := by
  rw [endsOperand, endsOperand, List.getLast?_map, Option.map_map]
  exact congrArg (fun ends => ((tokens.getLast?).map ends).getD before) (funext same)

theorem endsOperand_append (before : Bool) (first second : List Token) :
    endsOperand before (first ++ second) = endsOperand (endsOperand before first) second := by
  unfold endsOperand
  rw [List.getLast?_append]
  cases second.getLast? <;> rfl

/-- The tokens of the pieces that begin at `start`, and the end of the input. -/
def tokensFrom (start : Position) (afterOperand : Bool) : List Piece → List Token
  | [] => [Token.endOfInput start.line start.column]
  | piece :: rest =>
      let tokens := piece.tokens start afterOperand
      tokens ++ tokensFrom (start.advance piece.text) (endsOperand afterOperand tokens) rest

/-- The tokens of a source text. -/
def tokenize (source : String) : List Token :=
  tokensFrom .start false (Piece.pieces source)

/-- The last token marks the end of the input, at the place after the whole text. -/
theorem getLast?_tokensFrom (start : Position) (afterOperand : Bool) (pieces : List Piece) :
    (tokensFrom start afterOperand pieces).getLast? =
      some (Token.endOfInput (start.advance (pieces.flatMap Piece.text)).line
        (start.advance (pieces.flatMap Piece.text)).column) := by
  induction pieces generalizing start afterOperand with
  | nil => rfl
  | cons piece rest ih =>
      simp only [tokensFrom, List.getLast?_append, ih, List.flatMap_cons,
        Position.advance_append, Option.some_or]

/-- The end of the input is the position after the last character of the text. -/
theorem getLast?_tokenize (source : String) :
    (tokenize source).getLast? =
      some (Token.endOfInput (Position.start.advance source.toList).line
        (Position.start.advance source.toList).column) := by
  rw [tokenize, getLast?_tokensFrom, Piece.flatMap_text_pieces]

end Source

end CobolCheck
