/-!
# Pieces of a source text

A source text is cut from left to right into pieces: blanks, comments, words,
numeric literals, string literals and symbols. Each piece is the longest that
can be cut at its place. The main statement is `flatMap_text_pieces`: the
pieces, written one after the other, are the source text again.
-/

namespace CobolCheck

/-- What a piece of source text is. -/
inductive PieceKind where
  | blank
  | comment
  | word
  | numeric
  | string
  | symbol
  deriving DecidableEq

/-- A piece of source text. It has at least one character. -/
structure Piece where
  kind : PieceKind
  first : Char
  more : List Char
  deriving DecidableEq

namespace Piece

/-- The characters of a piece. -/
def text (piece : Piece) : List Char :=
  piece.first :: piece.more

/-! ## Characters -/

/-- The characters that only separate tokens. -/
def isBlank (c : Char) : Bool :=
  c == ' ' || c == '\t' || c == '\r' || c == '\n' || c == '\x0c'

/-- The characters a word may go on with. A word begins with a letter or digit. -/
def isWordRest (c : Char) : Bool :=
  c.isAlphanum || c == '-'

/-- The sign characters of numeric literals. -/
def isSign (c : Char) : Bool :=
  c == '+' || c == '-'

/-! ## Longest continuations

Each function takes the text after the first character or characters of a piece
and gives what else belongs to the piece. -/

/-- A decimal point goes on with a fraction only if a digit follows it. -/
def fraction : List Char → List Char
  | '.' :: digit :: rest =>
      if digit.isDigit then '.' :: digit :: rest.takeWhile Char.isDigit else []
  | _ => []

/-- The further digits of a numeric literal, and its fraction if it has one. -/
def numberRest (rest : List Char) : List Char :=
  rest.takeWhile Char.isDigit ++ fraction (rest.dropWhile Char.isDigit)

/-- What follows an opening quote on its line, and whether the literal is closed.
A quote closes the literal unless another one follows it: two quotes in a row
stand for one and belong to the text. `pending` tells that an odd number of
quotes was just read. -/
def quotedRest (quote : Char) : Bool → List Char → List Char × Bool
  | pending, [] => ([], pending)
  | pending, c :: rest =>
      if c = quote then
        let (tail, closed) := quotedRest quote (!pending) rest
        (c :: tail, closed)
      else if pending then ([], true)
      else if c = '\n' then ([], false)
      else
        let (tail, closed) := quotedRest quote false rest
        (c :: tail, closed)

/-- A second character that makes a symbol of two characters. -/
def symbolRest (first : Char) : List Char → List Char
  | second :: _ =>
      if (first, second) ∈ [('*', '*'), ('<', '='), ('>', '='), ('<', '>')] then [second] else []
  | [] => []

/-- What begins with a digit is a word if that is longer than the numeric literal. -/
def digitRest (rest : List Char) : PieceKind × List Char :=
  let number := numberRest rest
  let word := rest.takeWhile isWordRest
  if number.length < word.length then (.word, word) else (.numeric, number)

/-! ## Cutting -/

/-- The kind of the piece that begins with `first`, and its further characters.
A character that no pattern knows is a symbol, and so is a quote that is not
closed on its line, together with the rest of that line. -/
def cut (first : Char) (rest : List Char) : PieceKind × List Char :=
  if isBlank first then (.blank, [])
  else if first = '*' ∧ rest.head? = some '>' then (.comment, rest.takeWhile (· ≠ '\n'))
  else if first = '"' ∨ first = '\x27' then
    let (tail, closed) := quotedRest first false rest
    (if closed then .string else .symbol, tail)
  else if first.isDigit then digitRest rest
  else if first.isAlpha then (.word, rest.takeWhile isWordRest)
  else if isSign first ∧ (rest.head?.map Char.isDigit).getD false then
    (.numeric, numberRest rest)
  else (.symbol, symbolRest first rest)

/-- The pieces of a text whose first `skip` characters belong to a piece that is
already cut. -/
def piecesAfter : Nat → List Char → List Piece
  | _, [] => []
  | 0, first :: rest =>
      ⟨(cut first rest).1, first, (cut first rest).2⟩ ::
        piecesAfter (cut first rest).2.length rest
  | skip + 1, _ :: rest => piecesAfter skip rest

/-- The pieces of a source text. -/
def pieces (source : String) : List Piece :=
  piecesAfter 0 source.toList

/-! ## Nothing is lost -/

theorem fraction_isPrefix (rest : List Char) : fraction rest <+: rest := by
  unfold fraction
  split
  · split
    · simpa using List.takeWhile_prefix _
    · exact List.nil_prefix
  · exact List.nil_prefix

theorem numberRest_isPrefix (rest : List Char) : numberRest rest <+: rest := by
  conv => rhs; rw [← List.takeWhile_append_dropWhile (p := Char.isDigit) (l := rest)]
  exact (List.prefix_append_right_inj _).mpr (fraction_isPrefix _)

theorem quotedRest_isPrefix (quote : Char) (pending : Bool) (rest : List Char) :
    (quotedRest quote pending rest).1 <+: rest := by
  induction rest generalizing pending with
  | nil => exact List.nil_prefix
  | cons c rest ih =>
      unfold quotedRest
      split
      · exact (List.cons_prefix_cons).mpr ⟨rfl, ih _⟩
      · split
        · exact List.nil_prefix
        · split
          · exact List.nil_prefix
          · exact (List.cons_prefix_cons).mpr ⟨rfl, ih _⟩

theorem symbolRest_isPrefix (first : Char) (rest : List Char) : symbolRest first rest <+: rest := by
  cases rest with
  | nil => exact List.nil_prefix
  | cons second rest =>
      simp only [symbolRest]
      split <;> simp

theorem digitRest_isPrefix (rest : List Char) : (digitRest rest).2 <+: rest := by
  unfold digitRest
  simp only
  split
  · exact List.takeWhile_prefix _
  · exact numberRest_isPrefix rest

/-- A piece is a stretch of the text it is cut from. -/
theorem cut_isPrefix (first : Char) (rest : List Char) : (cut first rest).2 <+: rest := by
  unfold cut
  split
  · exact List.nil_prefix
  split
  · exact List.takeWhile_prefix _
  split
  · exact quotedRest_isPrefix first false rest
  split
  · exact digitRest_isPrefix rest
  split
  · exact List.takeWhile_prefix _
  split
  · exact numberRest_isPrefix rest
  · exact symbolRest_isPrefix first rest

/-- The characters that belong to a piece already cut play no further part. -/
theorem piecesAfter_eq (skip : Nat) (text : List Char) :
    piecesAfter skip text = piecesAfter 0 (text.drop skip) := by
  induction skip generalizing text with
  | zero => simp
  | succ skip ih =>
      cases text with
      | nil => simp [piecesAfter]
      | cons _ rest => simp [piecesAfter, ih]

/-- The first piece is cut off and the rest of the text is cut on its own. -/
theorem piecesAfter_zero_cons (first : Char) (rest : List Char) :
    piecesAfter 0 (first :: rest) =
      ⟨(cut first rest).1, first, (cut first rest).2⟩ ::
        piecesAfter 0 (rest.drop (cut first rest).2.length) := by
  rw [piecesAfter, piecesAfter_eq]

theorem flatMap_text_piecesAfter (skip : Nat) (source : List Char) :
    (piecesAfter skip source).flatMap text = source.drop skip := by
  induction source generalizing skip with
  | nil => simp [piecesAfter]
  | cons first rest ih =>
      cases skip with
      | zero =>
          simp only [piecesAfter, List.flatMap_cons, ih, text, List.drop_zero, List.cons_append]
          exact congrArg (first :: ·) (List.prefix_iff_eq_append.mp (cut_isPrefix first rest))
      | succ skip => simpa [piecesAfter] using ih skip

/-- The pieces of a source text, one after the other, are that text. -/
theorem flatMap_text_pieces (source : String) :
    (pieces source).flatMap text = source.toList := by
  rw [pieces, flatMap_text_piecesAfter, List.drop_zero]

end Piece

end CobolCheck
