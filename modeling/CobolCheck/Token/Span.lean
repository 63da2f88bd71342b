import CobolCheck.Token

/-!
# Spans of tokens

The stretch of bytes that a token takes up in a source text, from its line and
column alone. A token need not come from that text, so the span is cut at the
end of the text and a token that begins beyond it has none.
-/

namespace CobolCheck

/-- A stretch of bytes of a text. -/
structure Span where
  offset : Nat
  length : Nat
  deriving DecidableEq

namespace Span

/-- The byte offset after as many line feeds, if there are so many. -/
def offsetAfterLineFeeds : Nat → List Char → Option Nat
  | 0, _ => some 0
  | _ + 1, [] => none
  | count + 1, c :: rest =>
      (offsetAfterLineFeeds (if c = '\n' then count else count + 1) rest).map (c.utf8Size + ·)

/-- The byte offset of a line, the first of which is line one. -/
def lineOffset (line : Nat) (source : String) : Option Nat :=
  offsetAfterLineFeeds (line - 1) source.toList

@[simp]
theorem lineOffset_zero (source : String) : lineOffset 0 source = some 0 := by
  simp [lineOffset, offsetAfterLineFeeds]

@[simp]
theorem lineOffset_one (source : String) : lineOffset 1 source = some 0 := by
  simp [lineOffset, offsetAfterLineFeeds]

/-- The byte offset of a column, which counts from one, in a text of `size` bytes.
Offsets are numbers of 64 bits like the columns. A text is smaller than that, so
only an offset beyond the text may wrap around. -/
def columnOffset (size lineStart column : Nat) : Nat :=
  let offset := lineStart + (column - 1)
  if offset ≤ size then offset else offset % Token.positionBound

theorem columnOffset_of_le {size lineStart column : Nat}
    (inside : lineStart + (column - 1) ≤ size) :
    columnOffset size lineStart column = lineStart + (column - 1) :=
  if_pos inside

end Span

namespace Token

/-- The bytes of `source` at the position of the token, at most as many as its
text has. The end of the input has no bytes. -/
def span (token : Token) (source : String) : Option Span := do
  let lineStart ← Span.lineOffset token.line source
  let offset := Span.columnOffset source.utf8ByteSize lineStart token.column
  if source.utf8ByteSize < offset then none
  else
    let length :=
      if token.isEof then 0 else min token.value.utf8ByteSize (source.utf8ByteSize - offset)
    some ⟨offset, length⟩

/-- A span ends within the source text. -/
theorem end_le_of_span_eq_some {token : Token} {source : String} {span : Span}
    (found : token.span source = some span) :
    span.offset + span.length ≤ source.utf8ByteSize := by
  unfold Token.span at found
  cases lineStart : Span.lineOffset token.line source with
  | none => simp [lineStart] at found
  | some base =>
      simp only [lineStart, Option.bind_eq_bind, Option.bind_some] at found
      split at found
      · simp at found
      · cases found
        simp only
        split <;> omega

end Token

end CobolCheck
