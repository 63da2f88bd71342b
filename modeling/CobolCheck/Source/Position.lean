/-!
# Positions in a source text

A position is a line and a column, both counted from one. Columns count bytes
of the UTF-8 encoding, and only a line feed begins a new line.
-/

namespace CobolCheck

/-- The place where a character of a source text is written. -/
structure Position where
  line : Nat
  column : Nat
  deriving DecidableEq

namespace Position

/-- The place of the first character of a text. -/
def start : Position :=
  ⟨1, 1⟩

/-- The place after one character. -/
def step (position : Position) (c : Char) : Position :=
  if c = '\n' then ⟨position.line + 1, 1⟩
  else ⟨position.line, position.column + c.utf8Size⟩

/-- The place after a stretch of text. -/
def advance (position : Position) (text : List Char) : Position :=
  text.foldl step position

@[simp]
theorem advance_nil (position : Position) : position.advance [] = position :=
  rfl

@[simp]
theorem advance_cons (position : Position) (c : Char) (text : List Char) :
    position.advance (c :: text) = (position.step c).advance text :=
  rfl

theorem advance_append (position : Position) (first second : List Char) :
    position.advance (first ++ second) = (position.advance first).advance second := by
  simp [advance]

/-- A stretch without a line feed stays on its line. -/
theorem advance_line_eq {text : List Char} (flat : '\n' ∉ text) (position : Position) :
    (position.advance text).line = position.line := by
  induction text generalizing position with
  | nil => rfl
  | cons c rest ih =>
      simp only [List.mem_cons, not_or] at flat
      rw [advance_cons, ih flat.2, step, if_neg (Ne.symm flat.1)]

end Position

end CobolCheck
