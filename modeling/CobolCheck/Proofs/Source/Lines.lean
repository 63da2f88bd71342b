import CobolCheck.Proofs.Source.Recut

/-!
# Pieces line by line

Where a piece ends is decided on its line: what follows the next line feed makes no
difference to it. So no piece but a line feed reaches across one, and the pieces of two texts
with a line feed between them are those of the one, the line feed, and those of the other.
-/

namespace CobolCheck

namespace Piece

/-! ## What a piece goes on with -/

section Broken

variable {after : List Char} (broken : Broken after)

include broken

theorem fraction_append_of_broken (text : List Char) :
    fraction (text ++ after) = fraction text := by
  cases text with
  | nil => exact fraction_of_broken broken
  | cons point rest =>
      by_cases isPoint : point = '.'
      · subst isPoint
        cases rest with
        | nil =>
            cases after with
            | nil => rfl
            | cons c after =>
                obtain rfl := broken c rfl
                rfl
        | cons digit rest =>
            have whole := (broken.stops (p := Char.isDigit) (by decide)).takeWhile_append rest
            rw [List.cons_append, List.cons_append, fraction, fraction, whole]
      · rw [List.cons_append, fraction_cons_of_ne isPoint, fraction_cons_of_ne isPoint]

theorem numberRest_append_of_broken (rest : List Char) :
    numberRest (rest ++ after) = numberRest rest := by
  have stops : Stops Char.isDigit after := broken.stops (by decide)
  rw [numberRest, stops.takeWhile_append, stops.dropWhile_append,
    fraction_append_of_broken broken, numberRest]

theorem digitRest_append_of_broken (rest : List Char) :
    digitRest (rest ++ after) = digitRest rest := by
  have stops : Stops isWordRest after := broken.stops (by decide)
  rw [digitRest, numberRest_append_of_broken broken, stops.takeWhile_append, digitRest]

theorem quotedRest_append_of_broken {quote : Char} (visible : quote ≠ '\n') (pending : Bool)
    (rest : List Char) :
    quotedRest quote pending (rest ++ after) = quotedRest quote pending rest := by
  induction rest generalizing pending with
  | nil => exact quotedRest_of_broken visible broken pending
  | cons c rest ih => rw [List.cons_append, quotedRest, quotedRest, ih, ih]

theorem symbolRest_append_of_broken (first : Char) (rest : List Char) :
    symbolRest first (rest ++ after) = symbolRest first rest := by
  cases rest with
  | nil => exact symbolRest_of_broken first broken
  | cons second rest => rfl

/-- The next character is on the same line if it is not a line feed. -/
theorem head?_append_of_broken {c : Char} (visible : c ≠ '\n') (rest : List Char) :
    (rest ++ after).head? = some c ↔ rest.head? = some c := by
  cases rest with
  | cons first rest => exact Iff.rfl
  | nil =>
      refine iff_of_false (fun found => visible (broken c found)) ?_
      exact Option.some_ne_none c ∘ Eq.symm

theorem isDigit_head?_append_of_broken (rest : List Char) :
    ((rest ++ after).head?.map Char.isDigit).getD false =
      (rest.head?.map Char.isDigit).getD false := by
  cases rest with
  | cons c rest => rfl
  | nil =>
      cases after with
      | nil => rfl
      | cons c after =>
          obtain rfl := broken c rfl
          rfl

/-- A piece is cut off without a look beyond its line. -/
theorem cut_append_of_broken (first : Char) (rest : List Char) :
    cut first (rest ++ after) = cut first rest := by
  have next := head?_append_of_broken broken (c := '>') (by decide) rest
  have comment : (rest ++ after).takeWhile (· ≠ '\n') = rest.takeWhile (· ≠ '\n') :=
    (broken.stops (by decide)).takeWhile_append rest
  have word : (rest ++ after).takeWhile isWordRest = rest.takeWhile isWordRest :=
    (broken.stops (by decide)).takeWhile_append rest
  by_cases quote : first = '"' ∨ first = '\x27'
  · have visible : first ≠ '\n' := by rcases quote with rfl | rfl <;> decide
    rw [cut_of_quote quote, cut_of_quote quote, quotedRest_append_of_broken broken visible]
  · simp only [cut, if_neg quote, next, comment, word, isDigit_head?_append_of_broken broken,
      digitRest_append_of_broken broken, numberRest_append_of_broken broken,
      symbolRest_append_of_broken broken]

/-- The pieces of a text are cut off before a line feed as they are at the end of the input. -/
theorem piecesAfter_append {skip : Nat} {text : List Char} (within : skip ≤ text.length) :
    piecesAfter skip (text ++ after) = piecesAfter skip text ++ piecesAfter 0 after := by
  induction text generalizing skip with
  | nil =>
      obtain rfl := Nat.le_zero.mp within
      rfl
  | cons first rest ih =>
      cases skip with
      | zero =>
          rw [List.cons_append, piecesAfter, cut_append_of_broken broken,
            ih (cut_isPrefix first rest).length_le, piecesAfter, List.cons_append]
      | succ skip => exact ih (Nat.le_of_succ_le_succ within)

end Broken

/-! ## Lines -/

/-- A line feed. -/
def lineFeed : Piece :=
  ⟨.blank, '\n', []⟩

/-- The pieces of two texts with a line feed between them. -/
theorem pieces_append_lineFeed (first second : String) :
    pieces (first ++ "\n" ++ second) = pieces first ++ lineFeed :: pieces second := by
  have text_eq : (first ++ "\n" ++ second).toList = first.toList ++ '\n' :: second.toList := by
    simp
  rw [pieces, text_eq, piecesAfter_append (broken_cons _) (Nat.zero_le _), piecesAfter_zero_cons]
  rfl

/-- No piece but a blank reaches across a line feed: it would be cut off before it. -/
theorem IsCut.lineFeed_notMem {piece : Piece} (cuts : piece.IsCut)
    (visible : piece.kind ≠ .blank) : '\n' ∉ piece.text := by
  obtain ⟨rest, cut_eq⟩ := cuts
  rw [text, List.mem_cons, not_or]
  refine ⟨?_, fun member => ?_⟩
  · intro first
    rw [← first] at cut_eq
    exact visible (congrArg Prod.fst cut_eq).symm
  · obtain ⟨before, later, more_eq⟩ := List.append_of_mem member
    have isPrefix := cut_isPrefix piece.first rest
    rw [cut_eq, more_eq] at isPrefix
    obtain ⟨others, rest_eq⟩ := isPrefix
    rw [← rest_eq, List.append_assoc, List.cons_append,
      cut_append_of_broken (broken_cons _)] at cut_eq
    have within := (cut_isPrefix piece.first before).length_le
    rw [cut_eq, more_eq, List.length_append, List.length_cons] at within
    omega

end Piece

end CobolCheck
