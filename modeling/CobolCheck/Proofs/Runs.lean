import Mathlib.Data.List.TakeWhile

/-!
# Runs of characters

A reader that goes on as long as characters pass a test stops at the end of what it should
read if none passes right after it. So what was read alone is read in the same way before a
text that it stops at.
-/

namespace CobolCheck

/-- No character that passes the test goes on from here. -/
def Stops (p : Char → Bool) (text : List Char) : Prop :=
  ∀ c ∈ text.head?, p c = false

theorem stops_nil (p : Char → Bool) : Stops p [] :=
  fun _ found => nomatch found

theorem stops_cons {p : Char → Bool} {c : Char} (fails : p c = false) (text : List Char) :
    Stops p (c :: text) := by
  intro first found
  rw [← Option.some.inj found]
  exact fails

namespace Stops

variable {p : Char → Bool} {text after : List Char}

theorem mono {q : Char → Bool} (stops : Stops p text) (weaker : ∀ c, p c = false → q c = false) :
    Stops q text :=
  fun c found => weaker c (stops c found)

theorem takeWhile_eq_nil (stops : Stops p text) : text.takeWhile p = [] := by
  cases text with
  | nil => rfl
  | cons c rest => exact List.takeWhile_cons_of_neg (by simp [stops c rfl])

/-- What passes a test goes no further than to where no character passes it. -/
theorem takeWhile_append (stops : Stops p after) (text : List Char) :
    (text ++ after).takeWhile p = text.takeWhile p := by
  rw [List.takeWhile_append, stops.takeWhile_eq_nil, List.append_nil]
  split
  · next whole => exact ((List.takeWhile_prefix p).eq_of_length whole).symm
  · rfl

theorem dropWhile_append (stops : Stops p after) (text : List Char) :
    (text ++ after).dropWhile p = text.dropWhile p ++ after := by
  have split := List.takeWhile_append_dropWhile (p := p) (l := text ++ after)
  have front := List.takeWhile_append_dropWhile (p := p) (l := text)
  rw [stops.takeWhile_append] at split
  rw [← List.append_cancel_left_eq (text.takeWhile p), split, ← List.append_assoc, front]

/-- A run is read whole before a text that it stops at. -/
theorem takeWhile_run (stops : Stops p after) (run : ∀ c ∈ text, p c = true) :
    (text ++ after).takeWhile p = text := by
  rw [stops.takeWhile_append, List.takeWhile_eq_self_iff]
  exact run

/-- A run is passed over up to a text that it stops at. -/
theorem dropWhile_run (stops : Stops p after) (run : ∀ c ∈ text, p c = true) :
    (text ++ after).dropWhile p = after := by
  rw [stops.dropWhile_append, List.dropWhile_eq_nil_iff.mpr run, List.nil_append]

end Stops

end CobolCheck
