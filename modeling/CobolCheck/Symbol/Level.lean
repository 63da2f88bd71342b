/-!
# Level numbers

Every data description entry begins with a level number. It fits into one byte
and is written in decimal digits, possibly after a plus sign.
-/

namespace CobolCheck.Level

/-- The digits of a level number, after a plus sign if there is one. -/
def digits (text : String) : List Char :=
  match text.toList with
  | '+' :: rest => rest
  | rest => rest

/-- The level number that a text stands for, if it stands for one. -/
def ofText? (text : String) : Option Nat :=
  let number := Nat.ofDigitChars 10 (digits text) 0
  if digits text ≠ [] ∧ (digits text).all Char.isDigit ∧ number ≤ 255 then some number
  else none

/-- Whether a text is the level number of an item of a record, from 02 to 49. -/
def isSubordinate (text : String) : Bool :=
  (ofText? text).any fun level => 2 ≤ level && level ≤ 49

theorem le_of_ofText?_eq_some {text : String} {level : Nat} (read : ofText? text = some level) :
    level ≤ 255 := by
  unfold ofText? at read
  simp only at read
  split at read
  · next number => exact Option.some.inj read ▸ number.2.2
  · simp at read

end CobolCheck.Level
