/-!
# Conditional phrases

A conditional phrase says what to do when a statement succeeds or fails. Such
phrases come in pairs of a positive and a negative form, as `ON SIZE ERROR` and
`NOT ON SIZE ERROR`, and a statement may have each form once.
-/

namespace CobolCheck

/-- A pair of conditional phrases. -/
inductive Phrase where
  | sizeError
  | invalidKey
  | onException
  | atEnd
  | raisingStatus
  deriving DecidableEq

/-- The two forms of a pair. -/
inductive Polarity where
  | positive
  | negative
  deriving DecidableEq

/-- The other form of a pair. -/
def Polarity.other : Polarity → Polarity
  | .positive => .negative
  | .negative => .positive

@[simp]
theorem Polarity.other_other (polarity : Polarity) : polarity.other.other = polarity := by
  cases polarity <;> rfl

/-- The name of a form, as diagnostics write it. -/
def Phrase.name : Phrase → Polarity → String
  | .sizeError, .positive => "ON SIZE ERROR"
  | .sizeError, .negative => "NOT ON SIZE ERROR"
  | .invalidKey, .positive => "INVALID KEY"
  | .invalidKey, .negative => "NOT INVALID KEY"
  | .onException, .positive => "ON EXCEPTION"
  | .onException, .negative => "NOT ON EXCEPTION"
  | .atEnd, .positive => "AT END"
  | .atEnd, .negative => "NOT AT END"
  | .raisingStatus, .positive => "RAISING"
  | .raisingStatus, .negative => "WITH NORMAL/ERROR STATUS"

/-- The forms of a pair that a statement already has. -/
structure SeenForms where
  positive : Bool := false
  negative : Bool := false
  deriving DecidableEq

namespace SeenForms

/-- Whether a form was seen. -/
def has (seen : SeenForms) : Polarity → Bool
  | .positive => seen.positive
  | .negative => seen.negative

/-- The forms seen once this one is seen too. -/
def insert (seen : SeenForms) : Polarity → SeenForms
  | .positive => { seen with positive := true }
  | .negative => { seen with negative := true }

@[simp]
theorem has_insert (seen : SeenForms) (added asked : Polarity) :
    (seen.insert added).has asked = (asked == added || seen.has asked) := by
  cases added <;> cases asked <;> rfl

/-- Seeing a form again changes nothing. -/
theorem insert_eq_self_iff (seen : SeenForms) (polarity : Polarity) :
    seen.insert polarity = seen ↔ seen.has polarity = true := by
  obtain ⟨positive, negative⟩ := seen
  cases polarity <;> simp [insert, has, eq_comm]

end SeenForms

end CobolCheck
