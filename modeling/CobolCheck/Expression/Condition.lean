import CobolCheck.Analysis.Matcher
import CobolCheck.Expression.Postorder

/-!
# Reading conditions

The condition of an IF statement is everything up to a word that cannot belong
to it. It is accepted in full, whatever it is, and then judged as a whole.
-/

namespace CobolCheck.Analysis

/-- Whether a condition that `delimiter` closes has come to its end. -/
def conditionEnd (delimiter : String) : Test :=
  .or (.isAny [delimiter, ".", "ELSE", "END-IF"]) (.or .eof (.or .statement .nextSentence))

/-- What the words ahead of the cursor make in a condition. The longest reading is
that of NOT GREATER THAN OR EQUAL TO, so five words after the first are enough. -/
def reading (afterOperand : Bool) : Analysis Reading := fun state =>
  (.ofWords afterOperand state.current.value (((state.ahead.drop 1).take 5).map Token.value),
    state)

/-- Accepts a number of tokens. -/
def acceptMany : Nat → Analysis Unit
  | 0 => return ()
  | count + 1 => do
      accept
      acceptMany count

/-- Accepts the words of the next term of a condition and adds that term, if
there is one, to the terms before it. The latest term comes first. -/
def readTerm (delimiter : String) (terms : List Term) : Analysis (Option (List Term)) := do
  if ← ask (conditionEnd delimiter) then return none
  else
    let first ← current
    let next ← reading ((terms.head?.map fun term => term.role.endsOperand).getD false)
    acceptMany next.count
    return some ((next.term? first).toList ++ terms)

/-- The terms of a condition, in the order in which they are written. -/
def conditionTerms (delimiter : String) : Analysis (List Term) := do
  return (← loop (readTerm delimiter) []).reverse

/-- Reports what is wrong with the terms of a condition that begins with `first`. -/
def judgeCondition (first : Token) (terms : List Term) : Analysis Unit := do
  if terms.isEmpty then reportHere (.expectedCategory "conditional expression")
  else
    if !Term.balanced terms then report first (.general .unbalancedCondition)
    match Term.fault? (Term.postorder terms) with
    | some token => report token (.general .invalidCondition)
    | none => return ()

/-- Reads a condition up to a delimiter or to the next statement. The delimiter
is not part of it. -/
def condition (delimiter : String) : Analysis Unit := do
  let first ← current
  let terms ← conditionTerms delimiter
  judgeCondition first terms

end CobolCheck.Analysis
