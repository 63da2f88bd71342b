import CobolCheck.Analysis.Test

/-!
# Analyses and loops

An analysis is a computation on a `State`. Loops go on as long as each round
asks for another one and moves the cursor, so no loop runs longer than there
are tokens: `loop_eq` is the equation by which a loop unfolds, and nothing else
of its definition is needed.
-/

namespace CobolCheck

/-- A computation on the state of an analysis. -/
abbrev Analysis := StateM State

namespace Analysis

/-- How many tokens lie ahead. -/
def remaining (state : State) : Nat :=
  state.ahead.length

/-- At most `rounds` further rounds of a loop. -/
def loopFor {α : Type} (body : α → Analysis (Option α)) : Nat → α → State → α × State
  | 0, value, state => (value, state)
  | rounds + 1, value, state =>
      match body value state with
      | (none, after) => (value, after)
      | (some next, after) =>
          if remaining after < remaining state then loopFor body rounds next after
          else (next, after)

/-- Repeats `body` as long as it gives a new value and moves the cursor. The
result is the last value. -/
def loop {α : Type} (body : α → Analysis (Option α)) (value : α) : Analysis α := fun state =>
  loopFor body (remaining state + 1) value state

/-- Rounds beyond the number of tokens ahead are never run. -/
theorem loopFor_eq {α : Type} (body : α → Analysis (Option α)) {first second : Nat}
    (value : α) (state : State) (enoughFirst : remaining state < first)
    (enoughSecond : remaining state < second) :
    loopFor body first value state = loopFor body second value state := by
  induction first generalizing second value state with
  | zero => omega
  | succ first ih =>
      cases second with
      | zero => omega
      | succ second =>
          simp only [loopFor]
          split
          · rfl
          · split
            · exact ih _ _ (by omega) (by omega)
            · rfl

/-- A loop is one round and, if that asks for more and moves the cursor, the
loop again. -/
theorem loop_eq {α : Type} (body : α → Analysis (Option α)) (value : α) (state : State) :
    loop body value state =
      match body value state with
      | (none, after) => (value, after)
      | (some next, after) =>
          if remaining after < remaining state then loop body next after else (next, after) := by
  rw [loop, loopFor]
  split
  · rfl
  · split
    · exact loopFor_eq body _ _ (by omega) (by omega)
    · rfl

/-- What every round keeps, the loop keeps. -/
theorem loop_induction {α : Type} {body : α → Analysis (Option α)}
    (holds : α → State → Prop)
    (finish : ∀ value state after, holds value state → body value state = (none, after) →
      holds value after)
    (round : ∀ value state next after, holds value state →
      body value state = (some next, after) → holds next after)
    (value : α) (state : State) (before : holds value state) :
    holds (loop body value state).1 (loop body value state).2 := by
  rw [loop_eq]
  split
  · next after ran => exact finish _ _ _ before ran
  · next next after ran =>
      have kept := round _ _ _ _ before ran
      split
      · exact loop_induction holds finish round next after kept
      · exact kept
termination_by remaining state

/-! ## Asking -/

/-- Asks a question about the tokens ahead. -/
def ask (test : Test) : Analysis Bool := fun state =>
  (test.holds state, state)

/-- Repeats an analysis as long as a test holds. -/
def whilst (test : Test) (body : Analysis Unit) : Analysis Unit :=
  loop (fun _ state =>
    if test.holds state then (some (), (body state).2) else (none, state)) ()

/-- A loop under a test runs its body once if the test holds, and then itself. -/
theorem whilst_eq (test : Test) (body : Analysis Unit) (state : State) :
    whilst test body state =
      if test.holds state then
        if remaining (body state).2 < remaining state then whilst test body (body state).2
        else ((), (body state).2)
      else ((), state) := by
  rw [whilst, loop_eq]
  by_cases held : test.holds state
  · simp only [held, if_true]
  · simp only [held, if_false, Bool.false_eq_true]

end Analysis

end CobolCheck
