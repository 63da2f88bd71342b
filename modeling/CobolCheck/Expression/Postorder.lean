import CobolCheck.Expression.Term

/-!
# The postorder of a condition

A condition is checked in three steps that build no tree: its parentheses
match, its terms are put into postorder by precedence, and in that order every
operator finds its operands.
-/

namespace CobolCheck.Term

/-- Whether every closing parenthesis has an opening one before it, and the
other way round, when `depth` parentheses are open already. -/
def balancedFrom : Nat → List Term → Bool
  | depth, [] => depth == 0
  | depth, term :: rest =>
      match term.role, depth with
      | .opening, depth => balancedFrom (depth + 1) rest
      | .closing, 0 => false
      | .closing, depth + 1 => balancedFrom depth rest
      | _, depth => balancedFrom depth rest

/-- Whether the parentheses of a list of terms match. -/
def balanced (terms : List Term) : Bool :=
  balancedFrom 0 terms

/-- Whether a waiting operator comes before a binary operator that follows it:
it binds more tightly, or as tightly and to the left. -/
def precedes (precedence : Nat) (rightAssociative : Bool) (waiting : Term) : Bool :=
  match waiting.role with
  | .binary other _ => precedence < other || (other == precedence && !rightAssociative)
  | .unary other => precedence ≤ other
  | _ => false

/-- The postorder of a list of terms when the operators and opening parentheses
in `waiting` are open, the innermost first. -/
def postorderFrom : List Term → List Term → List Term
  | waiting, [] => waiting.filter fun term => term.role != .opening
  | waiting, term :: rest =>
      match term.role with
      | .operand => term :: postorderFrom waiting rest
      | .classTest => term :: postorderFrom waiting rest
      | .unary _ => postorderFrom (term :: waiting) rest
      | .opening => postorderFrom (term :: waiting) rest
      | .binary precedence rightAssociative =>
          waiting.takeWhile (precedes precedence rightAssociative) ++
            postorderFrom (term :: waiting.dropWhile (precedes precedence rightAssociative)) rest
      | .closing =>
          waiting.takeWhile (fun term => term.role != .opening) ++
            postorderFrom ((waiting.dropWhile fun term => term.role != .opening).drop 1) rest

/-- The terms of a condition in postorder, without its parentheses. A
parenthesis without its partner is dropped as well. -/
def postorder (terms : List Term) : List Term :=
  postorderFrom [] terms

/-- The token at which a list of terms in postorder goes wrong when `depth`
operands are at hand: an operator that lacks an operand, or the last term if
other than one operand is left. -/
def faultFrom (last : Option Term) : Nat → List Term → Option Token
  | depth, [] => if depth = 1 then none else last.map Term.token
  | depth, term :: rest =>
      match term.role with
      | .operand => faultFrom (some term) (depth + 1) rest
      | .binary _ _ =>
          if depth < 2 then some term.token else faultFrom (some term) (depth - 1) rest
      | .unary _ => if depth < 1 then some term.token else faultFrom (some term) depth rest
      | .classTest => if depth < 1 then some term.token else faultFrom (some term) depth rest
      | .opening => faultFrom (some term) depth rest
      | .closing => faultFrom (some term) depth rest

/-- The token at which a list of terms in postorder goes wrong, if it does. -/
def fault? (terms : List Term) : Option Token :=
  faultFrom none 0 terms

/-- Every term but a parenthesis has its place in the postorder. -/
theorem length_postorderFrom_le (waiting terms : List Term) :
    (postorderFrom waiting terms).length ≤ waiting.length + terms.length := by
  induction terms generalizing waiting with
  | nil => exact Nat.le_trans (List.length_filter_le _ _) (Nat.le_add_right _ _)
  | cons term rest ih =>
      unfold postorderFrom
      have parts (p : Term → Bool) :
          (waiting.takeWhile p).length + (waiting.dropWhile p).length = waiting.length := by
        rw [← List.length_append, List.takeWhile_append_dropWhile]
      split
      all_goals grind

end CobolCheck.Term
