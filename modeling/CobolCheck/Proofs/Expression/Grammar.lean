import CobolCheck.Expression.Postorder

/-!
# The grammar of conditions

Conditions have a grammar of three levels: an expression is a sequence of
signed terms with binary operators between them, a signed term is a primary
after unary operators, and a primary is an operand or a parenthesized
expression with class tests after it. The main statement is
`derives_iff_placed`: the grammar generates exactly the lists of terms whose
parentheses match and in which every term is placed where it may stand.
-/

namespace CobolCheck.Term

/-! ## Grammar -/

/-- The levels of the grammar. -/
inductive Level where
  | expression
  | signed
  | primary
  deriving DecidableEq

/-- Whether a term is an operator between two operands. -/
def IsBinary (term : Term) : Prop :=
  ∃ precedence rightAssociative, term.role = .binary precedence rightAssociative

/-- Whether a term is an operator before its operand. -/
def IsUnary (term : Term) : Prop :=
  ∃ precedence, term.role = .unary precedence

/-- Whether a list of terms is generated at a level of the grammar. -/
inductive Derives : Level → List Term → Prop
  | operand {term : Term} (role : term.role = .operand) : Derives .primary [term]
  | group {opening closing : Term} {inner : List Term} (opens : opening.role = .opening)
      (closes : closing.role = .closing) (expression : Derives .expression inner) :
      Derives .primary (opening :: inner ++ [closing])
  | test {term : Term} {tested : List Term} (role : term.role = .classTest)
      (primary : Derives .primary tested) : Derives .primary (tested ++ [term])
  | primary {terms : List Term} (primary : Derives .primary terms) : Derives .signed terms
  | unary {term : Term} {terms : List Term} (operator : term.IsUnary)
      (signed : Derives .signed terms) : Derives .signed (term :: terms)
  | signed {terms : List Term} (signed : Derives .signed terms) : Derives .expression terms
  | binary {term : Term} {left right : List Term} (operator : term.IsBinary)
      (expression : Derives .expression left) (signed : Derives .signed right) :
      Derives .expression (left ++ term :: right)

/-! ## Places -/

/-- Whether every term of a list is where it may stand. Where an operand has
just been read, a binary operator, a class test, a closing parenthesis or the
end may follow, and elsewhere an operand, a unary operator or an opening
parenthesis. -/
def placedFrom : Bool → List Term → Bool
  | afterOperand, [] => afterOperand
  | false, term :: rest =>
      match term.role with
      | .operand => placedFrom true rest
      | .unary _ => placedFrom false rest
      | .opening => placedFrom false rest
      | _ => false
  | true, term :: rest =>
      match term.role with
      | .binary _ _ => placedFrom false rest
      | .classTest => placedFrom true rest
      | .closing => placedFrom true rest
      | _ => false

/-- Whether every term of a condition is where it may stand. -/
def placed (terms : List Term) : Bool :=
  placedFrom false terms

/-! ## What is generated is placed -/

/-- What the grammar generates is read as one operand. -/
theorem Derives.placedFrom_append {level : Level} {terms : List Term}
    (derives : Derives level terms) (rest : List Term) :
    placedFrom false (terms ++ rest) = placedFrom true rest := by
  induction derives generalizing rest with
  | operand role => simp [placedFrom, role]
  | group opens closes _ ih => simp [placedFrom, opens, closes, ih]
  | test role _ ih => simp [placedFrom, role, ih]
  | primary _ ih => exact ih rest
  | unary operator _ ih =>
      obtain ⟨precedence, role⟩ := operator
      simp [placedFrom, role, ih]
  | signed _ ih => exact ih rest
  | binary operator _ _ ihLeft ihRight =>
      obtain ⟨precedence, rightAssociative, role⟩ := operator
      simp [placedFrom, role, ihLeft, ihRight]

/-- What the grammar generates leaves no parenthesis open. -/
theorem Derives.balancedFrom_append {level : Level} {terms : List Term}
    (derives : Derives level terms) (depth : Nat) (rest : List Term) :
    balancedFrom depth (terms ++ rest) = balancedFrom depth rest := by
  induction derives generalizing depth rest with
  | operand role => simp [balancedFrom, role]
  | group opens closes _ ih => simp [balancedFrom, opens, closes, ih]
  | test role _ ih => simp [balancedFrom, role, ih]
  | primary _ ih => exact ih depth rest
  | unary operator _ ih =>
      obtain ⟨precedence, role⟩ := operator
      simp [balancedFrom, role, ih]
  | signed _ ih => exact ih depth rest
  | binary operator _ _ ihLeft ihRight =>
      obtain ⟨precedence, rightAssociative, role⟩ := operator
      simp [balancedFrom, role, ihLeft, ihRight]

/-! ## What is placed is generated -/

/-- Whether an expression has been read up to the place of an operand: there is
a binary operator at its end, and then any number of unary ones. -/
inductive Begun : List Term → Prop
  | nil : Begun []
  | binary {term : Term} {terms : List Term} (operator : term.IsBinary)
      (expression : Derives .expression terms) : Begun (terms ++ [term])
  | unary {term : Term} {terms : List Term} (operator : term.IsUnary) (begun : Begun terms) :
      Begun (terms ++ [term])

/-- Whether a number of parentheses are open at the end of a list of terms, each
at the place of an operand. -/
inductive Nested : Nat → List Term → Prop
  | none : Nested 0 []
  | group {depth : Nat} {opening : Term} {outer terms : List Term}
      (opens : opening.role = .opening) (nested : Nested depth outer) (begun : Begun terms) :
      Nested (depth + 1) (outer ++ terms ++ [opening])

/-- A signed term completes what has been read. -/
theorem Begun.derives_append {terms more : List Term} (begun : Begun terms)
    (signed : Derives .signed more) : Derives .expression (terms ++ more) := by
  induction begun generalizing more with
  | nil => exact .signed signed
  | binary operator expression =>
      rw [List.append_assoc]
      exact .binary operator expression signed
  | unary operator _ ih =>
      rw [List.append_assoc]
      exact ih (.unary operator signed)

/-- Whether a list of terms is what has been read of a condition, with a number
of parentheses open, before or after an operand. -/
inductive Viable (depth : Nat) : Bool → List Term → Prop
  | before {outer terms : List Term} (nested : Nested depth outer) (begun : Begun terms) :
      Viable depth false (outer ++ terms)
  | after {outer terms last : List Term} (nested : Nested depth outer) (begun : Begun terms)
      (primary : Derives .primary last) : Viable depth true (outer ++ terms ++ last)

namespace Viable

variable {depth : Nat} {terms : List Term} {term : Term}

theorem operand (viable : Viable depth false terms) (role : term.role = .operand) :
    Viable depth true (terms ++ [term]) := by
  cases viable with
  | before nested begun => exact .after nested begun (.operand role)

theorem unary (viable : Viable depth false terms) (operator : term.IsUnary) :
    Viable depth false (terms ++ [term]) := by
  cases viable with
  | before nested begun =>
      rw [List.append_assoc]
      exact .before nested (.unary operator begun)

theorem opening (viable : Viable depth false terms) (opens : term.role = .opening) :
    Viable (depth + 1) false (terms ++ [term]) := by
  cases viable with
  | before nested begun =>
      have inside := Viable.before (.group opens nested begun) .nil
      rw [List.append_nil] at inside
      exact inside

theorem binary (viable : Viable depth true terms) (operator : term.IsBinary) :
    Viable depth false (terms ++ [term]) := by
  cases viable with
  | after nested begun primary =>
      rw [List.append_assoc, List.append_assoc, ← List.append_assoc _ _ [term]]
      exact .before nested (.binary operator (begun.derives_append (.primary primary)))

theorem test (viable : Viable depth true terms) (role : term.role = .classTest) :
    Viable depth true (terms ++ [term]) := by
  cases viable with
  | after nested begun primary =>
      rw [List.append_assoc]
      exact .after nested begun (.test role primary)

/-- A closing parenthesis makes a primary of the expression that it closes. -/
theorem closing (viable : Viable (depth + 1) true terms) (closes : term.role = .closing) :
    Viable depth true (terms ++ [term]) := by
  cases viable with
  | after nested begun primary =>
      cases nested with
      | @group _ parenthesis outer around opens nested around_begun =>
          have expression := begun.derives_append (.primary primary)
          have grouped := Viable.after nested around_begun (.group opens closes expression)
          simpa only [List.append_assoc, List.cons_append, List.nil_append] using grouped

/-- A condition is an expression when all its parentheses are closed. -/
theorem derives (viable : Viable 0 true terms) : Derives .expression terms := by
  cases viable with
  | after nested begun primary =>
      cases nested with
      | none => exact begun.derives_append (.primary primary)

/-- What has been read can be completed by terms that match and are placed. -/
theorem derives_append {afterOperand : Bool} {rest : List Term}
    (viable : Viable depth afterOperand terms) (matched : balancedFrom depth rest = true)
    (stands : placedFrom afterOperand rest = true) : Derives .expression (terms ++ rest) := by
  induction rest generalizing depth afterOperand terms with
  | nil =>
      obtain rfl : depth = 0 := by simpa [balancedFrom] using matched
      obtain rfl : afterOperand = true := stands
      rw [List.append_nil]
      exact viable.derives
  | cons term rest ih =>
      rw [List.append_cons]
      cases afterOperand with
      | false =>
          unfold placedFrom at stands
          unfold balancedFrom at matched
          split at stands
          · next role => exact ih (viable.operand role) (by simpa [role] using matched) stands
          · next precedence role =>
            exact ih (viable.unary ⟨precedence, role⟩) (by simpa [role] using matched) stands
          · next role => exact ih (viable.opening role) (by simpa [role] using matched) stands
          · cases stands
      | true =>
          unfold placedFrom at stands
          unfold balancedFrom at matched
          split at stands
          · next precedence rightAssociative role =>
            exact ih (viable.binary ⟨precedence, rightAssociative, role⟩)
              (by simpa [role] using matched) stands
          · next role => exact ih (viable.test role) (by simpa [role] using matched) stands
          · next role =>
            cases depth with
            | zero => simp [role] at matched
            | succ depth => exact ih (viable.closing role) (by simpa [role] using matched) stands
          · cases stands

end Viable

/-- The grammar generates the lists of terms that match and are placed. -/
theorem derives_iff_placed (terms : List Term) :
    Derives .expression terms ↔ balanced terms = true ∧ placed terms = true := by
  constructor
  · intro derives
    have matched := derives.balancedFrom_append 0 []
    have stands := derives.placedFrom_append []
    rw [List.append_nil] at matched stands
    exact ⟨matched, stands⟩
  · rintro ⟨matched, stands⟩
    exact (Viable.before .none .nil).derives_append matched stands

end CobolCheck.Term
