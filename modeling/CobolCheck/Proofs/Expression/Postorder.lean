import CobolCheck.Proofs.Expression.Grammar

/-!
# Arity in postorder

A list of terms in postorder is right if it leaves one value. The check that
counts operands finds no fault exactly then, and it finds none in a condition
whose terms are placed where they may stand, whatever their precedence.
-/

namespace CobolCheck.Term

/-- Whether a term is a parenthesis. -/
def isParenthesis (term : Term) : Bool :=
  term.role == .opening || term.role == .closing

/-- Whether a list of terms in postorder leaves one value. -/
inductive Reduces : List Term → Prop
  | operand {term : Term} (role : term.role = .operand) : Reduces [term]
  | unary {term : Term} {terms : List Term} (operator : term.IsUnary) (value : Reduces terms) :
      Reduces (terms ++ [term])
  | test {term : Term} {terms : List Term} (role : term.role = .classTest)
      (value : Reduces terms) : Reduces (terms ++ [term])
  | binary {term : Term} {left right : List Term} (operator : term.IsBinary)
      (first : Reduces left) (second : Reduces right) : Reduces (left ++ right ++ [term])

/-! ## Counting operands -/

/-- What leaves one value is read as one operand. -/
theorem Reduces.faultFrom_append {terms : List Term} (reduces : Reduces terms)
    (last : Option Term) (depth : Nat) (rest : List Term) :
    ∃ later, faultFrom last depth (terms ++ rest) = faultFrom later (depth + 1) rest := by
  induction reduces generalizing last depth rest with
  | @operand term role => exact ⟨some term, by simp [faultFrom, role]⟩
  | @unary term terms operator _ ih =>
      obtain ⟨precedence, role⟩ := operator
      obtain ⟨later, read⟩ := ih last depth (term :: rest)
      refine ⟨some term, ?_⟩
      rw [List.append_assoc, List.singleton_append, read]
      simp [faultFrom, role]
  | @test term terms role _ ih =>
      obtain ⟨later, read⟩ := ih last depth (term :: rest)
      refine ⟨some term, ?_⟩
      rw [List.append_assoc, List.singleton_append, read]
      simp [faultFrom, role]
  | @binary term left right operator _ _ ihLeft ihRight =>
      obtain ⟨precedence, rightAssociative, role⟩ := operator
      obtain ⟨first, readLeft⟩ := ihLeft last depth (right ++ term :: rest)
      obtain ⟨second, readRight⟩ := ihRight first (depth + 1) (term :: rest)
      refine ⟨some term, ?_⟩
      rw [List.append_assoc, List.append_assoc, List.singleton_append, readLeft, readRight]
      have enough : ¬ depth + 1 + 1 < 2 := by omega
      simp [faultFrom, role, enough]

/-- Whether a list of terms in postorder leaves a number of values. -/
inductive Stacked : Nat → List Term → Prop
  | nil : Stacked 0 []
  | push {depth : Nat} {terms value : List Term} (stacked : Stacked depth terms)
      (reduces : Reduces value) : Stacked (depth + 1) (terms ++ value)

namespace Stacked

variable {depth : Nat} {terms : List Term} {term : Term}

theorem unary (stacked : Stacked (depth + 1) terms) (operator : term.IsUnary) :
    Stacked (depth + 1) (terms ++ [term]) := by
  cases stacked with
  | push stacked reduces =>
      rw [List.append_assoc]
      exact .push stacked (.unary operator reduces)

theorem test (stacked : Stacked (depth + 1) terms) (role : term.role = .classTest) :
    Stacked (depth + 1) (terms ++ [term]) := by
  cases stacked with
  | push stacked reduces =>
      rw [List.append_assoc]
      exact .push stacked (.test role reduces)

theorem binary (stacked : Stacked (depth + 2) terms) (operator : term.IsBinary) :
    Stacked (depth + 1) (terms ++ [term]) := by
  cases stacked with
  | push stacked second =>
      cases stacked with
      | push stacked first =>
          rw [List.append_assoc, List.append_assoc, ← List.append_assoc _ _ [term]]
          exact .push stacked (.binary operator first second)

/-- What is left when no fault was found is one value. -/
theorem reduces_of_faultFrom {rest : List Term} {last : Option Term}
    (stacked : Stacked depth terms) (begun : last ≠ none ∨ rest ≠ [])
    (plain : ∀ term ∈ rest, term.isParenthesis = false)
    (faultless : faultFrom last depth rest = none) : Reduces (terms ++ rest) := by
  induction rest generalizing depth terms last with
  | nil =>
      obtain ⟨term, rfl⟩ := Option.ne_none_iff_exists'.mp (begun.resolve_right (absurd rfl))
      have single : depth = 1 := by simpa [faultFrom] using faultless
      subst single
      rw [List.append_nil]
      cases stacked with
      | push stacked reduces =>
          cases stacked with
          | nil => exact reduces
  | cons term rest ih =>
      rw [List.forall_mem_cons] at plain
      rw [List.append_cons]
      have later : some term ≠ none ∨ rest ≠ [] := .inl (Option.some_ne_none term)
      unfold faultFrom at faultless
      split at faultless
      · next role => exact ih (.push stacked (.operand role)) later plain.2 faultless
      · next precedence rightAssociative role =>
        split at faultless
        · cases faultless
        · next enough =>
          obtain ⟨depth, rfl⟩ : ∃ less, depth = less + 2 := ⟨depth - 2, by omega⟩
          exact ih (stacked.binary ⟨precedence, rightAssociative, role⟩) later plain.2 faultless
      · next precedence role =>
        split at faultless
        · cases faultless
        · next enough =>
          obtain ⟨depth, rfl⟩ : ∃ less, depth = less + 1 := ⟨depth - 1, by omega⟩
          exact ih (stacked.unary ⟨precedence, role⟩) later plain.2 faultless
      · next role =>
        split at faultless
        · cases faultless
        · next enough =>
          obtain ⟨depth, rfl⟩ : ∃ less, depth = less + 1 := ⟨depth - 1, by omega⟩
          exact ih (stacked.test role) later plain.2 faultless
      · next role => simp [isParenthesis, role] at plain
      · next role => simp [isParenthesis, role] at plain

end Stacked

/-- No fault is found in what leaves one value. -/
theorem Reduces.fault?_eq_none {terms : List Term} (reduces : Reduces terms) :
    fault? terms = none := by
  obtain ⟨later, read⟩ := reduces.faultFrom_append none 0 []
  rw [fault?, ← List.append_nil terms, read]
  rfl

/-- No fault is found in a list of terms in postorder exactly if it leaves one value. -/
theorem fault?_eq_none_iff {terms : List Term} (nonempty : terms ≠ [])
    (plain : ∀ term ∈ terms, term.isParenthesis = false) :
    fault? terms = none ↔ Reduces terms := by
  constructor
  · intro faultless
    exact Stacked.nil.reduces_of_faultFrom (.inr nonempty) plain faultless
  · exact Reduces.fault?_eq_none

/-! ## The terms of a postorder -/

/-- An operator that comes before another one is no parenthesis. -/
theorem isParenthesis_of_precedes {precedence : Nat} {rightAssociative : Bool} {term : Term}
    (before : precedes precedence rightAssociative term = true) :
    term.isParenthesis = false := by
  unfold precedes at before
  split at before
  · next role => simp [isParenthesis, role]
  · next role => simp [isParenthesis, role]
  · cases before

theorem holds_of_mem_takeWhile {p : Term → Bool} {terms : List Term} {term : Term}
    (member : term ∈ terms.takeWhile p) : p term = true :=
  List.all_eq_true.mp List.all_takeWhile term member

/-- There are no parentheses in a postorder. -/
theorem isParenthesis_of_mem_postorderFrom {waiting terms : List Term}
    (operators : ∀ term ∈ waiting, term.role ≠ .closing) {found : Term}
    (member : found ∈ postorderFrom waiting terms) : found.isParenthesis = false := by
  have inner {waiting : List Term} (operators : ∀ term ∈ waiting, term.role ≠ .closing)
      (waits : found ∈ waiting) (inside : (found.role != .opening) = true) :
      found.isParenthesis = false := by
    rw [bne_iff_ne] at inside
    simp [isParenthesis, inside, operators found waits]
  have pushed {waiting : List Term} {term : Term} (role : term.role ≠ .closing)
      (operators : ∀ term ∈ waiting, term.role ≠ .closing) :
      ∀ other ∈ term :: waiting, other.role ≠ .closing :=
    List.forall_mem_cons.mpr ⟨role, operators⟩
  induction terms generalizing waiting with
  | nil =>
      rw [postorderFrom, List.mem_filter] at member
      exact inner operators member.1 member.2
  | cons term rest ih =>
      unfold postorderFrom at member
      split at member
      · next role =>
        rcases List.mem_cons.mp member with rfl | later
        · simp [isParenthesis, role]
        · exact ih operators later
      · next role =>
        rcases List.mem_cons.mp member with rfl | later
        · simp [isParenthesis, role]
        · exact ih operators later
      · next role => exact ih (pushed (by simp [role]) operators) member
      · next role => exact ih (pushed (by simp [role]) operators) member
      · next role =>
        rcases List.mem_append.mp member with popped | later
        · exact isParenthesis_of_precedes (holds_of_mem_takeWhile popped)
        · refine ih (pushed (by simp [role]) fun other waits => ?_) later
          exact operators other (List.dropWhile_subset _ waits)
      · next role =>
        rcases List.mem_append.mp member with popped | later
        · exact inner operators (List.takeWhile_subset _ popped) (holds_of_mem_takeWhile popped)
        · refine ih (fun other waits => ?_) later
          exact operators other (List.dropWhile_subset _ (List.mem_of_mem_drop waits))

/-- What a closing parenthesis finds below the operators is an opening one. -/
theorem mem_drop_one_of_mem_dropWhile {waiting : List Term} {term : Term}
    (plain : term.isParenthesis = false)
    (stays : term ∈ waiting.dropWhile fun term => term.role != .opening) :
    term ∈ (waiting.dropWhile fun term => term.role != .opening).drop 1 := by
  have first := List.head?_dropWhile_not (fun term : Term => term.role != .opening) waiting
  cases stack : waiting.dropWhile fun term => term.role != .opening with
  | nil =>
      rw [stack] at stays
      cases stays
  | cons head tail =>
      simp only [stack, List.head?_cons, bne_eq_false_iff_eq] at first
      rw [stack] at stays
      rcases List.mem_cons.mp stays with rfl | below
      · simp [isParenthesis, first] at plain
      · exact below

/-- Every term but a parenthesis is in the postorder. -/
theorem mem_postorderFrom {waiting terms : List Term} {term : Term}
    (member : term ∈ waiting ∨ term ∈ terms) (plain : term.isParenthesis = false) :
    term ∈ postorderFrom waiting terms := by
  induction terms generalizing waiting with
  | nil =>
      rw [postorderFrom, List.mem_filter]
      rw [isParenthesis, Bool.or_eq_false_iff, beq_eq_false_iff_ne] at plain
      exact ⟨member.resolve_right List.not_mem_nil, bne_iff_ne.mpr plain.1⟩
  | cons next rest ih =>
      have parts (p : Term → Bool) (waits : term ∈ waiting) :
          term ∈ waiting.takeWhile p ∨ term ∈ waiting.dropWhile p := by
        rw [← List.mem_append, List.takeWhile_append_dropWhile]
        exact waits
      have pushed : term ∈ postorderFrom (next :: waiting) rest := by
        apply ih
        rcases member with waits | listed
        · exact .inl (List.mem_cons_of_mem _ waits)
        · rcases List.mem_cons.mp listed with rfl | later
          · exact .inl List.mem_cons_self
          · exact .inr later
      have output : term ∈ next :: postorderFrom waiting rest := by
        rcases member with waits | listed
        · exact List.mem_cons_of_mem _ (ih (.inl waits))
        · rcases List.mem_cons.mp listed with rfl | later
          · exact List.mem_cons_self
          · exact List.mem_cons_of_mem _ (ih (.inr later))
      unfold postorderFrom
      split
      · exact output
      · exact output
      · exact pushed
      · exact pushed
      · rw [List.mem_append]
        rcases member with waits | listed
        · rcases parts _ waits with popped | stays
          · exact .inl popped
          · exact .inr (ih (.inl (List.mem_cons_of_mem _ stays)))
        · rcases List.mem_cons.mp listed with rfl | later
          · exact .inr (ih (.inl List.mem_cons_self))
          · exact .inr (ih (.inr later))
      · next role =>
        rw [List.mem_append]
        rcases member with waits | listed
        · rcases parts _ waits with popped | stays
          · exact .inl popped
          · exact .inr (ih (.inl (mem_drop_one_of_mem_dropWhile plain stays)))
        · rcases List.mem_cons.mp listed with rfl | later
          · simp [isParenthesis, role] at plain
          · exact .inr (ih (.inr later))

/-! ## Terms that are placed -/

/-- The number of binary operators among terms. -/
def binaries (terms : List Term) : Nat :=
  terms.countP fun term => match term.role with
    | .binary _ _ => true
    | _ => false

theorem binaries_append (first second : List Term) :
    binaries (first ++ second) = binaries first + binaries second :=
  List.countP_append

theorem binaries_cons_of_isBinary {term : Term} (operator : term.IsBinary) (terms : List Term) :
    binaries (term :: terms) = binaries terms + 1 := by
  obtain ⟨precedence, rightAssociative, role⟩ := operator
  simp [binaries, role]

theorem binaries_cons_of_not {term : Term} (other : ¬ term.IsBinary) (terms : List Term) :
    binaries (term :: terms) = binaries terms := by
  unfold binaries
  apply List.countP_cons_of_neg
  split
  · next role => exact absurd ⟨_, _, role⟩ other
  · simp

/-- Operators that wait find their operands if there is one more value than
there are binary ones. -/
theorem faultFrom_operators {operators : List Term}
    (known : ∀ term ∈ operators, term.IsBinary ∨ term.IsUnary) (last : Option Term)
    (depth : Nat) (rest : List Term) :
    ∃ later, faultFrom last (binaries operators + (depth + 1)) (operators ++ rest) =
      faultFrom later (depth + 1) rest := by
  induction operators generalizing last with
  | nil => exact ⟨last, by simp [binaries]⟩
  | cons term operators ih =>
      rw [List.forall_mem_cons] at known
      obtain ⟨later, read⟩ := ih known.2 (some term)
      refine ⟨later, ?_⟩
      rw [← read, List.cons_append]
      rcases known.1 with binary | ⟨precedence, role⟩
      · rw [binaries_cons_of_isBinary binary]
        obtain ⟨precedence, rightAssociative, role⟩ := binary
        have enough : ¬ binaries operators + 1 + (depth + 1) < 2 := by omega
        have less : binaries operators + 1 + (depth + 1) - 1 = binaries operators + (depth + 1) := by
          omega
        simp [faultFrom, role, enough, less]
      · have other : ¬ term.IsBinary := by
          rintro ⟨_, _, binary⟩
          rw [role] at binary
          cases binary
        rw [binaries_cons_of_not other]
        simp [faultFrom, role]

/-- Popping the operators of a stack leaves as many values as are needed below. -/
theorem exists_faultFrom_popped {waiting : List Term}
    (known : ∀ term ∈ waiting, term.IsBinary ∨ term.IsUnary ∨ term.role = .opening)
    {p : Term → Bool} (plain : ∀ term, p term = true → term.role ≠ .opening)
    (last : Option Term) (rest : List Term) :
    ∃ later, faultFrom last (binaries waiting + 1) (waiting.takeWhile p ++ rest) =
      faultFrom later (binaries (waiting.dropWhile p) + 1) rest := by
  have operators : ∀ term ∈ waiting.takeWhile p, term.IsBinary ∨ term.IsUnary := by
    intro term popped
    rcases known term (List.takeWhile_subset p popped) with binary | unary | opening
    · exact .inl binary
    · exact .inr unary
    · exact absurd opening (plain term (holds_of_mem_takeWhile popped))
  have count : binaries waiting =
      binaries (waiting.takeWhile p) + binaries (waiting.dropWhile p) := by
    rw [← binaries_append, List.takeWhile_append_dropWhile]
  obtain ⟨later, read⟩ := faultFrom_operators operators last
    (binaries (waiting.dropWhile p)) rest
  exact ⟨later, by rw [count, Nat.add_assoc, read]⟩

/-- Opening parentheses are no binary operators. -/
theorem binaries_filter (terms : List Term) :
    binaries (terms.filter fun term => term.role != .opening) = binaries terms := by
  rw [binaries, binaries, List.countP_filter]
  congr 1
  funext term
  split
  · next role => simp [role]
  · rfl

theorem not_isBinary {term : Term} (other : term.IsUnary ∨ term.role = .opening) :
    ¬ term.IsBinary := by
  rintro ⟨_, _, binary⟩
  rcases other with ⟨_, unary⟩ | opening
  · rw [binary] at unary
    cases unary
  · rw [binary] at opening
    cases opening

/-- What a closing parenthesis removes from a stack is no binary operator. -/
theorem binaries_drop_one (waiting : List Term) :
    binaries ((waiting.dropWhile fun term => term.role != .opening).drop 1) =
      binaries (waiting.dropWhile fun term => term.role != .opening) := by
  have first := List.head?_dropWhile_not (fun term : Term => term.role != .opening) waiting
  cases stack : waiting.dropWhile fun term => term.role != .opening with
  | nil => rfl
  | cons head tail =>
      simp only [stack, List.head?_cons, bne_eq_false_iff_eq] at first
      exact (binaries_cons_of_not (not_isBinary (.inr first)) tail).symm

theorem ne_opening_of_precedes {precedence : Nat} {rightAssociative : Bool} {term : Term}
    (before : precedes precedence rightAssociative term = true) : term.role ≠ .opening := by
  intro opening
  have parenthesis := isParenthesis_of_precedes before
  simp [isParenthesis, opening] at parenthesis

section Waiting

variable {waiting : List Term}
  (known : ∀ term ∈ waiting, term.IsBinary ∨ term.IsUnary ∨ term.role = .opening)

include known

/-- What waits at the end takes all values but one. -/
theorem faultFrom_waiting (last : Option Term) :
    faultFrom last (binaries waiting + 1) (waiting.filter fun term => term.role != .opening) =
      none := by
  have operators : ∀ term ∈ waiting.filter fun term => term.role != .opening,
      term.IsBinary ∨ term.IsUnary := by
    intro term member
    rw [List.mem_filter, bne_iff_ne] at member
    rcases known term member.1 with binary | unary | opening
    · exact .inl binary
    · exact .inr unary
    · exact absurd opening member.2
  obtain ⟨later, read⟩ := faultFrom_operators operators last 0 []
  rw [binaries_filter, List.append_nil] at read
  rw [read]
  rfl

/-- A binary operator waits in place of those that it pops. -/
theorem exists_faultFrom_binary {term : Term} {precedence : Nat} {rightAssociative : Bool}
    (role : term.role = .binary precedence rightAssociative) (last : Option Term)
    (rest : List Term) :
    ∃ later, faultFrom last (binaries waiting + 1) (postorderFrom waiting (term :: rest)) =
      faultFrom later (binaries (term :: waiting.dropWhile (precedes precedence rightAssociative)))
        (postorderFrom (term :: waiting.dropWhile (precedes precedence rightAssociative)) rest) := by
  obtain ⟨later, popped⟩ := exists_faultFrom_popped known (fun _ => ne_opening_of_precedes) last
    (postorderFrom (term :: waiting.dropWhile (precedes precedence rightAssociative)) rest)
  refine ⟨later, ?_⟩
  rw [binaries_cons_of_isBinary ⟨precedence, rightAssociative, role⟩, ← popped]
  simp only [postorderFrom, role]

/-- A closing parenthesis pops what waits above its opening one. -/
theorem exists_faultFrom_closing {term : Term} (role : term.role = .closing)
    (last : Option Term) (rest : List Term) :
    ∃ later, faultFrom last (binaries waiting + 1) (postorderFrom waiting (term :: rest)) =
      faultFrom later
        (binaries ((waiting.dropWhile fun term => term.role != .opening).drop 1) + 1)
        (postorderFrom ((waiting.dropWhile fun term => term.role != .opening).drop 1) rest) := by
  have plain (term : Term) (inside : (term.role != .opening) = true) : term.role ≠ .opening :=
    bne_iff_ne.mp inside
  obtain ⟨later, popped⟩ := exists_faultFrom_popped known plain last
    (postorderFrom ((waiting.dropWhile fun term => term.role != .opening).drop 1) rest)
  refine ⟨later, ?_⟩
  rw [binaries_drop_one, ← popped]
  simp only [postorderFrom, role]

end Waiting

/-- No fault is found in the postorder of terms that are placed: before an
operand there are as many values as binary operators wait, and after it there is
one more. -/
theorem faultFrom_postorderFrom {waiting terms : List Term} {afterOperand : Bool}
    (known : ∀ term ∈ waiting, term.IsBinary ∨ term.IsUnary ∨ term.role = .opening)
    (stands : placedFrom afterOperand terms = true) (last : Option Term) :
    faultFrom last (binaries waiting + if afterOperand then 1 else 0)
      (postorderFrom waiting terms) = none := by
  induction terms generalizing waiting afterOperand last with
  | nil =>
      obtain rfl : afterOperand = true := stands
      exact faultFrom_waiting known last
  | cons term rest ih =>
      have pushed (other : term.IsUnary ∨ term.role = .opening)
          (stands : placedFrom false rest = true) :
          faultFrom last (binaries waiting + 0) (postorderFrom (term :: waiting) rest) = none := by
        have read := ih (List.forall_mem_cons.mpr ⟨.inr other, known⟩) stands last
        rw [binaries_cons_of_not (not_isBinary other)] at read
        exact read
      cases afterOperand with
      | false =>
          unfold placedFrom at stands
          split at stands
          · next role =>
            have read := ih known stands (some term)
            simpa [postorderFrom, role, faultFrom] using read
          · next precedence role =>
            have read := pushed (.inl ⟨precedence, role⟩) stands
            simpa [postorderFrom, role] using read
          · next role =>
            have read := pushed (.inr role) stands
            simpa [postorderFrom, role] using read
          · cases stands
      | true =>
          unfold placedFrom at stands
          split at stands
          · next precedence rightAssociative role =>
            have below : ∀ other ∈
                term :: waiting.dropWhile (precedes precedence rightAssociative),
                other.IsBinary ∨ other.IsUnary ∨ other.role = .opening := by
              rw [List.forall_mem_cons]
              exact ⟨.inl ⟨precedence, rightAssociative, role⟩,
                fun other stays => known other (List.dropWhile_subset _ stays)⟩
            obtain ⟨later, popped⟩ := exists_faultFrom_binary known role last rest
            exact popped.trans (ih below stands later)
          · next role =>
            have read := ih known stands (some term)
            simpa [postorderFrom, role, faultFrom] using read
          · next role =>
            have below : ∀ other ∈ (waiting.dropWhile fun term => term.role != .opening).drop 1,
                other.IsBinary ∨ other.IsUnary ∨ other.role = .opening := fun other stays =>
              known other (List.dropWhile_subset _ (List.mem_of_mem_drop stays))
            obtain ⟨later, popped⟩ := exists_faultFrom_closing known role last rest
            exact popped.trans (ih below stands later)
          · cases stands

theorem fault?_postorder_of_placed {terms : List Term} (stands : placed terms = true) :
    fault? (postorder terms) = none := by
  have known : ∀ term ∈ ([] : List Term), term.IsBinary ∨ term.IsUnary ∨ term.role = .opening :=
    fun _ member => absurd member List.not_mem_nil
  exact faultFrom_postorderFrom known stands none

end CobolCheck.Term
