import CobolCheck.Proofs.Expression.Postorder
import CobolCheck.Proofs.Expression.Reach
import CobolCheck.Source.Tokenize

/-!
# Accepted conditions

A condition is accepted if its parentheses match and if, in postorder, every
operator finds its operands. Every condition of the grammar is accepted. What
is accepted besides has some term in a place where the grammar has none, as in
`A B =`.
-/

namespace CobolCheck

namespace Term

/-! ## Matching parentheses -/

/-- The number of terms of a role. -/
def countRole (role : Role) (terms : List Term) : Nat :=
  terms.countP fun term => term.role == role

/-- Whether the parentheses of a list of terms match: there are as many closing
as opening ones, and nowhere more of them up to there. -/
def Matched (terms : List Term) : Prop :=
  (∀ front, front <+: terms → countRole .closing front ≤ countRole .opening front) ∧
    countRole .closing terms = countRole .opening terms

theorem countRole_cons (role : Role) (term : Term) (terms : List Term) :
    countRole role (term :: terms) =
      countRole role terms + if term.role = role then 1 else 0 := by
  simp [countRole, List.countP_cons]

/-- A beginning of a list is empty, or it begins as the list does. -/
theorem forall_isPrefix_cons {P : List Term → Prop} {term : Term} {rest : List Term} :
    (∀ front, front <+: term :: rest → P front) ↔
      P [] ∧ ∀ front, front <+: rest → P (term :: front) := by
  constructor
  · intro all
    constructor
    · exact all [] List.nil_prefix
    · intro front begins
      exact all (term :: front) ((List.prefix_cons_inj term).mpr begins)
  · rintro ⟨empty, longer⟩ front begins
    rcases List.prefix_cons_iff.mp begins with rfl | ⟨tail, rfl, shorter⟩
    · exact empty
    · exact longer tail shorter

theorem balancedFrom_iff (depth : Nat) (terms : List Term) :
    balancedFrom depth terms = true ↔
      (∀ front, front <+: terms → countRole .closing front ≤ countRole .opening front + depth) ∧
        countRole .closing terms = countRole .opening terms + depth := by
  induction terms generalizing depth with
  | nil =>
      constructor
      · intro closed
        obtain rfl : depth = 0 := by simpa [balancedFrom] using closed
        simp [countRole]
      · rintro ⟨_, total⟩
        simpa [countRole, balancedFrom] using total.symm
  | cons term rest ih =>
      rw [forall_isPrefix_cons]
      simp only [countRole_cons]
      by_cases opening : term.role = .opening
      · have read : balancedFrom depth (term :: rest) = balancedFrom (depth + 1) rest := by
          simp [balancedFrom, opening]
        simp only [read, ih, opening, reduceCtorEq, if_true, if_false, Nat.add_zero]
        simp [countRole, Nat.add_assoc, Nat.add_comm depth]
      by_cases closing : term.role = .closing
      · cases depth with
        | zero =>
            have read : balancedFrom 0 (term :: rest) = false := by
              simp [balancedFrom, closing]
            rw [read]
            constructor
            · intro impossible
              cases impossible
            · rintro ⟨⟨_, first⟩, _⟩
              have one := first [] List.nil_prefix
              simp [closing, countRole] at one
        | succ depth =>
            have read : balancedFrom (depth + 1) (term :: rest) = balancedFrom depth rest := by
              simp [balancedFrom, closing]
            simp only [read, ih, closing, reduceCtorEq, if_true, if_false, Nat.add_zero]
            simp [countRole, ← Nat.add_assoc]
      · have read : balancedFrom depth (term :: rest) = balancedFrom depth rest := by
          cases role : term.role with
          | opening => contradiction
          | closing => contradiction
          | operand | binary | unary | classTest => simp [balancedFrom, role]
        simp only [read, ih, opening, closing, if_false, Nat.add_zero]
        simp [countRole]

theorem balanced_iff_matched (terms : List Term) : balanced terms = true ↔ Matched terms :=
  balancedFrom_iff 0 terms

end Term

namespace Analysis

open Term

/-! ## Judging a condition -/

theorem reports_acceptMany (count : Nat) (state : State) :
    (acceptMany count state).2.reports = state.reports := by
  induction count generalizing state with
  | zero => rfl
  | succ count ih =>
      have accepted : (state.emit state.current).skip.reports = state.reports := by
        rw [State.reports_skip]
        rfl
      exact (ih _).trans accepted

theorem reports_readTerm (delimiter : String) (terms : List Term) (state : State) :
    (readTerm delimiter terms state).2.reports = state.reports := by
  unfold readTerm
  rw [run_bind, run_ask, run_ite]
  split
  · rfl
  · exact reports_acceptMany _ _

/-- The terms of a condition are read without a report. -/
theorem reports_conditionTerms (delimiter : String) (state : State) :
    (conditionTerms delimiter state).2.reports = state.reports := by
  refine loop_induction (fun _ after => after.reports = state.reports) ?_ ?_ [] state rfl
  · intro terms middle after before ran
    rw [← before, ← reports_readTerm delimiter terms middle, ran]
  · intro terms middle next after before ran
    rw [← before, ← reports_readTerm delimiter terms middle, ran]

/-- Nothing is reported of a condition exactly if it has terms, their
parentheses match, and no fault is found in their postorder. -/
theorem reports_judgeCondition_iff (first : Token) (terms : List Term) (state : State) :
    (judgeCondition first terms state).2.reports = state.reports ↔
      terms ≠ [] ∧ balanced terms = true ∧ fault? (postorder terms) = none := by
  have reported (more : List Report) (report : Report) :
      more ++ report :: state.reports ≠ state.reports := by
    intro same
    have longer := congrArg List.length same
    simp only [List.length_append, List.length_cons] at longer
    omega
  cases terms with
  | nil =>
      constructor
      · intro same
        exact absurd same (reported [] _)
      · rintro ⟨nonempty, _⟩
        contradiction
  | cons term rest =>
      have judged : (judgeCondition first (term :: rest) state).2.reports =
          (fault? (postorder (term :: rest))).toList.map
              (fun token => ⟨token, .general .invalidCondition⟩) ++
            if balanced (term :: rest) = true then state.reports
            else ⟨first, .general .unbalancedCondition⟩ :: state.reports := by
        unfold judgeCondition
        cases matched : balanced (term :: rest) <;>
          cases found : fault? (postorder (term :: rest)) <;> rfl
      rw [judged]
      cases matched : balanced (term :: rest) with
      | false =>
          constructor
          · intro same
            exact absurd same (reported _ _)
          · rintro ⟨_, impossible, _⟩
            cases impossible
      | true =>
          cases found : fault? (postorder (term :: rest)) with
          | none => simp
          | some token =>
              constructor
              · intro same
                exact absurd same (reported [] _)
              · rintro ⟨_, _, impossible⟩
                cases impossible

/-! ## Accepting a condition -/

/-- The terms of the condition at the cursor. -/
def collected (delimiter : String) (state : State) : List Term :=
  (conditionTerms delimiter state).1

/-- Whether nothing is reported of the condition at the cursor. -/
def Accepted (delimiter : String) (state : State) : Prop :=
  (condition delimiter state).2.reports = state.reports

theorem accepted_iff (delimiter : String) (state : State) :
    Accepted delimiter state ↔
      collected delimiter state ≠ [] ∧ balanced (collected delimiter state) = true ∧
        fault? (postorder (collected delimiter state)) = none := by
  unfold Accepted collected
  rw [← reports_judgeCondition_iff state.current _ (conditionTerms delimiter state).2,
    reports_conditionTerms]
  rfl

/-- The postorder of a list of terms has all of them but the parentheses. -/
theorem plain_postorder (terms : List Term) :
    ∀ term ∈ postorder terms, term.isParenthesis = false := by
  intro term member
  exact isParenthesis_of_mem_postorderFrom (by simp) member

/-- An accepted condition has matching parentheses. Unless it has only these, it
is accepted exactly if they match and every operator finds its operands in
postorder. Every condition of the grammar is accepted, and those accepted are in
the grammar exactly if every term is placed where it may stand. -/
theorem accepted_condition (delimiter : String) (state : State) :
    (Accepted delimiter state →
        collected delimiter state ≠ [] ∧ Matched (collected delimiter state)) ∧
      ((∃ term ∈ collected delimiter state, term.isParenthesis = false) →
        (Accepted delimiter state ↔
          Matched (collected delimiter state) ∧
            Reduces (postorder (collected delimiter state)))) ∧
      (Derives .expression (collected delimiter state) → Accepted delimiter state) ∧
      (Accepted delimiter state →
        (Derives .expression (collected delimiter state) ↔
          placed (collected delimiter state) = true)) := by
  rw [accepted_iff, ← balanced_iff_matched, derives_iff_placed]
  generalize collected delimiter state = terms
  refine ⟨?_, ?_, ?_, ?_⟩
  · rintro ⟨nonempty, matched, _⟩
    exact ⟨nonempty, matched⟩
  · rintro ⟨term, member, plain⟩
    have kept : term ∈ postorder terms := mem_postorderFrom (.inr member) plain
    rw [fault?_eq_none_iff (List.ne_nil_of_mem kept) (plain_postorder terms)]
    constructor
    · rintro ⟨_, matched, reduces⟩
      exact ⟨matched, reduces⟩
    · rintro ⟨matched, reduces⟩
      exact ⟨List.ne_nil_of_mem member, matched, reduces⟩
  · rintro ⟨matched, stands⟩
    refine ⟨?_, matched, fault?_postorder_of_placed stands⟩
    rintro rfl
    cases stands
  · rintro ⟨_, matched, _⟩
    constructor
    · rintro ⟨_, stands⟩
      exact stands
    · intro stands
      exact ⟨matched, stands⟩

/-- Only arity is counted, so an operator may come after both of its operands. -/
theorem accepted_trailing_operator :
    Accepted "THEN" (State.initial (Source.tokenize "A B = THEN CONTINUE END-IF.") .empty) ∧
      ¬ Derives .expression
        (collected "THEN"
          (State.initial (Source.tokenize "A B = THEN CONTINUE END-IF.") .empty)) := by
  rw [accepted_iff, derives_iff_placed]
  decide +kernel

end Analysis

end CobolCheck
