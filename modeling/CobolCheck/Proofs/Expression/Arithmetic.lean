import CobolCheck.Proofs.Analysis.Reads
import CobolCheck.Proofs.Expression.Condition

/-!
# Reading expressions

The grammars of the arithmetic expressions and of the conditions that statements
are written with. An expression is read to its end and no further if the word
after it cannot continue it, and nothing is reported of it.
-/

namespace CobolCheck

namespace Grammar

/-! ## Arithmetic expressions -/

/-- The signs. -/
def signs : List String :=
  ["+", "-"]

/-- The operators of arithmetic expressions. -/
def arithmeticOperators : List String :=
  signs ++ ["*", "/", "**"]

/-- The words of an arithmetic expression. A sign may stand only where the
expression is a `leading` one: at the beginning and after a parenthesis. -/
inductive Arithmetic : (leading : Bool) → List String → Prop
  | operand {word : String} (operand : IsOperand [.identifier, .numeric] word) :
      Arithmetic false [word]
  | group {words : List String} (inner : Arithmetic true words) :
      Arithmetic false ("(" :: words ++ [")"])
  | binary {operator : String} {left right : List String}
      (known : operator ∈ arithmeticOperators) (first : Arithmetic false left)
      (second : Arithmetic false right) : Arithmetic false (left ++ operator :: right)
  | unsigned {words : List String} (plain : Arithmetic false words) : Arithmetic true words
  | sign {operator : String} {words : List String} (known : operator ∈ signs)
      (plain : Arithmetic false words) : Arithmetic true (operator :: words)

/-- An arithmetic expression begins with an operand or a mark. -/
theorem Arithmetic.exists_cons {leading : Bool} {words : List String}
    (expression : Arithmetic leading words) :
    ∃ word more, words = word :: more ∧ word ∉ particles := by
  induction expression with
  | operand operand => exact ⟨_, _, rfl, operand.notMem (by decide) (by decide)⟩
  | group => exact ⟨_, _, rfl, by decide⟩
  | binary _ _ _ ihFirst =>
      obtain ⟨word, more, rfl, other⟩ := ihFirst
      exact ⟨_, _, rfl, other⟩
  | unsigned _ ih => exact ih
  | sign known =>
      have other : ∀ operator ∈ signs, operator ∉ particles := by decide
      exact ⟨_, _, rfl, other _ known⟩

end Grammar

open Grammar

namespace Analysis

variable {start : SourceUnit × SymbolTable} {word : String} {more rest : List String}
  {scan : ArithmeticScan}

/-- One more token of an arithmetic expression is accepted, and `next` says what
has been read then. -/
def ReadsOne (start : SourceUnit × SymbolTable) (scan : ArithmeticScan) (word : String)
    (rest : List String) (next : ArithmeticScan → Prop) : Prop :=
  Reads start (readArithmetic scan) [word] rest fun answer declared =>
    ∃ after, answer = some after ∧ next after ∧ declared = start

theorem readsOne_operand (operand : IsOperand [.identifier, .numeric] word)
    (begins : scan.preceding.complete = false) (rest : List String) :
    ReadsOne start scan word rest (· = { scan with preceding := .operand }) := by
  obtain ⟨category, listed, role⟩ := operand
  have known : category = .identifier ∨ category = .numeric := by simpa using listed
  apply Reads.token_bind role
  intro token value_eq category_eq
  rw [category_eq]
  rcases known with rfl | rfl <;>
  · simp only [begins, Bool.false_eq_true, if_false]
    exact .accept_bind (.pure ⟨_, rfl, rfl, rfl⟩)

theorem readsOne_opening (begins : scan.preceding.complete = false) (rest : List String) :
    ReadsOne start scan "(" rest
      (· = { scan with preceding := .opening, depth := scan.depth + 1 }) := by
  apply Reads.token_bind (role?_mark "(" (by decide))
  intro token value_eq category_eq
  rw [category_eq]
  simp only [Token.is, value_eq, begins, beq_self_eq_true, if_true, Bool.false_eq_true, if_false]
  exact .accept_bind (.pure ⟨_, rfl, rfl, rfl⟩)

theorem complainOfTrailing_eq_pure (complete : scan.preceding.complete = true) :
    complainOfTrailing scan = pure scan := by
  obtain ⟨preceding, depth, crossed, sound⟩ := scan
  cases preceding with
  | operand => rfl
  | closing => rfl
  | start => cases complete
  | opening => cases complete
  | operator => cases complete

/-- Nothing is wrong with a parenthesis that closes an open one after an operand. -/
theorem closeParenthesis_eq (complete : scan.preceding.complete = true) (inside : scan.depth ≠ 0)
    (token : Token) :
    closeParenthesis token scan = accept >>= fun _ =>
      pure { scan with preceding := .closing, depth := scan.depth - 1 } := by
  obtain ⟨preceding, depth, crossed, sound⟩ := scan
  obtain ⟨depth, rfl⟩ := Nat.exists_eq_succ_of_ne_zero inside
  cases preceding with
  | operand => cases crossed <;> rfl
  | closing => cases crossed <;> rfl
  | start => cases complete
  | opening => cases complete
  | operator => cases complete

theorem readsOne_closing (complete : scan.preceding.complete = true) (inside : scan.depth ≠ 0)
    (rest : List String) :
    ReadsOne start scan ")" rest
      (· = { scan with preceding := .closing, depth := scan.depth - 1 }) := by
  apply Reads.token_bind (role?_mark ")" (by decide))
  intro token value_eq category_eq
  rw [category_eq]
  simp only [Token.is, value_eq, beq_self_eq_true, if_true, String.reduceBEq, Bool.false_eq_true,
    if_false, closeParenthesis_eq complete inside, bind_assoc, pure_bind]
  exact .accept_bind (.pure ⟨_, rfl, rfl, rfl⟩)

/-- An operator may stand after an operand, and a sign at the beginning too. -/
def MayOperate (operator : String) : Preceding → Prop
  | .operator _ => False
  | .start => operator ∈ signs
  | .opening => operator ∈ signs
  | _ => operator ∈ arithmeticOperators

theorem readOperator_eq {token : Token} (fits : MayOperate token.value scan.preceding) :
    readOperator token scan = accept >>= fun _ =>
      pure { scan with preceding := .operator (some token) } := by
  obtain ⟨preceding, depth, crossed, sound⟩ := scan
  cases preceding with
  | operand => rfl
  | closing => rfl
  | start =>
      have sign : (token.is "+" || token.is "-") = true := by
        simpa [MayOperate, Token.is, signs] using fits
      simp [readOperator, sign]
  | opening =>
      have sign : (token.is "+" || token.is "-") = true := by
        simpa [MayOperate, Token.is, signs] using fits
      simp [readOperator, sign]
  | operator => cases fits

theorem readsOne_operator {operator : String} (fits : MayOperate operator scan.preceding)
    (rest : List String) :
    ReadsOne start scan operator rest
      fun after => ∃ token, after = { scan with preceding := .operator token } := by
  have known : operator ∈ arithmeticOperators := by
    cases preceding : scan.preceding with
    | operator => simp [MayOperate, preceding] at fits
    | operand | closing => simpa only [MayOperate, preceding] using fits
    | start | opening =>
        rw [preceding] at fits
        exact List.mem_append_left _ fits
  have mark : ∀ operator ∈ arithmeticOperators,
      operator ∈ marks ∧ operator ≠ "(" ∧ operator ≠ ")" := by
    decide
  obtain ⟨marked, no_opening, no_closing⟩ := mark operator known
  apply Reads.token_bind (role?_mark operator marked)
  intro token value_eq category_eq
  rw [category_eq]
  subst value_eq
  have arithmetic : isArithmeticOperator token.value = true := by
    simpa [isArithmeticOperator, arithmeticOperators, signs] using known
  simp only [Token.is, beq_eq_false_iff_ne.mpr no_opening,
    beq_eq_false_iff_ne.mpr no_closing,
    Bool.false_eq_true, if_false, arithmetic, if_true, readOperator_eq fits, bind_assoc,
    pure_bind]
  exact .accept_bind (.pure ⟨_, rfl, ⟨_, rfl⟩, rfl⟩)

/-- After one token an arithmetic expression is read on. -/
theorem ReadsOne.loop {next : ArithmeticScan → Prop}
    {ends : ArithmeticScan → SourceUnit × SymbolTable → Prop}
    (one : ReadsOne start scan word (more ++ rest) next)
    (further : ∀ after, next after → Reads start (loop readArithmetic after) more rest ends) :
    Reads start (loop readArithmetic scan) (word :: more) rest ends := by
  apply Reads.loop_some (fun after declared => next after ∧ declared = start)
    (List.cons_ne_nil word []) one
  rintro after _ ⟨holds, rfl⟩
  exact further after holds

/-- An operand has been completed since a place, and all parentheses opened since
then are closed. -/
structure Completes (scan after : ArithmeticScan) : Prop where
  complete : after.preceding.complete = true
  depth_eq : after.depth = scan.depth
  crossed_eq : after.crossed = scan.crossed

/-- An arithmetic expression is read as one operand. -/
theorem reads_loop_arithmetic {leading : Bool} {words : List String}
    (grammar : Arithmetic leading words)
    {ends : ArithmeticScan → SourceUnit × SymbolTable → Prop}
    (begins : scan.preceding.complete = false)
    (place : leading = true → scan.preceding = .start ∨ scan.preceding = .opening)
    (further : ∀ after, Completes scan after →
      Reads start (loop readArithmetic after) more rest ends) :
    Reads start (loop readArithmetic scan) (words ++ more) rest ends := by
  induction grammar generalizing scan more with
  | operand operand =>
      apply (readsOne_operand operand begins _).loop
      rintro _ rfl
      exact further _ ⟨rfl, rfl, rfl⟩
  | group inner ih =>
      rw [List.append_assoc]
      apply (readsOne_opening begins _).loop
      rintro _ rfl
      apply ih rfl fun _ => .inr rfl
      rintro after ⟨complete, depth_eq, crossed_eq⟩
      have inside : after.depth = scan.depth + 1 := depth_eq
      apply (readsOne_closing complete (by omega) _).loop
      rintro _ rfl
      exact further _ ⟨rfl, by simp only [inside, Nat.add_sub_cancel], crossed_eq⟩
  | @binary operator left right known first second ihFirst ihSecond =>
      rw [List.append_assoc, List.cons_append]
      apply ihFirst begins Bool.noConfusion
      rintro middle ⟨complete, depth_eq, crossed_eq⟩
      have fits : MayOperate operator middle.preceding := by
        cases preceding : middle.preceding with
        | operand | closing => exact known
        | start | opening | operator => simp [preceding, Preceding.complete] at complete
      apply (readsOne_operator fits _).loop
      rintro _ ⟨token, rfl⟩
      apply ihSecond rfl Bool.noConfusion
      intro after completes
      exact further after ⟨completes.complete, completes.depth_eq.trans depth_eq,
        completes.crossed_eq.trans crossed_eq⟩
  | unsigned _ ih => exact ih begins Bool.noConfusion further
  | @sign operator words known plain ih =>
      have fits : MayOperate operator scan.preceding := by
        rcases place rfl with preceding | preceding <;> rwa [preceding]
      apply (readsOne_operator fits _).loop
      rintro _ ⟨token, rfl⟩
      apply ih rfl Bool.noConfusion
      rintro after ⟨complete, depth_eq, crossed_eq⟩
      exact further after ⟨complete, depth_eq, crossed_eq⟩

/-- An arithmetic expression ends before every reserved word and before a period. -/
theorem reads_loop_arithmetic_end (ended : (roleAt rest 0).1 = .reserved ∨ Begins ["."] rest) :
    Reads start (loop readArithmetic scan) [] rest
      fun after declared => after = scan ∧ declared = start := by
  apply Reads.loop_none
  rcases ended with reserved | ⟨period, listed, more, rfl⟩
  · apply Reads.current_bind
    intro token _ role_eq
    have category_eq : token.category = .reserved := by
      rw [← reserved]
      exact congrArg Prod.fst role_eq
    rw [category_eq]
    exact .pure ⟨rfl, rfl, rfl⟩
  · obtain rfl : period = "." := List.mem_singleton.mp listed
    apply Reads.current_bind
    intro token value_eq role_eq
    rw [List.nil_append, roleAt_cons_zero (role?_mark "." (by decide)), Prod.mk.injEq] at role_eq
    rw [List.nil_append, textAt_cons_zero] at value_eq
    rw [role_eq.1]
    simp only [Token.is, value_eq, isArithmeticOperator]
    exact .pure ⟨rfl, trivial, rfl⟩

/-- Every arithmetic expression before a reserved word or a period is accepted. -/
theorem accepts_arithmetic {words : List String} (grammar : Arithmetic true words)
    (ended : (roleAt rest 0).1 = .reserved ∨ Begins ["."] rest) :
    Accepts start (discard arithmetic) words rest := by
  apply Accepts.discard
  apply Reads.current_bind
  intro first _ _
  have scanned : Reads start (loop readArithmetic {}) (words ++ []) rest
      fun after declared => Completes {} after ∧ declared = start := by
    apply reads_loop_arithmetic grammar rfl fun _ => .inl rfl
    intro after completes
    apply (reads_loop_arithmetic_end ended).mono
    rintro _ _ ⟨rfl, rfl⟩
    exact ⟨completes, rfl⟩
  rw [List.append_nil] at scanned
  apply Reads.bind_nil scanned
  rintro scan _ ⟨⟨complete, depth_eq, crossed_eq⟩, rfl⟩
  have begun : scan.preceding ≠ .start := by
    intro preceding
    rw [preceding] at complete
    cases complete
  have settled : (scan.crossed || scan.depth != 0) = false := by
    rw [crossed_eq, depth_eq]
    rfl
  simp only [if_neg begun, complainOfTrailing_eq_pure complete, pure_bind, settled,
    Bool.false_eq_true, if_false]
  exact .pure rfl

end Analysis

end CobolCheck
