import CobolCheck.Proofs.Expression.Scan

/-!
# The grammar of arithmetic expressions

An arithmetic expression is a chain of operands with operators between them, and
may have a sign before it. An operand is an identifier, a numeric literal or an
expression in parentheses. The main statement is `arithmetic_iff_derives`: what
is accepted is exactly what this grammar generates.

As long as nothing is wrong with what has been read, that is an expression in
which some parentheses have yet to be closed, which is what `Viable` says. In
the other direction an expression is read as one operand.
-/

namespace CobolCheck

open Grammar Analysis

namespace Arithmetic

/-! ## The grammar -/

/-- The levels of the grammar. -/
inductive Level where
  | expression
  | chain
  | operand
  deriving DecidableEq
/-- Whether a list of tokens is generated at a level of the grammar. -/
inductive Derives : Level → List Token → Prop
  | operand {token : Token}
      (category : token.category = .identifier ∨ token.category = .numeric) :
      Derives .operand [token]
  | group {opening closing : Token} {inner : List Token} (opens : IsSymbol "(" opening)
      (closes : IsSymbol ")" closing) (expression : Derives .expression inner) :
      Derives .operand (opening :: inner ++ [closing])
  | single {tokens : List Token} (operand : Derives .operand tokens) : Derives .chain tokens
  | binary {operator : Token} {left right : List Token}
      (known : IsOneOf arithmeticOperators operator) (chain : Derives .chain left)
      (operand : Derives .operand right) : Derives .chain (left ++ operator :: right)
  | unsigned {tokens : List Token} (chain : Derives .chain tokens) : Derives .expression tokens
  | signed {sign : Token} {tokens : List Token} (known : IsOneOf signs sign)
      (chain : Derives .chain tokens) : Derives .expression (sign :: tokens)

/-- An expression can be continued by an operator and an operand. -/
theorem Derives.append {operator : Token} {tokens more : List Token}
    (expression : Derives .expression tokens) (known : IsOneOf arithmeticOperators operator)
    (operand : Derives .operand more) : Derives .expression (tokens ++ operator :: more) := by
  cases expression with
  | unsigned chain => exact .unsigned (.binary known chain operand)
  | signed sign chain => exact .signed sign (.binary known chain operand)
/-! ## What is accepted is generated -/

/-- Whether an expression has been read up to the place of an operand: it is
empty, or it ends with a sign or an operator. -/
inductive Begun : List Token → Prop
  | nil : Begun []
  | sign {token : Token} (known : IsOneOf signs token) : Begun [token]
  | operator {token : Token} {tokens : List Token} (known : IsOneOf arithmeticOperators token)
      (expression : Derives .expression tokens) : Begun (tokens ++ [token])

/-- An operand completes what has been read. -/
theorem Begun.derives_append {tokens more : List Token} (begun : Begun tokens)
    (operand : Derives .operand more) : Derives .expression (tokens ++ more) := by
  cases begun with
  | nil => exact .unsigned (.single operand)
  | sign known => exact .signed known (.single operand)
  | operator known expression =>
      rw [List.append_assoc]
      exact expression.append known operand

/-- Whether a number of parentheses are open at the end of a list of tokens, each
at the place of an operand. -/
inductive Nested : Nat → List Token → Prop
  | none : Nested 0 []
  | group {depth : Nat} {opening : Token} {outer tokens : List Token}
      (opens : IsSymbol "(" opening) (nested : Nested depth outer) (begun : Begun tokens) :
      Nested (depth + 1) (outer ++ tokens ++ [opening])

/-- Whether a list of tokens is what has been read of an expression, by what was
read last and the number of parentheses that are open. -/
inductive Viable : Nat → Preceding → List Token → Prop
  | start : Viable 0 .start []
  | opening {depth : Nat} {outer : List Token} (nested : Nested (depth + 1) outer) :
      Viable (depth + 1) .opening outer
  | operator {depth : Nat} {outer tokens : List Token} {token : Token}
      (nested : Nested depth outer) (begun : Begun tokens) :
      Viable depth (.operator (some token)) (outer ++ tokens)
  | complete {depth : Nat} {preceding : Preceding} {outer tokens last : List Token}
      (complete : preceding.complete = true) (nested : Nested depth outer) (begun : Begun tokens)
      (operand : Derives .operand last) : Viable depth preceding (outer ++ tokens ++ last)

namespace Viable

variable {depth : Nat} {preceding : Preceding} {tokens more : List Token} {token : Token}

/-- At the place of an operand the current expression has just begun. -/
theorem exists_begun (viable : Viable depth preceding tokens)
    (incomplete : preceding.complete = false) :
    ∃ outer begun, tokens = outer ++ begun ∧ Nested depth outer ∧ Begun begun := by
  cases viable with
  | start => exact ⟨[], [], rfl, .none, .nil⟩
  | opening nested => exact ⟨_, [], (List.append_nil _).symm, nested, .nil⟩
  | operator nested begun => exact ⟨_, _, rfl, nested, begun⟩
  | complete complete =>
      rw [complete] at incomplete
      cases incomplete

theorem operand (viable : Viable depth preceding tokens) (incomplete : preceding.complete = false)
    (category : token.category = .identifier ∨ token.category = .numeric) :
    Viable depth .operand (tokens ++ [token]) := by
  obtain ⟨outer, begun, rfl, nested, begins⟩ := viable.exists_begun incomplete
  exact .complete rfl nested begins (.operand category)

theorem opens (viable : Viable depth preceding tokens) (incomplete : preceding.complete = false)
    (opening : IsSymbol "(" token) : Viable (depth + 1) .opening (tokens ++ [token]) := by
  obtain ⟨outer, begun, rfl, nested, begins⟩ := viable.exists_begun incomplete
  exact .opening (.group opening nested begins)

/-- A closing parenthesis makes an operand of the expression that it closes. -/
theorem closes (viable : Viable (depth + 1) preceding tokens) (may : preceding.mayClose = true)
    (closing : IsSymbol ")" token) : Viable depth .closing (tokens ++ [token]) := by
  cases viable with
  | opening => cases may
  | operator => cases may
  | complete _ nested begun operand =>
      cases nested with
      | @group _ opening outer around opens nested begunAround =>
          have grouped : Viable _ .closing _ := .complete rfl nested begunAround
            (.group opens closing (begun.derives_append operand))
          simpa only [List.append_assoc, List.cons_append, List.nil_append] using grouped

theorem operates (viable : Viable depth preceding tokens)
    (known : IsOneOf arithmeticOperators token) (fits : MayOperate token.value preceding) :
    Viable depth (.operator (some token)) (tokens ++ [token]) := by
  cases viable with
  | start => exact .operator .none (.sign ⟨known.1, fits⟩)
  | opening nested => exact .operator nested (.sign ⟨known.1, fits⟩)
  | operator => cases fits
  | complete complete nested begun operand =>
      rw [List.append_assoc, List.append_assoc, ← List.append_assoc _ _ [token]]
      exact .operator nested (.operator known (begun.derives_append operand))

/-- One more token continues what has been read, if nothing is wrong with it. -/
theorem next {scan next : ArithmeticScan} (viable : Viable scan.depth scan.preceding tokens)
    (step : scan.next? token = some next) (sound : next.sound = true)
    (uncrossed : next.crossed = false) : Viable next.depth next.preceding (tokens ++ [token]) := by
  rcases ArithmeticScan.next?_cases step with
    ⟨category, incomplete, rfl⟩ | ⟨opening, incomplete, rfl⟩ | ⟨closing, rfl⟩ | ⟨known, rfl⟩ | rfl
  · exact viable.operand incomplete category
  · exact viable.opens incomplete opening
  · have inside : scan.depth ≠ 0 := by
      simpa using (Bool.or_eq_false_iff.mp uncrossed).2
    obtain ⟨depth, depth_eq⟩ := Nat.exists_eq_succ_of_ne_zero inside
    rw [depth_eq] at viable
    have closed := viable.closes (Bool.and_eq_true_iff.mp sound).2 closing
    simpa only [ArithmeticScan.close, depth_eq, Nat.succ_sub_one] using closed
  · exact viable.operates known (of_decide_eq_true (Bool.and_eq_true_iff.mp sound).2)
  · cases sound

/-- What is accepted is an expression. -/
theorem derives_of_accepted {scan : ArithmeticScan}
    (viable : Viable scan.depth scan.preceding tokens) (accepted : scan.accepted = true) :
    Derives .expression tokens := by
  obtain ⟨preceding, depth, crossed, sound⟩ := scan
  simp only [ArithmeticScan.accepted, Bool.and_eq_true, beq_iff_eq] at accepted
  obtain ⟨⟨_, rfl⟩, may⟩ := accepted
  cases viable with
  | start => cases may
  | operator => cases may
  | complete _ nested begun operand =>
      cases nested
      exact begun.derives_append operand

end Viable

/-- What the scan has read is viable, unless something is wrong with it. -/
theorem exists_viable_run {scan : ArithmeticScan} {before : List Token}
    (viable : scan.sound = true → scan.crossed = false →
      Viable scan.depth scan.preceding before) (tokens : List Token) :
    ∃ read, tokens = read ++ (scan.run tokens).2 ∧
      ((scan.run tokens).1.sound = true → (scan.run tokens).1.crossed = false →
        Viable (scan.run tokens).1.depth (scan.run tokens).1.preceding (before ++ read)) := by
  induction tokens generalizing scan before with
  | nil => exact ⟨[], rfl, by simpa [ArithmeticScan.run] using viable⟩
  | cons token rest ih =>
      rw [ArithmeticScan.run]
      split
      · exact ⟨[], rfl, by simpa using viable⟩
      · next next step =>
        obtain ⟨sound, uncrossed⟩ := ArithmeticScan.of_next? step
        have further (isSound : next.sound = true) (isUncrossed : next.crossed = false) :
            Viable next.depth next.preceding (before ++ [token]) :=
          (viable (sound isSound) (uncrossed isUncrossed)).next step isSound isUncrossed
        obtain ⟨read, rest_eq, ends⟩ := ih further
        refine ⟨token :: read, by rw [List.cons_append, ← rest_eq], ?_⟩
        rwa [List.append_cons]

/-! ## What is generated is accepted -/

/-- The scan takes an operand at the place of one, and an expression at the
beginning or after a parenthesis. -/
def Level.fits : Level → Preceding → Prop
  | .expression, preceding => preceding = .start ∨ preceding = .opening
  | _, preceding => preceding.complete = false

/-- An expression is read as one operand. -/
theorem Derives.exists_completes {level : Level} {tokens : List Token}
    (derives : Derives level tokens) (scan : ArithmeticScan) (fits : level.fits scan.preceding)
    (rest : List Token) :
    ∃ after, scan.run (tokens ++ rest) = after.run rest ∧ Completes scan after ∧
      after.sound = scan.sound := by
  induction derives generalizing scan rest with
  | operand category =>
      refine ⟨{ scan with preceding := .operand }, ?_, ⟨rfl, rfl, rfl⟩, rfl⟩
      have incomplete : scan.preceding.complete = false := fits
      rcases category with category | category <;>
        simp [ArithmeticScan.run, ArithmeticScan.next?, category, incomplete]
  | @group opening closing inner opens closes _ ih =>
      obtain ⟨after, read, ⟨complete, depth_eq, crossed_eq⟩, sound_eq⟩ :=
        ih { scan with preceding := .opening, depth := scan.depth + 1 } (.inr rfl)
          (closing :: rest)
      have depth_eq : after.depth = scan.depth + 1 := depth_eq
      have may : after.preceding.mayClose = true := by
        cases preceding : after.preceding <;> simp_all [Preceding.complete, Preceding.mayClose]
      refine ⟨after.close, ?_, ⟨rfl, ?_, ?_⟩, ?_⟩
      · rw [List.append_assoc, List.cons_append, ArithmeticScan.run,
          ArithmeticScan.next?_of_isSymbol_opening opens fits]
        simp only [List.singleton_append]
        rw [read, ArithmeticScan.run, ArithmeticScan.next?_of_isSymbol_closing closes]
      · simp [ArithmeticScan.close, depth_eq]
      · simp [ArithmeticScan.close, depth_eq, crossed_eq]
      · simp [ArithmeticScan.close, may, sound_eq]
  | single _ ih => exact ih scan fits rest
  | @binary operator left right known _ _ ihLeft ihRight =>
      obtain ⟨middle, readLeft, completesLeft, soundLeft⟩ :=
        ihLeft scan fits (operator :: (right ++ rest))
      obtain ⟨after, readRight, completesRight, soundRight⟩ :=
        ihRight (middle.operate operator) rfl rest
      have may : MayOperate operator.value middle.preceding := by
        have complete := completesLeft.complete
        cases preceding : middle.preceding <;> simp_all [Preceding.complete, MayOperate, known.2]
      refine ⟨after, ?_, ⟨completesRight.complete, ?_, ?_⟩, ?_⟩
      · rw [List.append_assoc, List.cons_append, readLeft, ArithmeticScan.run,
          ArithmeticScan.next?_of_operator known]
        exact readRight
      · exact completesRight.depth_eq.trans completesLeft.depth_eq
      · exact completesRight.crossed_eq.trans completesLeft.crossed_eq
      · rw [soundRight, ArithmeticScan.operate]
        simp [may, soundLeft]
  | unsigned _ ih =>
      refine ih scan ?_ rest
      rcases fits with fits | fits <;>
      · rw [fits]
        rfl
  | @signed sign tokens known _ ih =>
      obtain ⟨after, read, completes, sound⟩ := ih (scan.operate sign) rfl rest
      have may : MayOperate sign.value scan.preceding := by
        rcases fits with fits | fits <;>
        · rw [fits]
          exact known.2
      refine ⟨after, ?_, ⟨completes.complete, completes.depth_eq, completes.crossed_eq⟩, ?_⟩
      · rw [List.cons_append, ArithmeticScan.run,
          ArithmeticScan.next?_of_operator ⟨known.1, List.mem_append_left _ known.2⟩]
        exact read
      · rw [sound, ArithmeticScan.operate]
        simp [may]

end Arithmetic

namespace Analysis

open Arithmetic

/-- An arithmetic expression is accepted exactly if the tokens that were read of
it are generated by the grammar. And an expression of the grammar is read to its
end and no further, without a report, if what follows is no symbol, a period or
an opening parenthesis. -/
theorem arithmetic_iff_derives (state : State) (ended : state.sentinel.isEof = true) :
    (∃ read, state.ahead = read ++ (arithmetic state).2.ahead ∧
      ((arithmetic state).1 = true ↔ Derives .expression read)) ∧
    ∀ tokens rest, state.ahead = tokens ++ rest → Derives .expression tokens →
      (∀ token ∈ rest.head?, token.category = .symbol → token.value = "." ∨ token.value = "(") →
      (arithmetic state).1 = true ∧ (arithmetic state).2.ahead = rest ∧
        (arithmetic state).2.reports = state.reports := by
  obtain ⟨verdict, left, quiet⟩ := arithmetic_of_loop state
  obtain ⟨ran, silent⟩ := loop_readArithmetic ended {}
  constructor
  · have begun : ({} : ArithmeticScan).sound = true → ({} : ArithmeticScan).crossed = false →
        Viable ({} : ArithmeticScan).depth ({} : ArithmeticScan).preceding [] :=
      fun _ _ => .start
    obtain ⟨read, split, viable⟩ := exists_viable_run begun state.ahead
    rw [ran] at split viable
    refine ⟨read, by rw [left]; exact split, ?_⟩
    rw [verdict]
    constructor
    · intro accepted
      have flawless := accepted
      simp only [ArithmeticScan.accepted, Bool.and_eq_true, Bool.not_eq_true'] at flawless
      exact (viable flawless.1.1.1 flawless.1.1.2).derives_of_accepted accepted
    · intro derives
      obtain ⟨after, reads, completes, sound⟩ := derives.exists_completes {} (.inl rfl)
        (loop readArithmetic {} state).2.ahead
      rw [← split, ran] at reads
      have stays := ArithmeticScan.run_fst_of_run_snd (congrArg Prod.snd reads).symm
      rw [← reads] at stays
      dsimp only at stays
      rw [stays]
      exact accepted_of_completes completes sound
  · intro tokens rest split derives following
    obtain ⟨after, reads, completes, sound⟩ := derives.exists_completes {} (.inl rfl) rest
    have stops : after.run rest = (after, rest) := by
      cases rest with
      | nil => rfl
      | cons token rest =>
          rw [ArithmeticScan.run, ArithmeticScan.next?_eq_none completes.complete (following token rfl)]
    rw [← split, ran, stops] at reads
    obtain ⟨scan_eq, rest_eq⟩ := Prod.mk.inj reads
    have accepted : (arithmetic state).1 = true := by
      rw [verdict, scan_eq]
      exact accepted_of_completes completes sound
    refine ⟨accepted, left.trans rest_eq, (quiet accepted).trans (silent ?_)⟩
    rw [scan_eq]
    exact sound

/-- The right side of a COMPUTE statement, up to the statement after it. -/
def computedSource : String :=
  "- A * (B + 3) ** C DISPLAY D."

/-- The expression ends before the word DISPLAY, and it is one of the grammar. -/
theorem arithmetic_iff_derives_computedSource :
    (arithmetic (State.initial (Source.tokenize computedSource) .empty)).1 = true ∧
      Derives .expression ((Source.tokenize computedSource).take 10) := by
  let state := State.initial (Source.tokenize computedSource) .empty
  have accepted : (arithmetic state).1 = true := by decide +kernel
  have left : (arithmetic state).2.ahead = (Source.tokenize computedSource).drop 10 := by
    decide +kernel
  obtain ⟨⟨read, split, derives⟩, _⟩ := arithmetic_iff_derives state (by decide +kernel)
  have read_eq : read = (Source.tokenize computedSource).take 10 := by
    have whole : read ++ (Source.tokenize computedSource).drop 10 =
        (Source.tokenize computedSource).take 10 ++ (Source.tokenize computedSource).drop 10 := by
      rw [List.take_append_drop, ← left, ← split]
      rfl
    exact List.append_cancel_right whole
  exact ⟨accepted, read_eq ▸ derives.mp accepted⟩

end Analysis

end CobolCheck