import CobolCheck.Proofs.Expression.Arithmetic

/-!
# The scan of an arithmetic expression

An arithmetic expression is read by a scan that remembers the last token and
how many parentheses are open. The scan looks at one token after the other, so
it is followed here on the tokens alone, by `ArithmeticScan.run`, and whether an
expression is accepted is told by where the scan ends.
-/

namespace CobolCheck

open Grammar Analysis

namespace Arithmetic

/-- Whether a token is a given symbol. -/
def IsSymbol (symbol : String) (token : Token) : Prop :=
  token.category = .symbol ∧ token.value = symbol

/-- Whether a token is one of some symbols. -/
def IsOneOf (symbols : List String) (token : Token) : Prop :=
  token.category = .symbol ∧ token.value ∈ symbols

end Arithmetic

open Arithmetic

/-! ## The scan on tokens -/

/-- Whether nothing is reported of a closing parenthesis at this place. -/
def Preceding.mayClose : Preceding → Bool
  | opening => false
  | operator (some _) => false
  | _ => true

/-- Whether nothing is reported of the end of an expression at this place. -/
def Preceding.mayEnd : Preceding → Bool
  | start => false
  | operator (some _) => false
  | _ => true

instance (operator : String) (preceding : Preceding) : Decidable (MayOperate operator preceding) :=
  match preceding with
  | .operator _ => inferInstanceAs (Decidable False)
  | .start | .opening => inferInstanceAs (Decidable (operator ∈ signs))
  | .operand | .closing => inferInstanceAs (Decidable (operator ∈ arithmeticOperators))

namespace ArithmeticScan

/-- How far an expression has been read after a closing parenthesis. -/
def close (scan : ArithmeticScan) : ArithmeticScan where
  preceding := .closing
  depth := scan.depth - 1
  crossed := scan.crossed || scan.depth == 0
  sound := scan.sound && scan.preceding.mayClose

/-- How far an expression has been read after an operator. -/
def operate (scan : ArithmeticScan) (token : Token) : ArithmeticScan :=
  { scan with
    preceding := .operator (some token)
    sound := scan.sound && decide (MayOperate token.value scan.preceding) }

/-- How far an expression has been read after one more token, unless it ends before that. -/
def next? (scan : ArithmeticScan) (token : Token) : Option ArithmeticScan :=
  match token.category with
  | .identifier | .numeric =>
      if scan.preceding.complete then none else some { scan with preceding := .operand }
  | .symbol =>
      if token.is "(" then
        if scan.preceding.complete then none
        else some { scan with preceding := .opening, depth := scan.depth + 1 }
      else if token.is ")" then some scan.close
      else if isArithmeticOperator token.value then some (scan.operate token)
      else if token.is "." then none
      else some { scan with preceding := .operator none, sound := false }
  | _ => none

/-- Reads tokens until the expression ends, and gives what is left. -/
def run (scan : ArithmeticScan) : List Token → ArithmeticScan × List Token
  | [] => (scan, [])
  | token :: rest =>
      match scan.next? token with
      | none => (scan, token :: rest)
      | some next => next.run rest

/-- Whether an expression that ends here is accepted. -/
def accepted (scan : ArithmeticScan) : Bool :=
  scan.sound && !scan.crossed && scan.depth == 0 && scan.preceding.mayEnd

variable {scan next : ArithmeticScan} {token : Token} {tokens : List Token}

/-- What one more token makes of an expression, by the kind of the token. -/
theorem next?_cases (step : scan.next? token = some next) :
    ((token.category = .identifier ∨ token.category = .numeric) ∧
        scan.preceding.complete = false ∧ next = { scan with preceding := .operand }) ∨
      (IsSymbol "(" token ∧ scan.preceding.complete = false ∧
        next = { scan with preceding := .opening, depth := scan.depth + 1 }) ∨
      (IsSymbol ")" token ∧ next = scan.close) ∨
      (IsOneOf arithmeticOperators token ∧ next = scan.operate token) ∨
      next = { scan with preceding := .operator none, sound := false } := by
  unfold next? at step
  split at step
  · next category =>
    split at step
    · cases step
    · next incomplete =>
      cases step
      exact .inl ⟨.inl category, Bool.eq_false_iff.mpr incomplete, rfl⟩
  · next category =>
    split at step
    · cases step
    · next incomplete =>
      cases step
      exact .inl ⟨.inr category, Bool.eq_false_iff.mpr incomplete, rfl⟩
  · next category =>
    split at step
    · next opening =>
      split at step
      · cases step
      · next incomplete =>
        cases step
        exact .inr (.inl ⟨⟨category, beq_iff_eq.mp opening⟩, Bool.eq_false_iff.mpr incomplete, rfl⟩)
    · split at step
      · next closing =>
        cases step
        exact .inr (.inr (.inl ⟨⟨category, beq_iff_eq.mp closing⟩, rfl⟩))
      · split at step
        · next operator =>
          cases step
          have known : token.value ∈ arithmeticOperators := by
            simpa [isArithmeticOperator, arithmeticOperators, signs] using operator
          exact .inr (.inr (.inr (.inl ⟨⟨category, known⟩, rfl⟩)))
        · split at step
          · cases step
          · cases step
            exact .inr (.inr (.inr (.inr rfl)))
  · cases step

/-- What is wrong with an expression remains wrong. -/
theorem of_next? (step : scan.next? token = some next) :
    (next.sound = true → scan.sound = true) ∧ (next.crossed = false → scan.crossed = false) := by
  rcases next?_cases step with
    ⟨_, _, rfl⟩ | ⟨_, _, rfl⟩ | ⟨_, rfl⟩ | ⟨_, rfl⟩ | rfl
  · exact ⟨id, id⟩
  · exact ⟨id, id⟩
  · exact ⟨fun sound => (Bool.and_eq_true_iff.mp sound).1,
      fun uncrossed => (Bool.or_eq_false_iff.mp uncrossed).1⟩
  · exact ⟨fun sound => (Bool.and_eq_true_iff.mp sound).1, id⟩
  · exact ⟨Bool.noConfusion, id⟩

theorem run_suffix (scan : ArithmeticScan) (tokens : List Token) :
    (scan.run tokens).2 <:+ tokens := by
  induction tokens generalizing scan with
  | nil => exact List.suffix_rfl
  | cons token rest ih =>
      unfold run
      split
      · exact List.suffix_rfl
      · next next _ => exact (ih next).trans (List.suffix_cons token rest)

theorem sound_of_run (sound : (scan.run tokens).1.sound = true) : scan.sound = true := by
  induction tokens generalizing scan with
  | nil => exact sound
  | cons token rest ih =>
      unfold run at sound
      split at sound
      · exact sound
      · next next step => exact (of_next? step).1 (ih sound)

/-! ## Single tokens -/

theorem next?_of_isSymbol_opening
    (opening : IsSymbol "(" token) (incomplete : scan.preceding.complete = false) :
    scan.next? token = some { scan with preceding := .opening, depth := scan.depth + 1 } := by
  obtain ⟨category, value⟩ := opening
  simp [next?, category, Token.is, value, incomplete]

theorem next?_of_isSymbol_closing
    (closing : IsSymbol ")" token) : scan.next? token = some scan.close := by
  obtain ⟨category, value⟩ := closing
  simp [next?, category, Token.is, value]

theorem next?_of_operator
    (known : IsOneOf arithmeticOperators token) :
    scan.next? token = some (scan.operate token) := by
  obtain ⟨category, listed⟩ := known
  have others : ∀ operator ∈ arithmeticOperators,
      operator ≠ "(" ∧ operator ≠ ")" ∧ isArithmeticOperator operator = true := by
    decide
  obtain ⟨no_opening, no_closing, operator⟩ := others _ listed
  simp [next?, category, Token.is, no_opening, no_closing, operator]

/-- A complete expression ends before every token that is no symbol, before a
period and before an opening parenthesis. -/
theorem next?_eq_none
    (complete : scan.preceding.complete = true)
    (other : token.category = .symbol → token.value = "." ∨ token.value = "(") :
    scan.next? token = none := by
  unfold next?
  split
  · rw [if_pos complete]
  · rw [if_pos complete]
  · next category =>
    rcases other category with value | value
    · simp [Token.is, value, isArithmeticOperator]
    · simp [Token.is, value, complete]
  · rfl

/-- A scan that leaves all tokens has read none. -/
theorem run_fst_of_run_snd
    (left : (scan.run tokens).2 = tokens) : (scan.run tokens).1 = scan := by
  cases tokens with
  | nil => rfl
  | cons token rest =>
      rw [run] at left ⊢
      split
      · rfl
      · next next step =>
        rw [step] at left
        have shorter := (run_suffix next rest).length_le
        rw [left, List.length_cons] at shorter
        omega
end ArithmeticScan

/-! ## The scan on a state -/

namespace Analysis

variable {scan next : ArithmeticScan} {state : State}

/-- One token is passed, with one report at most, and with none if it is sound. -/
structure Takes (sound : Bool) (before after : State) : Prop where
  ahead_eq : after.ahead = before.ahead.tail
  sentinel_eq : after.sentinel = before.sentinel
  reports_le : after.reports.length ≤ before.reports.length + 1
  reports_eq : sound = true → after.reports = before.reports

/-- A token is passed in the same way after a report, if it is unsound. -/
theorem takes_of_report (token : Token) (cause : Cause) {before after : State}
    (takes : Takes true (before.report token cause) after) : Takes false before after where
  ahead_eq := takes.ahead_eq
  sentinel_eq := takes.sentinel_eq
  reports_le := by
    rw [takes.reports_eq rfl]
    exact Nat.le_refl _
  reports_eq := Bool.noConfusion

theorem Takes.mono {sound sounder : Bool} {before after : State}
    (takes : Takes sound before after) (implies : sounder = true → sound = true) :
    Takes sounder before after :=
  { takes with reports_eq := fun holds => takes.reports_eq (implies holds) }

theorem takes_skip (state : State) : Takes true state state.skip where
  ahead_eq := state.ahead_skip
  sentinel_eq := state.still_skip.sentinel_eq
  reports_le := by
    rw [state.reports_skip]
    exact Nat.le_succ _
  reports_eq _ := state.reports_skip

theorem takes_accept (state : State) : Takes true state (state.emit state.current).skip where
  ahead_eq := (state.emit state.current).ahead_skip
  sentinel_eq := (state.emit state.current).still_skip.sentinel_eq
  reports_le := (takes_skip (state.emit state.current)).reports_le
  reports_eq _ := (state.emit state.current).reports_skip

/-- What is passed after a report. -/
theorem takes_accept_of_report (token : Token) (problem : Problem) (state : State) :
    Takes false state
      ((state.report token (.general problem)).emit
        (state.report token (.general problem)).current).skip :=
  takes_of_report token _ (takes_accept _)

theorem takes_closeParenthesis (token : Token) (scan : ArithmeticScan) (state : State) :
    ∃ after, closeParenthesis token scan state = (scan.close, after) ∧
      Takes scan.close.sound state after := by
  obtain ⟨preceding, depth, crossed, sound⟩ := scan
  have quiet (sound : Bool) : Takes sound state (state.emit state.current).skip :=
    (takes_accept state).mono fun _ => rfl
  have heard (token : Token) (problem : Problem) := takes_accept_of_report token problem state
  cases sound <;> rcases preceding with _ | _ | (_ | operator) | _ | _
  all_goals first
    | exact ⟨_, rfl, quiet _⟩
    | exact ⟨_, rfl, heard _ _⟩

theorem takes_readOperator {token : Token} (known : isArithmeticOperator token.value = true)
    (scan : ArithmeticScan) (state : State) :
    ∃ after, readOperator token scan state = (scan.operate token, after) ∧
      Takes (scan.operate token).sound state after := by
  by_cases fits : MayOperate token.value scan.preceding
  · have quiet : Takes (scan.operate token).sound state (state.emit state.current).skip :=
      (takes_accept state).mono fun _ => rfl
    rw [readOperator_eq fits]
    refine ⟨_, ?_, quiet⟩
    simp only [ArithmeticScan.operate, fits, decide_true, Bool.and_true]
    rfl
  · have unsound : scan.operate token =
        { scan with preceding := .operator (some token), sound := false } := by
      simp [ArithmeticScan.operate, fits]
    rw [unsound]
    obtain ⟨preceding, depth, crossed, sound⟩ := scan
    have listed : token.value ∈ arithmeticOperators := by
      simpa [isArithmeticOperator, arithmeticOperators, signs] using known
    cases preceding with
    | operator => exact ⟨_, rfl, takes_accept_of_report _ _ _⟩
    | operand | closing => exact absurd listed fits
    | start | opening =>
        have leads : (!(token.is "+" || token.is "-")) = true := by
          simpa [MayOperate, signs, Token.is] using fits
        simp only [readOperator, leads, if_true]
        exact ⟨_, rfl, takes_accept_of_report _ _ _⟩

/-- Where an expression ends, the scan stays. -/
theorem readArithmetic_of_none (ends : scan.next? state.current = none) :
    readArithmetic scan state = (none, state) := by
  unfold ArithmeticScan.next? at ends
  unfold readArithmetic
  rw [run_bind, run_current]
  dsimp only
  split at ends
  · simp_all
  · simp_all
  · next category =>
    rw [category]
    dsimp only
    split at ends
    · simp_all
    · next no_opening =>
      split at ends
      · cases ends
      · next no_closing =>
        split at ends
        · cases ends
        · next no_operator =>
          split at ends
          · next period => simp [no_opening, no_closing, no_operator, period]
          · cases ends
  · next neither_identifier neither_numeral neither_symbol => simp_all

/-- A step of the scan passes one token. -/
theorem readArithmetic_of_some (step : scan.next? state.current = some next) :
    ∃ after, readArithmetic scan state = (some next, after) ∧ Takes next.sound state after := by
  have accepts (sound : Bool) : Takes sound state (state.emit state.current).skip :=
    (takes_accept state).mono fun _ => rfl
  unfold ArithmeticScan.next? at step
  unfold readArithmetic
  rw [run_bind, run_current]
  dsimp only
  split at step
  · next category =>
    rw [category]
    split at step
    · cases step
    · next incomplete =>
      cases step
      exact ⟨_, by simp only [incomplete]; rfl, accepts _⟩
  · next category =>
    rw [category]
    split at step
    · cases step
    · next incomplete =>
      cases step
      exact ⟨_, by simp only [incomplete]; rfl, accepts _⟩
  · next category =>
    rw [category]
    dsimp only
    split at step
    · next opening =>
      split at step
      · cases step
      · next incomplete =>
        cases step
        exact ⟨_, by simp only [opening, incomplete]; rfl, accepts _⟩
    · next no_opening =>
      split at step
      · next closing =>
        cases step
        obtain ⟨after, ran, takes⟩ := takes_closeParenthesis state.current scan state
        refine ⟨after, ?_, takes⟩
        rw [if_neg no_opening, if_pos closing, run_bind, ran]
        rfl
      · next no_closing =>
        split at step
        · next operator =>
          cases step
          obtain ⟨after, ran, takes⟩ := takes_readOperator operator scan state
          refine ⟨after, ?_, takes⟩
          rw [if_neg no_opening, if_neg no_closing, if_pos operator, run_bind, ran]
          rfl
        · next no_operator =>
          split at step
          · cases step
          · next no_period =>
            cases step
            simp only [no_opening, no_closing, no_operator, no_period]
            exact ⟨_, rfl, takes_of_report _ _ (takes_skip _)⟩
  · cases step
/-- An expression ends at the end of the input. -/
theorem next?_of_finished (ended : state.sentinel.isEof = true) (finished : state.ahead = []) :
    scan.next? state.current = none := by
  rw [State.current_of_ahead_nil finished, ArithmeticScan.next?,
    (Token.isEof_eq_true_iff _).mp ended]

/-- The scan reads what it reads on the tokens alone. -/
theorem loop_readArithmetic (ended : state.sentinel.isEof = true) (scan : ArithmeticScan) :
    scan.run state.ahead =
        ((loop readArithmetic scan state).1, (loop readArithmetic scan state).2.ahead) ∧
      ((loop readArithmetic scan state).1.sound = true →
        (loop readArithmetic scan state).2.reports = state.reports) := by
  induction ahead : state.ahead generalizing scan state with
  | nil =>
      rw [loop_eq, readArithmetic_of_none (next?_of_finished ended ahead)]
      exact ⟨by rw [ahead]; rfl, fun _ => rfl⟩
  | cons token rest ih =>
      have first := State.current_of_ahead_cons ahead
      rw [loop_eq, ArithmeticScan.run]
      cases step : scan.next? token with
      | none =>
          rw [readArithmetic_of_none (by rw [first, step])]
          exact ⟨by rw [ahead], fun _ => rfl⟩
      | some next =>
          obtain ⟨after, ran, takes⟩ := readArithmetic_of_some (by rw [first, step])
          have rest_eq : after.ahead = rest := by rw [takes.ahead_eq, ahead, List.tail_cons]
          have moved : remaining after < remaining state := by
            rw [remaining, remaining, rest_eq, ahead, List.length_cons]
            exact Nat.lt_succ_self _
          obtain ⟨read, quiet⟩ := ih (by rw [takes.sentinel_eq, ended]) next rest_eq
          rw [ran]
          simp only [if_pos moved]
          refine ⟨read, fun sound => (quiet sound).trans (takes.reports_eq ?_)⟩
          have whole : (next.run rest).1.sound = true := by rwa [read]
          exact ArithmeticScan.sound_of_run whole

/-- What an expression is worth is seen from the scan when it ends. -/
theorem arithmetic_of_loop (state : State) :
    (arithmetic state).1 = (loop readArithmetic {} state).1.accepted ∧
      (arithmetic state).2.ahead = (loop readArithmetic {} state).2.ahead ∧
      ((arithmetic state).1 = true →
        (arithmetic state).2.reports = (loop readArithmetic {} state).2.reports) := by
  unfold arithmetic
  simp only [run_bind, run_current]
  obtain ⟨⟨preceding, depth, crossed, sound⟩, after⟩ := loop readArithmetic {} state
  cases sound <;> cases crossed <;> cases depth <;>
    rcases preceding with _ | _ | (_ | operator) | _ | _ <;>
    first
      | exact ⟨rfl, rfl, fun _ => rfl⟩
      | exact ⟨rfl, rfl, Bool.noConfusion⟩

/-- What is read as one operand is accepted. -/
theorem accepted_of_completes {after : ArithmeticScan} (completes : Completes {} after)
    (sound : after.sound = true) : after.accepted = true := by
  obtain ⟨complete, depth_eq, crossed_eq⟩ := completes
  have may : after.preceding.mayEnd = true := by
    cases preceding : after.preceding <;> simp_all [Preceding.complete, Preceding.mayEnd]
  simp [ArithmeticScan.accepted, sound, depth_eq, crossed_eq, may]

end Analysis

end CobolCheck
