import Mathlib.Data.List.Chain
import CobolCheck.Proofs.Analysis.Forked
import CobolCheck.Proofs.Division.Coupled
import CobolCheck.Proofs.Statement.Reread
import CobolCheck.Proofs.Statement.Skipped

/-!
# Sentences that lack their period

Where a sentence should end but its period is missing, that is reported once. What
comes before the next period is passed over, and so is the period. From there on the
analysis goes on as if the sentence had been well-formed: the two runs differ in one
report, and in what they have passed, which nobody looks at any more.
-/

namespace CobolCheck

open Analysis State

/-! ## Passing over unexpected tokens -/

/-- Whether there is nothing among some tokens at which the analysis resumes after a
broken sentence. -/
structure Unexpected (tokens : List Token) : Prop where
  context : ∀ token ∈ tokens, token.context ≠ .statement
  category : ∀ token ∈ tokens, token.category ≠ .eof
  value : ∀ token ∈ tokens,
    token.value ∉ [".", "IDENTIFICATION", "PROGRAM-ID", "FUNCTION-ID"]
  unended : tokens.IsChain fun token next =>
    token.value = "END" → next.value ∉ ["PROGRAM", "FUNCTION"]

namespace Unexpected

variable {token period : Token} {tokens rest : List Token}

theorem tail (unexpected : Unexpected (token :: tokens)) : Unexpected tokens where
  context other member := unexpected.context other (List.mem_cons_of_mem _ member)
  category other member := unexpected.category other (List.mem_cons_of_mem _ member)
  value other member := unexpected.value other (List.mem_cons_of_mem _ member)
  unended := unexpected.unended.tail

/-- The word END does not begin the END marker of a unit, also where the period comes next. -/
theorem lookahead_value (unexpected : Unexpected (token :: tokens))
    (ends : period.value = ".") {state : State}
    (ahead_eq : state.ahead = token :: tokens ++ period :: rest) (isEnd : token.value = "END") :
    (state.lookahead 1).value ∉ ["PROGRAM", "FUNCTION"] := by
  rw [lookahead, ahead_eq]
  cases tokens with
  | nil =>
      rw [List.cons_append, List.getElem?_cons_succ, List.nil_append, List.getElem?_cons_zero,
        Option.getD_some, ends]
      decide
  | cons next tokens => exact (List.isChain_cons_cons.mp unexpected.unended).1 isEnd

/-- The analysis does not resume before a period. -/
theorem holds_eq_false (unexpected : Unexpected (token :: tokens)) (ends : period.value = ".")
    {state : State} (ahead_eq : state.ahead = token :: tokens ++ period :: rest) :
    (Test.or sentenceBreak (.is ".")).holds state = false := by
  have here : state.current = token := current_of_ahead_cons ahead_eq
  have context := unexpected.context token List.mem_cons_self
  have category := unexpected.category token List.mem_cons_self
  have value := unexpected.value token List.mem_cons_self
  have follows := unexpected.lookahead_value ends ahead_eq
  simp only [List.mem_cons, List.not_mem_nil, or_false, not_or] at value
  have notUnitEnd : Test.unitEnd.holds state = false := by
    rw [Test.unitEnd, Test.holds_and, Bool.and_eq_false_iff, ← Bool.not_eq_true,
      Test.holds_is_iff, here, ← Bool.not_eq_true, Test.holds_word_iff]
    exact (Classical.em (token.value = "END")).symm.imp id follows
  rw [sentenceBreak, Test.holds_or, Test.holds_or, Test.holds_or, Test.holds_or, notUnitEnd]
  simp only [Test.eof, Test.has, Test.statement, Test.unitStart, Test.isAny, Test.is, Test.holds,
    State.current] at here ⊢
  simp [here, context, category, value]

/-- Unexpected tokens are passed over up to the period that comes next. -/
theorem run_skipped (unexpected : Unexpected tokens) (ends : period.value = ".") {state : State}
    (ahead_eq : state.ahead = tokens ++ period :: rest) :
    whilst (.not (.or sentenceBreak (.is "."))) Analysis.skip state =
      ((), state.pass tokens) := by
  induction tokens generalizing state with
  | nil =>
      have here : (Test.is ".").holds state = true := by
        rw [Test.holds_is_iff, current_of_ahead_cons ahead_eq, ends]
      rw [whilst_eq, Test.holds_not, Test.holds_or, here, Bool.or_true]
      rfl
  | cons token tokens ih =>
      have next : state.skip.ahead = tokens ++ period :: rest := by
        rw [ahead_skip, ahead_eq]
        rfl
      have moved : remaining state.skip < remaining state := by
        rw [remaining, remaining, next, ahead_eq]
        exact Nat.lt_succ_self _
      rw [whilst_eq, Test.holds_not, unexpected.holds_eq_false ends ahead_eq]
      exact (if_pos moved).trans (ih unexpected.tail next)

/-- The analysis resumes behind the period. -/
theorem run_resumeAfterSentence (unexpected : Unexpected tokens)
    (marks : Landmark.period.Marks period) {state : State}
    (ahead_eq : state.ahead = tokens ++ period :: rest) :
    resumeAfterSentence state = ((), ((state.pass tokens).emit period).skip) := by
  have passed := ahead_pass ahead_eq
  have here : (state.pass tokens).current = period := current_of_ahead_cons passed
  have goes : sentenceBreak.holds (state.pass tokens) = false := by
    simp only [sentenceBreak, Test.eof, Test.has, Test.statement, Test.unitStart, Test.isAny,
      Test.unitEnd, Test.is, Test.holds, State.current] at here ⊢
    simp [here, marks.1, marks.2.1, marks.2.2, Landmark.period]
  rw [resumeAfterSentence, run_bind, unexpected.run_skipped marks.1 ahead_eq, run_bind, run_ask,
    run_ite, goes]
  change ((), ((state.pass tokens).emit (state.pass tokens).current).skip) = _
  rw [here]

end Unexpected

/-! ## Going on alike -/

/-- What came of a sentence that is not as it should be: what was reported of it, and what
had been accepted when it was over, where the sentence is whole and where it is broken. -/
structure Loss where
  report : Report
  whole : List Token
  broken : List Token

/-- Whether two states are at the same place behind a sentence that is whole in one text and
broken in the other. What was reported and accepted since is the same. There are no more tokens
ahead than a bound. -/
structure State.Resumes (loss : Loss) (bound : Nat) (first second : State) : Prop where
  ahead : second.ahead = first.ahead
  sentinel : second.sentinel = first.sentinel
  previous : second.behind.head? = first.behind.head?
  output : ∃ later, first.output = later ++ loss.whole ∧ second.output = later ++ loss.broken
  reports : second.reports = first.reports ++ [loss.report]
  unit : second.unit = first.unit
  table : second.table = first.table
  remaining_le : remaining first ≤ bound

variable {loss : Loss} {bound : Nat} {first second : State}

theorem State.Resumes.lookahead (resumes : Resumes loss bound first second) (offset : Nat) :
    second.lookahead offset = first.lookahead offset := by
  rw [State.lookahead, State.lookahead, resumes.ahead, resumes.sentinel]

theorem State.Resumes.skip (resumes : Resumes loss bound first second) :
    Resumes loss bound first.skip second.skip := by
  cases next : first.ahead with
  | nil =>
      rw [skip_of_ahead_nil next, skip_of_ahead_nil (resumes.ahead.trans next)]
      exact resumes
  | cons token rest =>
      have fewer : remaining first.skip ≤ remaining first := (later_skip first).shrinks
      rw [skip_of_ahead_cons next] at fewer ⊢
      rw [skip_of_ahead_cons (resumes.ahead.trans next)]
      exact ⟨rfl, resumes.sentinel, rfl, resumes.output, resumes.reports, resumes.unit,
        resumes.table, Nat.le_trans fewer resumes.remaining_le⟩

/-- Runs that are at the same place agree. -/
theorem coupledUnits_resumes (loss : Loss) (bound : Nat) :
    CoupledUnits 0 (Resumes loss bound) where
  lookahead resumes _ := resumes.lookahead _
  reading afterOperand resumes := by
    rw [Analysis.reading, Analysis.reading, State.current, State.current, resumes.lookahead,
      resumes.ahead]
  previous resumes := by
    rw [previous, previous, resumes.previous, State.current, State.current, resumes.lookahead]
  moved resumes further := by
    rw [remaining, remaining, remaining, remaining, resumes.ahead, further.ahead]
  skip resumes _ := resumes.skip
  emit token resumes :=
    have ⟨later, whole, broken⟩ := resumes.output
    { resumes with
      output := ⟨token :: later, congrArg (token :: ·) whole, congrArg (token :: ·) broken⟩ }
  report token cause resumes :=
    { resumes with reports := congrArg (Report.mk token cause :: ·) resumes.reports }
  nest _ _ _ _ resumes := { resumes with }
  unit resumes := resumes.unit
  table resumes := resumes.table
  withUnit unit resumes := { resumes with unit := rfl }
  withTable table resumes := { resumes with table := rfl }

/-! ## The end of the sentence -/

variable {token period : Token} {tokens rest : List Token}

theorem run_sentenceEnd_of_period (marks : Landmark.period.Marks period) {state : State}
    (ahead_eq : state.ahead = period :: rest) :
    sentenceEnd state = ((), (state.emit period).skip) := by
  have here : state.current = period := current_of_ahead_cons ahead_eq
  have plain : Test.statement.holds state = false := by
    rw [Test.statement, Test.holds, here, marks.2.2]
    rfl
  have ends : (Test.is ".").holds state = true := by
    rw [Test.holds_is_iff, here]
    exact marks.1
  rw [sentenceEnd, run_bind, run_ask, run_ite, plain, run_bind, Analysis.optional, run_bind,
    run_ask, run_ite, ends, ← here]
  rfl

theorem run_sentenceEnd_of_unexpected (unexpected : Unexpected (token :: tokens))
    (marks : Landmark.period.Marks period) {state : State}
    (ahead_eq : state.ahead = token :: tokens ++ period :: rest) :
    sentenceEnd state =
      ((), (((state.report token (.expectedLiteral ".")).pass (token :: tokens)).emit
        period).skip) := by
  have here : state.current = token := current_of_ahead_cons ahead_eq
  have plain : Test.statement.holds state = false := by
    rw [Test.statement, Test.holds, here, beq_eq_false_iff_ne]
    exact unexpected.context token List.mem_cons_self
  have unended : ¬ (Test.is ".").holds state = true := by
    rw [Test.holds_is_iff, here]
    exact fun ends => unexpected.value token List.mem_cons_self (ends ▸ List.mem_cons_self)
  have resumed := unexpected.run_resumeAfterSentence marks
    ((ahead_report token (.expectedLiteral ".") state).trans ahead_eq)
  rw [sentenceEnd, run_bind, run_ask, run_ite, plain, run_bind, Analysis.optional, run_bind,
    run_ask, run_ite, if_neg unended, ← resumed, ← here]
  rfl

/-- Where one sentence has its period and the other one has unexpected tokens before it,
that is reported, and both runs go on behind the period. -/
theorem State.Forks.resumes_sentenceEnd (unexpected : Unexpected (token :: tokens))
    (marks : Landmark.period.Marks period)
    (forks : Forks [] (period :: rest) (token :: tokens ++ period :: rest) first second)
    (quiet : first.Quiet) :
    Resumes ⟨⟨token, .expectedLiteral "."⟩, [], []⟩ rest.length (sentenceEnd first).2
      (sentenceEnd second).2 := by
  have passed : ((second.report token (.expectedLiteral ".")).pass (token :: tokens)) =
      { second.report token (.expectedLiteral ".") with
        behind := (token :: tokens).reverse ++ second.behind, ahead := period :: rest } :=
    pass_eq forks.second_ahead
  rw [run_sentenceEnd_of_period marks forks.first_ahead,
    run_sentenceEnd_of_unexpected unexpected marks forks.second_ahead, passed,
    skip_of_ahead_cons ((ahead_emit period first).trans forks.first_ahead)]
  exact {
    ahead := rfl
    sentinel := forks.sentinel
    previous := rfl
    output := by
      refine ⟨period :: first.output, (List.append_nil _).symm, ?_⟩
      exact (congrArg (period :: ·) forks.output).trans (List.append_nil _).symm
    reports := by
      change _ :: second.reports = first.reports ++ [_]
      rw [forks.reports, quiet]
      rfl
    unit := forks.unit
    table := forks.table
    remaining_le := Nat.le_refl _ }

end CobolCheck
