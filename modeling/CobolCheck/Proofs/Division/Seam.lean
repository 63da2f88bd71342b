import CobolCheck.Proofs.Division.Coupled
import CobolCheck.Proofs.Division.Reach
import CobolCheck.Proofs.Statement.EndMarker

/-!
# Texts that begin alike

Two texts have a beginning in common, and the last thing in common is the END
marker of a source unit. After it one of the texts has a single token, and the
other one goes on. Analyses of the two texts do the same up to the marker, since
they look no further than the marker as long as it is ahead. The analysis of a
source unit that ends with the marker without a report leaves both texts behind
the marker.
-/

namespace CobolCheck

open Analysis

/-! ## States of both texts -/

namespace State

/-- Whether two states are the same but for what comes after the tokens that
their texts have in common. -/
structure Beside (common : List Token) (last : Token) (more : List Token)
    (first second : State) : Prop where
  first_ahead : first.ahead = common ++ [last]
  second_ahead : second.ahead = common ++ more
  sentinel : second.sentinel = sentinelAfter more
  behind : second.behind = first.behind
  output : second.output = first.output
  reports : second.reports = first.reports
  unit : second.unit = first.unit
  table : second.table = first.table

/-- Whether two states are at the same place before the END marker. -/
def Alongside (marker : EndMarker) (last : Token) (more : List Token)
    (first second : State) : Prop :=
  ∃ common, Beside (common ++ marker.tokens) last more first second

variable {common : List Token} {token last : Token} {more : List Token} {marker : EndMarker}
  {first second : State}

theorem Beside.lookahead (beside : Beside common last more first second) {offset : Nat}
    (inside : offset < common.length) : second.lookahead offset = first.lookahead offset := by
  rw [State.lookahead, State.lookahead, beside.first_ahead, beside.second_ahead,
    List.getElem?_append_left inside, List.getElem?_append_left inside,
    List.getElem?_eq_getElem inside, Option.getD_some, Option.getD_some]

theorem Beside.current (beside : Beside (token :: common) last more first second) :
    second.current = first.current :=
  beside.lookahead (Nat.succ_pos _)

theorem Beside.skip (beside : Beside (token :: common) last more first second) :
    Beside common last more first.skip second.skip := by
  rw [skip_of_ahead_cons beside.first_ahead, skip_of_ahead_cons beside.second_ahead]
  exact ⟨rfl, rfl, beside.sentinel, congrArg (token :: ·) beside.behind, beside.output,
    beside.reports, beside.unit, beside.table⟩

theorem Beside.emit (beside : Beside common last more first second) (accepted : Token) :
    Beside common last more (first.emit accepted) (second.emit accepted) :=
  ⟨beside.first_ahead, beside.second_ahead, beside.sentinel, beside.behind,
    congrArg (accepted :: ·) beside.output, beside.reports, beside.unit, beside.table⟩

theorem Beside.report (beside : Beside common last more first second) (place : Token)
    (cause : Cause) :
    Beside common last more (first.report place cause) (second.report place cause) :=
  ⟨beside.first_ahead, beside.second_ahead, beside.sentinel, beside.behind, beside.output,
    congrArg (Report.mk place cause :: ·) beside.reports, beside.unit, beside.table⟩

theorem Alongside.isSuffix (alongside : Alongside marker last more first second) :
    marker.tokens ++ [last] <:+ first.ahead := by
  obtain ⟨common, beside⟩ := alongside
  rw [beside.first_ahead, List.append_assoc]
  exact List.suffix_append _ _

/-- A term of a condition ends before the period of the END marker. -/
theorem Alongside.reading (alongside : Alongside marker last more first second)
    (afterOperand : Bool) :
    (reading afterOperand second).1 = (reading afterOperand first).1 := by
  obtain ⟨common, beside⟩ := alongside
  have stop : marker.period.value ∉ relationWords := by
    rw [marker.period_value]
    decide
  obtain ⟨token, front, split⟩ : ∃ token front, ∀ tail,
      common ++ marker.tokens ++ tail = token :: (front ++ marker.period :: tail) := by
    cases common with
    | nil => exact ⟨marker.word, [marker.kind, marker.name], fun _ => rfl⟩
    | cons token common =>
        refine ⟨token, common ++ [marker.word, marker.kind, marker.name], fun tail => ?_⟩
        simp [EndMarker.tokens]
  have current : second.current = first.current := by
    apply beside.lookahead
    simp [EndMarker.tokens]
  simp only [Analysis.reading, current, beside.first_ahead, beside.second_ahead, split,
    List.drop_succ_cons, List.drop_zero, List.map_take, List.map_append, List.map_cons]
  rw [Reading.ofWords_take_append_stop stop, ← Reading.ofWords_take_append_stop stop]

theorem Beside.previous (beside : Beside (token :: common) last more first second) :
    second.previous = first.previous := by
  rw [State.previous, State.previous, beside.behind, beside.current]

theorem exists_cons_of_marker (common : List Token) (marker : EndMarker) :
    ∃ token rest, common ++ marker.tokens = token :: rest := by
  cases common with
  | nil => exact ⟨_, _, rfl⟩
  | cons token common => exact ⟨token, common ++ marker.tokens, rfl⟩

end State

/-- Before the END marker both texts look the same around the cursor. -/
theorem coupledUnits_alongside (marker : EndMarker) (last : Token) (more : List Token) :
    CoupledUnits 5 (State.Alongside marker last more) where
  lookahead := by
    rintro first second offset ⟨common, beside⟩ near
    apply beside.lookahead
    simp only [EndMarker.tokens, List.length_append, List.length_cons]
    omega
  reading afterOperand alongside := alongside.reading afterOperand
  previous := by
    rintro first second ⟨common, beside⟩
    obtain ⟨token, rest, split⟩ := State.exists_cons_of_marker common marker
    rw [split] at beside
    exact beside.previous
  moved := by
    rintro first second third fourth ⟨common, beside⟩ ⟨later, further⟩
    rw [remaining, remaining, remaining, remaining, beside.first_ahead, beside.second_ahead,
      further.first_ahead, further.second_ahead]
    simp only [List.length_append]
    omega
  skip := by
    rintro first second ⟨common, beside⟩ enough
    cases common with
    | nil =>
        rw [remaining, State.ahead_skip, beside.first_ahead] at enough
        exact absurd enough (by simp [EndMarker.tokens])
    | cons token common => exact ⟨common, beside.skip⟩
  emit token alongside := by
    obtain ⟨common, beside⟩ := alongside
    exact ⟨common, beside.emit token⟩
  report token cause alongside := by
    obtain ⟨common, beside⟩ := alongside
    exact ⟨common, beside.report token cause⟩
  nest nesting deepest nesting' deepest' alongside := by
    obtain ⟨common, beside⟩ := alongside
    exact ⟨common, beside.1, beside.2, beside.3, beside.4, beside.5, beside.6, beside.7, beside.8⟩
  unit alongside := by
    obtain ⟨common, beside⟩ := alongside
    exact beside.unit
  table alongside := by
    obtain ⟨common, beside⟩ := alongside
    exact beside.table
  withUnit unit alongside := by
    obtain ⟨common, beside⟩ := alongside
    exact ⟨common, beside.1, beside.2, beside.3, beside.4, beside.5, beside.6, rfl, beside.8⟩
  withTable table alongside := by
    obtain ⟨common, beside⟩ := alongside
    exact ⟨common, beside.1, beside.2, beside.3, beside.4, beside.5, beside.6, beside.7, rfl⟩

/-- The parts of a source unit before its END marker stay there. -/
theorem units_upto (all : List Token) (marker : EndMarker) (last : Token) :
    ClosedUnits .unitEnd (Keeps (State.Upto all (marker.tokens ++ [last]))) :=
  { (closed_upto marker.word_marks all [marker.kind, marker.name, marker.period, last]).headers
      Landmark.foreign_unitEnd (fun _ _ => ⟨List.suffix_rfl, id⟩)
      (fun _ _ => ⟨List.suffix_rfl, id⟩) with
    sentences := obeys_sentences_upto all marker last }

namespace Analysis

/-! ## Passing the marker -/

/-- Whether an analysis that reports nothing passes over some tokens, in both
texts alike. -/
structure Passes {α : Type} (last : Token) (more tokens : List Token) (analysis : Analysis α) :
    Prop where
  reports (state : State) : state.reports <:+ (analysis state).2.reports
  passes {common : List Token} {first second : State}
    (beside : State.Beside (tokens ++ common) last more first second)
    (unreported : (analysis first).2.reports = []) :
    (analysis second).1 = (analysis first).1 ∧
      State.Beside common last more (analysis first).2 (analysis second).2

variable {last token : Token} {more tokens further : List Token} {α β : Type}

theorem passes_bind {analysis : Analysis α} {next : α → Analysis β}
    (begin : Passes last more tokens analysis)
    (rest : ∀ value, Passes last more further (next value)) :
    Passes last more (tokens ++ further) (analysis >>= next) where
  reports state := by
    rw [run_bind]
    exact (begin.reports state).trans ((rest _).reports _)
  passes := by
    intro common first second beside unreported
    rw [run_bind] at unreported
    rw [run_bind, run_bind]
    rw [List.append_assoc] at beside
    obtain ⟨same, between⟩ := begin.passes beside
      (State.reports_eq_nil ((rest _).reports _) unreported)
    rw [same]
    exact (rest _).passes between unreported

/-- A look at the next token sees the same in both texts. -/
theorem passes_look {view : State → α} {next : α → Analysis β}
    (same : ∀ {first second}, second.current = first.current → view second = view first)
    (rest : ∀ value, Passes last more (token :: tokens) (next value)) :
    Passes last more (token :: tokens)
      ((fun state => (view state, state) : Analysis α) >>= next) where
  reports state := (rest _).reports state
  passes := by
    intro common first second beside unreported
    rw [run_bind] at unreported
    rw [run_bind, run_bind, same beside.current]
    exact (rest _).passes beside unreported

/-- A token that is accepted or rejected by a test on it alone. -/
theorem passes_of_run {analysis : Analysis α} {test : Test} {yes no : α}
    {token' : State → Token} {cause : Cause}
    (run : ∀ state, analysis state =
      if test.holds state then (yes, (state.emit state.current).skip)
      else (no, (state.report (token' state) cause).skip))
    (same : ∀ {first second : State}, second.current = first.current →
      test.holds second = test.holds first) :
    Passes last more [token] analysis where
  reports state := by
    have rejected := (List.suffix_cons _ _).trans
      (State.still_skip (state.report (token' state) cause)).reports
    rw [run]
    split
    · exact (State.still_emit_skip state.current state).reports
    · exact rejected
  passes := by
    intro common first second beside unreported
    rw [run] at unreported
    rw [run, run, same beside.current, beside.current]
    cases held : test.holds first with
    | true => exact ⟨rfl, (beside.emit first.current).skip⟩
    | false =>
        rw [held] at unreported
        cases State.reports_eq_nil
          (State.still_skip (first.report (token' first) cause)).reports unreported

theorem holds_word_of_current {first second : State} (current : second.current = first.current)
    (words : List String) : (Test.word 0 words).holds second = (Test.word 0 words).holds first :=
  congrArg (fun token : Token => words.contains token.value) current

theorem holds_category_of_current {first second : State}
    (current : second.current = first.current) (categories : List Category) :
    (Test.category 0 categories).holds second = (Test.category 0 categories).holds first :=
  congrArg (fun token : Token => categories.contains token.category) current

theorem passes_discard {analysis : Analysis α} (passes : Passes last more tokens analysis) :
    Passes last more tokens (discard analysis : Analysis Unit) where
  reports := passes.reports
  passes beside unreported := ⟨rfl, (passes.passes beside unreported).2⟩

theorem passes_expect (literal : String) : Passes last more [token] (expect literal) :=
  passes_discard (passes_of_run (run_acceptIf _ _) fun current => holds_word_of_current current _)

theorem passes_identifier : Passes last more [token] identifier :=
  passes_of_run (run_acceptIf _ _) fun current => holds_category_of_current current _

theorem passes_expectOr (literal : String) (problem : Problem) :
    Passes last more [token] (expectOr literal problem) :=
  passes_of_run (run_expectOr _ _) fun current => holds_word_of_current current _

/-- What is reported is not passed. -/
theorem passes_reportHere_bind {cause : Cause} {next : Unit → Analysis β}
    (rest : ∀ value, Passes last more tokens (next value)) :
    Passes last more tokens (reportHere cause >>= next) where
  reports state := by
    have reported := List.suffix_cons (Report.mk state.current cause) state.reports
    rw [run_bind]
    exact reported.trans ((rest ()).reports (reportHere cause state).2)
  passes := by
    intro common first second beside unreported
    rw [run_bind] at unreported
    have reported : (reportHere cause first).2.reports = [] :=
      State.reports_eq_nil ((rest _).reports _) unreported
    cases reported

/-- Nothing but its END marker is left of a unit when that marker has been read. -/
theorem passes_unitEndMarker (marker : EndMarker) (unit : SourceUnit) :
    Passes last more marker.tokens (unitEndMarker unit) := by
  have rest : Passes last more ([marker.name] ++ [marker.period]) (do
      discard identifier
      expectOr "." (.endMarkerPeriod unit.kind)) :=
    passes_bind (passes_discard passes_identifier) fun _ => passes_expectOr _ _
  have named : Passes last more ([marker.kind] ++ [marker.name, marker.period])
      (unitEndName unit) := by
    apply passes_bind (passes_expect _)
    intro _
    apply passes_look (fun current => congrArg Token.value current)
    intro name
    apply passes_look (fun current => holds_category_of_current current _)
    intro known
    split
    · exact passes_reportHere_bind fun _ => rest
    · exact rest
  exact passes_bind (passes_expect "END") fun _ => named

/-! ## Handing over -/

/-- Whether an analysis that reports nothing stays before the END marker in both
texts, or else passes over it in both. -/
structure Hands (all : List Token) (marker : EndMarker) (last : Token) (more : List Token)
    (analysis : Analysis Unit) : Prop where
  reports (state : State) : state.reports <:+ (analysis state).2.reports
  hands {first second : State} (alongside : State.Alongside marker last more first second)
    (tokens_eq : first.tokens = all) (unreported : (analysis first).2.reports = []) :
    (analysis first).2.tokens = all ∧
        State.Alongside marker last more (analysis first).2 (analysis second).2 ∨
      State.Beside [] last more (analysis first).2 (analysis second).2

variable {all : List Token} {marker : EndMarker}

/-- What is known of an analysis that cannot accept the word END. -/
theorem agrees_upto {analysis : Analysis α}
    (obeys : Obeys (Keeps (State.Upto all (marker.tokens ++ [last]))) analysis)
    (agrees : Agrees 5 (State.Alongside marker last more) analysis) {first second : State}
    (alongside : State.Alongside marker last more first second) (tokens_eq : first.tokens = all)
    (unreported : (analysis first).2.reports = []) :
    (analysis first).2.tokens = all ∧ (analysis second).1 = (analysis first).1 ∧
      State.Alongside marker last more (analysis first).2 (analysis second).2 := by
  obtain ⟨same, before⟩ := (obeys first).kept (fun _ => ⟨tokens_eq, alongside.isSuffix⟩) unreported
  exact ⟨same, agrees.agrees alongside before.length_le⟩

theorem hands_of_agrees {analysis : Analysis Unit}
    (obeys : Obeys (Keeps (State.Upto all (marker.tokens ++ [last]))) analysis)
    (agrees : Agrees 5 (State.Alongside marker last more) analysis) :
    Hands all marker last more analysis where
  reports state := (obeys state).reports
  hands alongside tokens_eq unreported := by
    obtain ⟨same, _, further⟩ := agrees_upto obeys agrees alongside tokens_eq unreported
    exact .inl ⟨same, further⟩

theorem hands_bind {analysis : Analysis α} {next : α → Analysis Unit}
    (obeys : Obeys (Keeps (State.Upto all (marker.tokens ++ [last]))) analysis)
    (agrees : Agrees 5 (State.Alongside marker last more) analysis)
    (rest : ∀ value, Hands all marker last more (next value)) :
    Hands all marker last more (analysis >>= next) where
  reports state := by
    rw [run_bind]
    exact (obeys state).reports.trans ((rest _).reports _)
  hands := by
    intro first second alongside tokens_eq unreported
    rw [run_bind] at unreported
    rw [run_bind, run_bind]
    obtain ⟨same, value, further⟩ := agrees_upto obeys agrees alongside tokens_eq
      (State.reports_eq_nil ((rest _).reports _) unreported)
    rw [value]
    exact (rest _).hands further same unreported

theorem hands_ite {yes no : Analysis Unit} (held : Prop) [Decidable held]
    (first : Hands all marker last more yes) (second : Hands all marker last more no) :
    Hands all marker last more (if held then yes else no) := by
  split
  · exact first
  · exact second

/-- An END marker is the last one of the common tokens, or else lies before it. -/
theorem hands_unitEndMarker (unit : SourceUnit) :
    Hands all marker last more (unitEndMarker unit) where
  reports state := (units_reports.obeys_unitEndMarker (by decide) unit state).reports
  hands := by
    rintro first second ⟨common, beside⟩ tokens_eq unreported
    cases common with
    | nil =>
        rw [List.nil_append, ← List.append_nil marker.tokens] at beside
        exact .inr ((passes_unitEndMarker marker unit).passes beside unreported).2
    | cons token common =>
        left
        have rest := units_reports.obeys_unitEndName (by decide) unit
        rw [unitEndMarker, run_bind _ _ first] at unreported ⊢
        rw [run_bind _ _ second]
        have passed := (passes_expect "END").passes beside
          (State.reports_eq_nil (rest _).reports unreported)
        have still : first.Still (expect "END" first).2 :=
          (closed_still .endOfInput).obeys_expect (by decide) first
        obtain ⟨same, _, further⟩ := agrees_upto
          ((units_upto all marker last).obeys_unitEndName (by decide) unit)
          ((coupledUnits_alongside marker last more).agrees (·.tracks_unitEndName unit))
          ⟨common, passed.2⟩ (still.tokens_eq.trans tokens_eq) unreported
        exact ⟨same, further⟩

/-! ## Source units -/

theorem hands_procedureDivision (limit : Nat) :
    Hands all marker last more (procedureDivision limit) := by
  have closed := units_upto all marker last
  have coupled := coupledUnits_alongside marker last more
  apply hands_bind closed.obeys_procedureHeader (coupled.agrees (·.tracks_procedureHeader))
  intro _
  refine hands_bind (closed.obeys_procedureBody limit) (coupled.agrees fun parallel =>
    parallel.tracks_procedureBody (parallel.tracks_sentences limit)
      parallel.tracks_paragraphHeader) fun _ => ?_
  apply hands_bind (closed.obeys_look fun _ => rfl) (coupled.agrees (·.tracks_currentUnit))
  intro unit
  apply hands_bind (closed.obeys_look fun _ => rfl) (coupled.agrees (·.tracks_ask rfl))
  intro begins
  refine hands_ite _ ?_ (hands_ite _ (hands_unitEndMarker unit) ?_)
  · exact hands_of_agrees (closed.obeys_reportBefore _) (coupled.agrees (·.tracks_reportBefore _))
  apply hands_bind (closed.obeys_look fun _ => rfl) (coupled.agrees (·.tracks_ask rfl))
  intro ended
  exact hands_ite _ (hands_unitEndMarker unit)
    (hands_of_agrees (closed.obeys_pure ()) (coupled.agrees fun _ => tracks_same ()))

theorem hands_sourceUnit (limit : Nat) : Hands all marker last more (sourceUnit limit) := by
  have closed := units_upto all marker last
  have coupled := coupledUnits_alongside marker last more
  have procedure : Hands all marker last more (procedureDivision limit) :=
    hands_procedureDivision limit
  have data : Hands all marker last more (do
      if ← ask (.is "DATA") then dataDivision
      procedureDivision limit) := by
    apply hands_bind (closed.obeys_look fun _ => rfl) (coupled.agrees (·.tracks_ask rfl))
    intro held
    refine hands_ite _ ?_ procedure
    exact hands_bind closed.obeys_dataDivision (coupled.agrees (·.tracks_dataDivision))
      fun _ => procedure
  apply hands_bind closed.obeys_identification (coupled.agrees (·.tracks_identification))
  intro _
  apply hands_bind (closed.obeys_look fun _ => rfl) (coupled.agrees (·.tracks_ask rfl))
  intro held
  refine hands_ite _ ?_ data
  exact hands_bind (closed.obeys_divisionHeader _) (coupled.agrees (·.tracks_divisionHeader _))
    fun _ => data

/-- All source units are one source unit and then, if it moves the cursor to
another one, all source units that are left. -/
theorem sourceUnits_eq (limit : Nat) (state : State) :
    sourceUnits limit state =
      if Test.eof.holds state then ((), state)
      else if Test.unitStart.holds (sourceUnit limit state).2 ∧
          remaining (sourceUnit limit state).2 < remaining state then
        sourceUnits limit (sourceUnit limit state).2
      else ((), (sourceUnit limit state).2) := by
  rw [sourceUnits, loop_eq]
  by_cases ended : Test.eof.holds state
  · rw [run_bind, run_ask, run_ite, if_pos ended, if_pos ended]
    rfl
  rw [run_bind, run_ask, run_ite, if_neg ended, if_neg ended, run_bind, run_bind, run_ask, run_ite]
  by_cases begins : Test.unitStart.holds (sourceUnit limit state).2
  · simp only [begins, if_true, run_pure, true_and]
  · rw [if_neg begins, if_neg fun both => begins both.1]
    rfl

/-- What is still known at the end of all source units was known after each. -/
theorem reports_sourceUnit_isSuffix {limit : Nat} {state : State}
    (inside : ¬ Test.eof.holds state) :
    (sourceUnit limit state).2.reports <:+ (sourceUnits limit state).2.reports := by
  rw [sourceUnits_eq, if_neg inside]
  split
  · exact (units_reports.obeys_sourceUnits (by decide) limit _).reports
  · exact List.suffix_rfl

end Analysis

/-! ## All source units before the seam -/

namespace State

variable {common front : List Token} {last opening : Token} {more rest : List Token}
  {marker : EndMarker} {first second : State}

/-- Before the marker the cursor is at none of the last tokens. -/
theorem Alongside.current_mem (alongside : Alongside marker last more first second)
    (tokens_eq : first.tokens = front ++ [last]) : first.current ∈ front := by
  obtain ⟨common, beside⟩ := alongside
  obtain ⟨token, rest, split⟩ := exists_cons_of_marker common marker
  have ahead := beside.first_ahead
  rw [State.tokens, ahead, ← List.append_assoc] at tokens_eq
  have front_eq := List.append_cancel_right tokens_eq
  rw [split, List.cons_append] at ahead
  rw [current_of_ahead_cons ahead, ← front_eq, split]
  exact List.mem_append_right _ List.mem_cons_self

theorem holds_unitStart_cons {state : State} (ahead : state.ahead = opening :: rest) :
    Test.unitStart.holds state =
      ["IDENTIFICATION", "PROGRAM-ID", "FUNCTION-ID"].contains opening.value := by
  rw [← current_of_ahead_cons ahead]
  rfl

/-- If the source units of the text that ends at the marker are read up to its
end, those of the longer text are read up to the same place, and then on. -/
theorem Alongside.exists_handed (limit : Nat) {first second : State}
    (alongside : Alongside marker last (opening :: rest) first second)
    (tokens_eq : first.tokens = front ++ [last])
    (inside : ∀ token ∈ front, token.category ≠ .eof) (finish : Landmark.endOfInput.Marks last)
    (opens : opening.value ∈ ["IDENTIFICATION", "PROGRAM-ID", "FUNCTION-ID"])
    (unreported : (sourceUnits limit first).2.reports = [])
    (ended : (sourceUnits limit first).2.current.category = .eof) :
    ∃ handed, sourceUnits limit second = sourceUnits limit handed ∧
      Beside [] last (opening :: rest) (sourceUnits limit first).2 handed := by
  have coupled := coupledUnits_alongside marker last (opening :: rest)
  have begun : ¬ Test.eof.holds first := by
    rw [Test.holds_eof_iff]
    exact inside _ (alongside.current_mem tokens_eq)
  have begun' : ¬ Test.eof.holds second := by
    rwa [coupled.holds_eq rfl alongside]
  have unread := reports_eq_nil (reports_sourceUnit_isSuffix begun) unreported
  rw [sourceUnits_eq limit first, if_neg begun] at unreported ended ⊢
  rw [sourceUnits_eq limit second, if_neg begun']
  rcases (hands_sourceUnit limit).hands alongside tokens_eq unread with
    ⟨same, further⟩ | passed
  · have starts : Test.unitStart.holds _ = Test.unitStart.holds _ :=
      coupled.holds_eq rfl further
    have moved := coupled.moved alongside further
    rw [starts]
    by_cases goes : Test.unitStart.holds (sourceUnit limit first).2 ∧
        remaining (sourceUnit limit first).2 < remaining first
    · rw [if_pos goes] at unreported ended ⊢
      rw [if_pos ⟨goes.1, moved.mp goes.2⟩]
      exact further.exists_handed limit same inside finish opens unreported ended
    · rw [if_neg goes] at ended
      exact absurd ended (inside _ (further.current_mem same))
  · have stays : ¬ (Test.unitStart.holds (sourceUnit limit first).2 ∧
        remaining (sourceUnit limit first).2 < remaining first) := by
      rintro ⟨starts, _⟩
      rw [holds_unitStart_cons passed.first_ahead, finish.1] at starts
      exact absurd starts (by decide)
    have goes : Test.unitStart.holds (sourceUnit limit second).2 ∧
        remaining (sourceUnit limit second).2 < remaining second := by
      constructor
      · rw [holds_unitStart_cons passed.second_ahead]
        exact List.contains_iff_mem.mpr opens
      · obtain ⟨common, beside⟩ := alongside
        rw [remaining, remaining, passed.second_ahead, beside.second_ahead]
        simp only [EndMarker.tokens, List.length_append, List.length_cons, List.length_nil]
        omega
    rw [if_neg stays, if_pos goes]
    exact ⟨_, rfl, passed⟩
termination_by remaining first

end State

end CobolCheck
