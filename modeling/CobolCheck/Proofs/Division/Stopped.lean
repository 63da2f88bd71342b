import CobolCheck.Proofs.Analysis.Unreported
import CobolCheck.Proofs.Division.Reread

/-!
# Units end with periods

Every source unit that is read without a report ends with a period: that of its header,
of its last sentence or paragraph header, or of its END marker. Between the statements of
a sentence there is none, but then another statement follows.
-/

namespace CobolCheck

open Analysis

namespace State

/-- Whether the token that was written last is a period. -/
def Stopped (state : State) : Prop :=
  ∃ last ∈ state.output.head?, last.value = "."

/-- Whether moreover the end of the input is what is read past the last token. -/
def Halted (state : State) : Prop :=
  state.Ended ∧ state.Stopped

variable {limit : Nat} {state final : State}

theorem stopped_emit_skip (period : state.current.value = ".") :
    (state.emit state.current).skip.Stopped := by
  rw [Stopped, output_skip]
  exact ⟨_, rfl, period⟩

theorem closed_ended : Closed .endOfInput (Brings Ended Ended) :=
  closed_brings fun still ended => by rwa [Ended, still.sentinel_eq]

theorem units_ended : ClosedUnits .endOfInput (Brings Ended Ended) :=
  closed_ended.units (fun _ _ => ⟨List.suffix_rfl, fun _ => id⟩)
    fun _ _ => ⟨List.suffix_rfl, fun _ => id⟩

theorem chained_halted : Chained (Brings Halted Halted) where
  refl := Brings.refl Halted
  trans := Brings.trans
  reports brings := brings.reports

/-- A period that must be there is the last token afterwards. -/
theorem halted_expectOr (problem : Problem) :
    Obeys (Brings Ended Halted) (expectOr "." problem) := by
  have closed := units_ended
  intro state
  have kept : Brings Ended Ended state (expectOr "." problem state).2 :=
    closed.obeys_expectOr (by decide) problem state
  refine ⟨kept.reports, fun unreported ended => ⟨kept.holds unreported ended, ?_⟩⟩
  rw [run_expectOr] at unreported ⊢
  split at unreported
  · next held =>
    rw [if_pos held]
    exact stopped_emit_skip ((Test.holds_is_iff state ".").mp held)
  · rw [reports_skip] at unreported
    exact absurd unreported (List.cons_ne_nil _ _)

/-! ## The procedure division -/

/-- Between sentences the last token is a period, unless a statement follows. -/
theorem stopped_of_rounds (rounds : Rounds .statement (sentencePart limit) state final)
    (unreported : final.reports = [])
    (begun : state.Stopped ∨ Test.statement.holds state = true) : final.Stopped := by
  induction rounds with
  | done ends => exact begun.resolve_right (Bool.eq_false_iff.mp ends)
  | @next state final _ _ rest ih =>
      apply ih unreported
      have closed := closed_still .endOfInput
      have further := closed.obeys_all_sentences limit (sentencePart limit state).2
      rw [sentences, rest.run_eq] at further
      rcases sentenceEnd_cases (statement (nestedStatements limit) state).2 with
        ⟨begins, same⟩ | ⟨ends, same⟩ | ⟨reported, -⟩
      · rw [sentencePart_eq, run_bind, same]
        exact .inr begins
      · rw [sentencePart_eq, run_bind, same]
        exact .inl (stopped_emit_skip ((Test.holds_is_iff _ ".").mp ends))
      · exact absurd unreported (closed.reports_ne_nil further reported)

theorem halted_sentences (limit : Nat) : Obeys (Brings Halted Halted) (sentences limit) := by
  intro state
  have kept := closed_ended.obeys_all_sentences limit state
  refine ⟨kept.reports, fun unreported halted => ⟨kept.holds unreported halted.1, ?_⟩⟩
  exact stopped_of_rounds (rounds_sentences limit state halted.1 unreported) unreported
    (.inl halted.2)

theorem stopped_acceptMany {count : Nat} {state : State}
    (period : (state.lookahead count).value = ".") : (acceptMany (count + 1) state).2.Stopped := by
  induction count generalizing state with
  | zero => exact stopped_emit_skip period
  | succ count ih =>
      apply ih
      rwa [lookahead_skip, lookahead_emit]

theorem halted_paragraphHeader : Obeys (Brings Halted Halted) paragraphHeader := by
  intro state
  have kept := units_ended.obeys_paragraphHeader state
  refine ⟨kept.reports, fun unreported halted => ⟨kept.holds unreported halted.1, ?_⟩⟩
  rw [paragraphHeader, run_bind, run_ask, run_ite]
  split
  · next held =>
    have period := (Test.holds_word_iff 1 ["."] state).mp (Bool.and_eq_true_iff.mp held).2
    exact stopped_acceptMany (List.mem_singleton.mp period)
  rw [run_bind, run_ask, run_ite]
  split
  · next held =>
    have words := Bool.and_eq_true_iff.mp (Bool.and_eq_true_iff.mp held).2
    have period := (Test.holds_word_iff 2 ["."] state).mp words.2
    exact stopped_acceptMany (List.mem_singleton.mp period)
  · exact halted.2

theorem halted_unitEndMarker (unit : SourceUnit) :
    Obeys (Brings Halted Halted) (unitEndMarker unit) := by
  have closed := units_ended
  have named : Obeys (Brings Ended Halted) (unitEndName unit) :=
    (closed.obeysUpTo_unitEndName (by decide) unit).obeys halted_expectOr Brings.trans
  have word : Obeys (Brings Ended Ended) (expect "END") := closed.obeys_expect (by decide)
  intro state
  exact ((word state).trans (named _)).of_imp fun _ halted => halted.1

theorem halted_procedureDivision (limit : Nat) :
    Obeys (Brings Ended Halted) (procedureDivision limit) := by
  have closed := units_ended
  have ending : Yields Ended (fun _ => Halted) headerEnd :=
    closed.obeysUpTo_headerEnd.obeys halted_expectOr Brings.trans
  have header : Yields Ended (fun _ => Halted) procedureHeader :=
    Obeys.yields_bind (closed.obeys_expect (by decide)) fun _ =>
      Obeys.yields_bind (closed.obeys_expect (by decide)) fun _ => ending
  have body : Obeys (Brings Halted Halted) (procedureBody limit) :=
    chained_halted.obeys_procedureBody (halted_sentences limit) halted_paragraphHeader
  have missing (problem : Problem) : Obeys (Brings Halted Halted) (reportBefore problem) :=
    fun _ => .of_report List.suffix_rfl
  have division : Yields Ended (fun _ => Halted) (procedureDivision limit) := header.bind fun _ =>
    chained_halted.obeys_procedureRest missing body halted_unitEndMarker
  exact division

/-! ## Source units -/

theorem halted_sourceUnit (limit : Nat) : Obeys (Brings Ended Halted) (sourceUnit limit) := by
  have closed := units_ended
  have procedure : Yields Ended (fun _ => Halted) (procedureDivision limit) :=
    halted_procedureDivision limit
  have data : Yields Ended (fun _ => Halted) (do
      if ← ask (.is "DATA") then dataDivision
      procedureDivision limit) :=
    yields_ask (closed.obeys_dataDivision.yields_bind fun _ => procedure) procedure
  exact closed.obeys_identification.yields_bind fun _ =>
    yields_ask ((closed.obeys_divisionHeader _).yields_bind fun _ => data) data

/-- If anything is written for the units of a source text, a period is written last. -/
theorem stopped_sourceUnits (tokens : List Token) (table : SymbolTable)
    (unreported : (sourceUnits limit (.initial tokens table)).2.reports = []) :
    (sourceUnits limit (.initial tokens table)).2.output = [] ∨
      (sourceUnits limit (.initial tokens table)).2.Stopped := by
  let finished (state : State) : Prop := state.Ended ∧ (state.output = [] ∨ state.Stopped)
  have chained : Chained (Brings finished finished) :=
    ⟨Brings.refl finished, Brings.trans, fun brings => brings.reports⟩
  have units : Obeys (Brings finished finished) (sourceUnits limit) := by
    apply chained.obeys_sourceUnits
    intro state
    have unit := (halted_sourceUnit limit state).mono fun _ halted =>
      (⟨halted.1, .inr halted.2⟩ : finished _)
    exact unit.of_imp fun _ => And.left
  exact ((units _).holds unreported ⟨marks_sentinelAfter tokens, .inl rfl⟩).2

end State

end CobolCheck
