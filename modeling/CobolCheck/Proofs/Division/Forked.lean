import CobolCheck.Proofs.Division.Approaching
import CobolCheck.Proofs.Statement.Forked
import CobolCheck.Proofs.Statement.Resumed

/-!
# Source units around a broken sentence

In one of two texts a sentence ends with an IF statement and its period. In the
other text unexpected tokens come between the statement and the period. The
first run has nothing to report. Then the two runs are `Astride` at all times:
they are side by side before the END marker of the IF statement, or they have
both passed the period, and the second run has reported the first of the
unexpected tokens.
-/

namespace CobolCheck

open Analysis State

/-- A sentence that ends with an IF statement, and unexpected tokens before its period. -/
structure BrokenSentence where
  /-- The END marker of the IF statement. -/
  stop : Token
  /-- The first unexpected token. -/
  unexpected : Token
  more : List Token
  period : Token
  /-- What comes after the sentence. -/
  rest : List Token
  stop_marks : Landmark.endIf.Marks stop
  period_marks : Landmark.period.Marks period
  skipped : Unexpected (unexpected :: more)

namespace BrokenSentence

/-- What follows the IF statement where the sentence is not broken. -/
def sound (broken : BrokenSentence) : List Token :=
  broken.period :: broken.rest

/-- What follows the IF statement where the sentence is broken. -/
def graft (broken : BrokenSentence) : List Token :=
  broken.unexpected :: broken.more ++ broken.period :: broken.rest

/-- What comes of the broken sentence: no token that is accepted is lost. -/
def loss (broken : BrokenSentence) : Loss :=
  ⟨⟨broken.unexpected, .expectedLiteral "."⟩, [], []⟩

end BrokenSentence

variable {stop : Token} {tail graft : List Token} {first second : State}

/-! ## Before the procedure division -/

theorem Landmark.foreign_endIf : endIf.Foreign := by
  constructor <;> decide

theorem Landmark.screens_endIf : endIf.Screens where
  toBlinds := blinds_endIf
  eof := rfl
  unitStart := rfl
  paragraph := rfl
  unitSection := rfl
  unitEnd kind := by cases kind <;> rfl

/-! ## Astride the broken sentence -/

variable {broken : BrokenSentence} {all : List Token}

/-- Whether two states are both before the end of the broken sentence or both behind it. -/
inductive State.Astride (broken : BrokenSentence) (all : List Token) (first second : State) : Prop
  | before (approaches : Approaches broken.stop broken.sound broken.graft first second)
      (tokens_eq : first.tokens = all)
  | behind (resumes : Resumes broken.loss broken.rest.length first second)

theorem State.Approaches.lt_remaining
    (approaches : Approaches broken.stop broken.sound broken.graft first second) :
    broken.rest.length < remaining first ∧ broken.rest.length < remaining second := by
  obtain ⟨common, forks⟩ := approaches
  rw [remaining, remaining, forks.first_ahead, forks.second_ahead]
  simp only [BrokenSentence.sound, BrokenSentence.graft, List.length_append, List.length_cons,
    List.length_nil]
  omega

theorem State.Resumes.remaining_eq {loss : Loss} {bound : Nat}
    (resumes : Resumes loss bound first second) : remaining second = remaining first :=
  congrArg List.length resumes.ahead

/-- The cursor moves in both runs or in neither, also where they pass the broken sentence. -/
theorem inStep_astride (broken : BrokenSentence) (all : List Token) :
    InStep (Astride broken all) := by
  intro first second third fourth begun ended
  cases begun with
  | before approaches =>
      cases ended with
      | before further => exact (parallel_approaches _ _ _).moved approaches further
      | behind further =>
          have ahead := approaches.lt_remaining
          have same := further.remaining_eq
          have late := further.remaining_le
          omega
  | behind resumes =>
      have same := resumes.remaining_eq
      have late := resumes.remaining_le
      cases ended with
      | before further =>
          have ahead := further.lt_remaining
          omega
      | behind further => rw [same, further.remaining_eq]

/-- The parts of a source unit but its sentences stay before the END marker. -/
theorem headers_upto (broken : BrokenSentence) (all : List Token) :
    ClosedHeaders .endIf (Keeps (Upto all (broken.stop :: broken.sound))) :=
  (closed_upto broken.stop_marks all broken.sound).headers Landmark.foreign_endIf
    (fun _ _ => ⟨List.suffix_rfl, id⟩) fun _ _ => ⟨List.suffix_rfl, id⟩

namespace Analysis

/-- What stays before the END marker, and is read alike there and behind the sentence. -/
theorem tracks_astride {α : Type} {analysis : Analysis α}
    (upto : Obeys (Keeps (Upto all (broken.stop :: broken.sound))) analysis)
    (before : Tracks (Awaits (broken.stop :: broken.sound))
      (Approaches broken.stop broken.sound broken.graft) Eq analysis analysis)
    (behind : Agrees 0 (Resumes broken.loss broken.rest.length) analysis) :
    Tracks Quiet (Astride broken all) Eq analysis analysis where
  alive quiet := reports_eq_nil (upto _).reports quiet
  tracks := by
    intro first second astride quiet
    cases astride with
    | before approaches tokens_eq =>
        obtain ⟨same, ahead⟩ := (upto first).kept (fun _ => ⟨tokens_eq, approaches.isSuffix⟩) quiet
        obtain ⟨result, further⟩ := before.tracks approaches ⟨quiet, ahead⟩
        exact ⟨result, .before further same⟩
    | behind resumes =>
        obtain ⟨result, further⟩ := behind.agrees resumes (Nat.zero_le _)
        exact ⟨result.symm, .behind further⟩

/-- What never looks beyond the cursor. -/
theorem tracks_astride_of {α : Type} {analysis : Analysis α}
    (upto : Obeys (Keeps (Upto all (broken.stop :: broken.sound))) analysis)
    (tracked : ∀ {reach live κ ρ}, ParallelUnits reach Eq live κ ρ →
      Tracks live ρ Eq analysis analysis) :
    Tracks Quiet (Astride broken all) Eq analysis analysis :=
  tracks_astride upto (tracked (parallelUnits_approaches _ _ _))
    ((coupledUnits_resumes _ _).agrees tracked)

theorem tracks_ask_astride {test : Test} (blind : test.blind .endIf .endIf = true)
    (inside : test.within 2 = true) :
    Tracks Quiet (Astride broken all) Eq (ask test) (ask test) :=
  tracks_astride ((headers_upto broken all).obeys_look fun _ => rfl)
    (tracks_approaches (concurs_ask broken.stop_marks broken.stop_marks blind))
    ((coupledUnits_resumes _ _).agrees (·.tracks_ask inside))

/-! ## Sentences -/

theorem upto_sentenceEnd :
    Obeys (Keeps (Upto all (broken.stop :: broken.sound))) sentenceEnd := by
  have closed := headers_upto broken all
  refine obeys_ask (fun state _ => closed.refl state) (Obeys.obeysFrom ?_ _)
  refine closed.obeys_bind (closed.obeys_optional (by decide)) fun present => ?_
  refine obeys_ite _ (closed.obeys_pure _) ?_
  exact closed.obeys_reportHere_bind _ closed.obeysFrom_resumeAfterSentence

/-- A sentence may also end elsewhere. -/
theorem tracks_sentenceEnd_astride :
    Tracks Quiet (Astride broken all) Eq sentenceEnd sentenceEnd := by
  refine tracks_astride upto_sentenceEnd ?_ ((coupledUnits_resumes _ _).agrees ?_)
  · exact tracks_sentenceEnd_of (parallel_approaches _ _ _)
      (tracks_of_reports reports_resumed_ne_nil _)
  · exact fun parallel => tracks_sentenceEnd_of parallel.toParallel
      (tracks_then (parallel.tracks_reportHere _) fun _ => parallel.tracks_resumeAfterSentence)

/-- The broken sentence is one of those that are read. Where it ends, the run over the broken
text reports it, and both runs go on behind it. -/
theorem tracks_sentencePart_astride (limit : Nat) :
    Tracks Quiet (Astride broken all) Eq (sentencePart limit) (sentencePart limit) where
  alive quiet := reports_eq_nil (further_sentencePart limit _).reports quiet
  tracks := by
    intro first second astride quiet
    cases astride with
    | behind resumes =>
        have agreed := ((coupledUnits_resumes _ _).agrees fun parallel =>
          parallel.tracks_sentencePart (parallel.tracks_statement
            (parallel.tracks_nestedStatements limit))).agrees resumes (Nat.zero_le _)
        exact ⟨rfl, .behind agreed.2⟩
    | before approaches tokens_eq =>
        have ending : Tracks Quiet (Astride broken all) Eq sentenceEnd sentenceEnd :=
          tracks_sentenceEnd_astride
        rw [sentencePart_eq, run_bind] at quiet ⊢
        rw [run_bind]
        have between : (statement (nestedStatements limit) first).2.Quiet := ending.alive quiet
        rcases approaches_or_forks_statement broken.stop_marks broken.period_marks approaches limit
          between with further | forks
        · have passed := further_statement (further_nestedStatements limit) first
          exact ending.tracks (.before further (passed.tokens_eq.trans tokens_eq)) quiet
        · exact ⟨rfl, .behind
            (forks.resumes_sentenceEnd broken.skipped broken.period_marks between)⟩

theorem tracks_sentences_astride (limit : Nat) :
    Tracks Quiet (Astride broken all) Eq (sentences limit) (sentences limit) :=
  (inStep_astride broken all).tracks_whilst (tracks_ask_astride rfl rfl)
    (tracks_sentencePart_astride limit)

/-! ## The procedure division -/

theorem tracks_paragraphHeader_astride :
    Tracks Quiet (Astride broken all) Eq paragraphHeader paragraphHeader := by
  refine tracks_astride (headers_upto broken all).obeys_paragraphHeader ?_
    ((coupledUnits_resumes _ _).agrees (·.tracks_paragraphHeader))
  exact tracks_approaches (concurs_paragraphHeader broken.stop_marks Landmark.screens_endIf)

theorem tracks_procedureBody_astride (limit : Nat) :
    Tracks Quiet (Astride broken all) Eq (procedureBody limit) (procedureBody limit) := by
  refine (inStep_astride broken all).tracks_loop_same (fun _ => ?_) ()
  apply tracks_then (tracks_sentences_astride limit)
  intro _
  apply tracks_then tracks_paragraphHeader_astride
  intro found
  exact tracks_ite _ (tracks_same _) (tracks_same none)

theorem tracks_procedureRest_astride (limit : Nat) :
    Tracks Quiet (Astride broken all) Eq (procedureRest limit) (procedureRest limit) := by
  have closed := headers_upto broken all
  have marker (unit : SourceUnit) :
      Tracks Quiet (Astride broken all) Eq (unitEndMarker unit) (unitEndMarker unit) :=
    tracks_astride_of (closed.obeys_unitEndMarker (by decide) unit) (·.tracks_unitEndMarker unit)
  apply tracks_then (tracks_procedureBody_astride limit)
  intro _
  apply tracks_then (tracks_astride_of (closed.obeys_look fun _ => rfl) (·.tracks_currentUnit))
  intro unit
  apply tracks_then (tracks_ask_astride rfl rfl)
  intro begins
  refine tracks_ite _ ?_ (tracks_ite _ (marker unit) ?_)
  · exact tracks_astride_of (closed.obeys_reportBefore _) (·.tracks_reportBefore _)
  apply tracks_then (tracks_ask_astride (Landmark.screens_endIf.unitEnd unit.kind) rfl)
  intro ended
  exact tracks_ite _ (marker unit) (tracks_same ())

/-! ## Source units -/

theorem tracks_unitOpening_astride :
    Tracks Quiet (Astride broken all) Eq unitOpening unitOpening := by
  have other : broken.stop.value ∉ relationWords := by
    rw [broken.stop_marks.1]
    decide
  refine tracks_astride (obeys_unitOpening (headers_upto broken all)) (tracks_unitOpening other)
    ((coupledUnits_resumes _ _).agrees fun parallel => ?_)
  exact tracks_then (tracks_unitHeaders parallel.toAbreastUnits) fun _ => parallel.tracks_procedureHeader

theorem tracks_sourceUnits_astride (limit : Nat) :
    Tracks Quiet (Astride broken all) Eq (sourceUnits limit) (sourceUnits limit) := by
  refine (inStep_astride broken all).tracks_loop_same (fun _ => ?_) ()
  refine tracks_then (tracks_ask_astride rfl rfl) fun _ => tracks_ite _ (tracks_same none) ?_
  rw [sourceUnit_eq]
  apply tracks_then
  · exact tracks_then tracks_unitOpening_astride fun _ => tracks_procedureRest_astride limit
  · intro _
    exact tracks_then (tracks_ask_astride rfl rfl) fun _ =>
      tracks_ite _ (tracks_same _) (tracks_same none)

end Analysis

end CobolCheck
