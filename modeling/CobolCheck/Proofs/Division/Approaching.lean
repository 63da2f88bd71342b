import CobolCheck.Proofs.Division.Coupled
import CobolCheck.Proofs.Division.Place
import CobolCheck.Proofs.Statement.Parted

/-!
# Source units up to a landmark

Two texts are the same up to a landmark in a procedure division and go on differently behind
it. Everything up to the landmark is read alike, if it is one that screens what lies behind it.
A data division looks far ahead, but it is never near the landmark, since the header of a
procedure division comes between.
-/

namespace CobolCheck

open Analysis State

variable {stop : Token} {tail graft : List Token} {first second : State}

/-! ## Before the procedure division -/

theorem sharedUnits_approaches : SharedUnits (Approaches stop tail graft) where
  unit := fun ⟨_, forks⟩ => forks.unit
  table := fun ⟨_, forks⟩ => forks.table
  withUnit := fun _ ⟨common, forks⟩ => ⟨common, { forks with unit := rfl }⟩
  withTable := fun _ ⟨common, forks⟩ => ⟨common, { forks with table := rfl }⟩

theorem parallelUnits_approaches (stop : Token) (tail graft : List Token) :
    ParallelUnits 0 Eq (Awaits (stop :: tail)) Eq (Approaches stop tail graft) :=
  sharedUnits_approaches.parallelUnits (parallel_approaches stop tail graft)

/-- Whether two states are at the same place at least three tokens before the last one in
common. -/
def State.Precedes (stop : Token) (tail graft : List Token) (first second : State) : Prop :=
  ∃ common, 3 ≤ common.length ∧ Forks (common ++ [stop]) tail graft first second

theorem State.Precedes.approaches (precedes : Precedes stop tail graft first second) :
    Approaches stop tail graft first second :=
  have ⟨common, _, forks⟩ := precedes
  ⟨common, forks⟩

theorem State.Approaches.precedes (approaches : Approaches stop tail graft first second)
    (enough : tail.length + 4 ≤ remaining first) : Precedes stop tail graft first second := by
  obtain ⟨common, forks⟩ := approaches
  rw [remaining, forks.first_ahead] at enough
  simp only [List.length_append, List.length_singleton] at enough
  exact ⟨common, by omega, forks⟩

/-- Far enough before the last token in common both texts look the same. -/
theorem coupledUnits_precedes (other : stop.value ∉ relationWords) (tail graft : List Token) :
    CoupledUnits (tail.length + 4) (Precedes stop tail graft) where
  lookahead := by
    rintro first second offset ⟨common, long, forks⟩ near
    apply forks.lookahead
    rw [List.length_append, List.length_singleton]
    omega
  reading := by
    rintro first second afterOperand ⟨common, long, forks⟩
    cases common with
    | nil => cases long
    | cons token common => exact (forks.reading other afterOperand).symm
  previous := by
    rintro first second ⟨common, long, forks⟩
    have approaches : Approaches stop tail graft first second := ⟨common, forks⟩
    rw [previous, previous, forks.behind, approaches.current]
  moved precedes further :=
    (parallel_approaches stop tail graft).moved precedes.approaches further.approaches
  skip := by
    rintro first second precedes enough
    refine State.Approaches.precedes ?_ enough
    obtain ⟨common, long, forks⟩ := precedes
    cases common with
    | nil => cases long
    | cons token common => exact ⟨common, forks.skip⟩
  emit token := fun ⟨common, long, forks⟩ => ⟨common, long, forks.emit token⟩
  report token cause := fun ⟨common, long, forks⟩ => ⟨common, long, forks.report token cause⟩
  nest _ _ _ _ := fun ⟨common, long, forks⟩ => ⟨common, long, { forks with }⟩
  unit precedes := sharedUnits_approaches.unit precedes.approaches
  table precedes := sharedUnits_approaches.table precedes.approaches
  withUnit _ := fun ⟨common, long, forks⟩ => ⟨common, long, { forks with unit := rfl }⟩
  withTable _ := fun ⟨common, long, forks⟩ => ⟨common, long, { forks with table := rfl }⟩

namespace Analysis

/-- What is read at least three tokens before the last one in common is read alike, however
far it looks. -/
theorem tracks_of_precedes {α β : Type} {headers : Analysis α} {next : Analysis β}
    (further : Obeys (Further 0) headers)
    (agrees : Agrees (tail.length + 4) (Precedes stop tail graft) headers)
    (passes : Obeys (Further 3) next)
    (tracked : Tracks (Awaits (stop :: tail)) (Approaches stop tail graft) Eq next next) :
    Tracks (Awaits (stop :: tail)) (Approaches stop tail graft) Eq (headers >>= fun _ => next)
      (headers >>= fun _ => next) := by
  constructor
  · intro state awaits
    exact (further state).awaits (tracked.alive awaits)
  · intro state partner approaches awaits
    have ends := awaits.2.length_le
    have passed := (passes (headers state).2).remaining_le
    have enough : tail.length + 4 ≤ remaining (headers state).2 := by
      rw [List.length_cons] at ends
      change _ ≤ remaining (next (headers state).2).2 at ends
      omega
    have begun := Nat.le_trans enough (Nat.le_trans (further state).remaining_le (Nat.sub_le _ _))
    have agreed := agrees.agrees (approaches.precedes begun) enough
    exact tracked.tracks agreed.2.approaches awaits

/-- A source unit is read alike up to its procedure division, if the last token in common is
behind that. -/
theorem tracks_unitOpening (other : stop.value ∉ relationWords) :
    Tracks (Awaits (stop :: tail)) (Approaches stop tail graft) Eq unitOpening unitOpening :=
  tracks_of_precedes further_unitHeaders
    ((coupledUnits_precedes other tail graft).agrees fun parallel =>
      tracks_unitHeaders parallel.toAbreastUnits) further_procedureHeader
    (parallelUnits_approaches stop tail graft).tracks_procedureHeader

end Analysis

/-! ## The procedure division -/

/-- Whether no statement and no part of a procedure division looks beyond a landmark. -/
structure Landmark.Screens (landmark : Landmark) : Prop extends landmark.Blinds landmark where
  eof : Test.eof.blind landmark landmark = true
  unitStart : Test.unitStart.blind landmark landmark = true
  paragraph : (Test.and .identifier (.next ".")).blind landmark landmark = true
  unitSection : (Test.and .identifier (.and (.next "SECTION") (.word 2 ["."]))).blind landmark
    landmark = true
  unitEnd (kind : UnitKind) :
    (Test.and (.is "END") (.next kind.keyword)).blind landmark landmark = true

namespace Analysis

theorem tracks_sentenceEnd_of {reach : Nat} {same : Token → Token → Prop} {live : State → Prop}
    {ρ : State → State → Prop} (parallel : Parallel reach same live ρ)
    (missing : Tracks live ρ Eq
      (reportHere (.expectedLiteral ".") >>= fun _ => resumeAfterSentence)
      (reportHere (.expectedLiteral ".") >>= fun _ => resumeAfterSentence)) :
    Tracks live ρ Eq sentenceEnd sentenceEnd := by
  apply parallel.tracks_choice rfl (tracks_same ())
  exact tracks_then (parallel.tracks_optional ".") fun ended =>
    tracks_ite _ (tracks_same ()) missing

variable {landmark : Landmark} (marks : landmark.Marks stop) (screens : landmark.Screens)

include marks screens

theorem concurs_sentencePart (limit : Nat) :
    Concurs stop stop tail graft (sentencePart limit) := by
  have each : Concurs stop stop tail graft (statement (nestedStatements limit)) :=
    concurs_statement marks marks screens.toBlinds (further_nestedStatements limit)
      (concurs_nestedStatements marks marks screens.toBlinds limit)
  have ends : Concurs stop stop tail graft sentenceEnd :=
    concurs_of_approaches (tracks_sentenceEnd_of (parallel_approaches _ _ _)
      (tracks_of_reports reports_resumed_ne_nil _))
  exact tracks_then each fun _ => ends

theorem concurs_sentences (limit : Nat) : Concurs stop stop tail graft (sentences limit) :=
  (inStep_parted _ _ _ _).tracks_whilst (concurs_ask marks marks screens.begins)
    (concurs_sentencePart marks screens limit)

theorem concurs_paragraphHeader : Concurs stop stop tail graft paragraphHeader := by
  have accepted (count : Nat) : Concurs stop stop tail graft
      (acceptMany count >>= fun _ => pure true) :=
    tracks_then (concurs_acceptMany count) fun _ => tracks_same true
  refine tracks_then (concurs_ask marks marks screens.paragraph) fun _ =>
    tracks_ite _ (accepted 2) ?_
  exact tracks_then (concurs_ask marks marks screens.unitSection) fun _ =>
    tracks_ite _ (accepted 3) (tracks_same false)

theorem concurs_headerRound (limit : Nat) : Concurs stop stop tail graft (headerRound limit) := by
  refine tracks_then (concurs_sentences marks screens limit) fun _ => ?_
  exact tracks_then (concurs_paragraphHeader marks screens) fun _ =>
    tracks_ite _ (tracks_same _) (tracks_same none)

theorem concurs_procedureEnd : Concurs stop stop tail graft procedureEnd := by
  have parallel := parallelUnits_approaches stop tail graft
  have marker (unit : SourceUnit) : Concurs stop stop tail graft (unitEndMarker unit) :=
    concurs_of_approaches (parallel.tracks_unitEndMarker unit)
  apply tracks_then (concurs_of_approaches parallel.tracks_currentUnit)
  intro unit
  apply tracks_then (concurs_ask marks marks screens.unitStart)
  intro begins
  refine tracks_ite _ (concurs_of_approaches (parallel.tracks_reportBefore _))
    (tracks_ite _ (marker unit) ?_)
  apply tracks_then (concurs_ask marks marks (screens.unitEnd unit.kind))
  intro ended
  exact tracks_ite _ (marker unit) (tracks_same ())

theorem concurs_nextUnit (other : stop.value ∉ relationWords) (limit : Nat) :
    Concurs stop stop tail graft (nextUnit limit) := by
  refine tracks_then (concurs_ask marks marks screens.eof) fun _ =>
    tracks_ite _ (tracks_same none) ?_
  rw [sourceUnit_eq]
  apply tracks_then
  · apply tracks_then (concurs_of_approaches (tracks_unitOpening other))
    intro _
    apply tracks_then
    · exact (inStep_parted _ _ _ _).tracks_loop_same
        (fun _ => concurs_headerRound marks screens limit) ()
    · exact fun _ => concurs_procedureEnd marks screens
  · intro _
    exact tracks_then (concurs_ask marks marks screens.unitStart) fun _ =>
      tracks_ite _ (tracks_same _) (tracks_same none)

/-- Where one run comes to a statement before the landmark the other one does too. -/
theorem ComesToStatement.parted {limit : Nat} {place : State}
    (other : stop.value ∉ relationWords) (comes : ComesToStatement limit first place)
    (awaits : Awaits (stop :: tail) place) (parted : Parted stop stop tail graft first second) :
    ∃ partner, ComesToStatement limit second partner ∧ Parted stop stop tail graft place partner := by
  obtain @⟨unit, paragraph, units, inside, paragraphs, parts, begins⟩ := comes
  have inStep := inStep_parted stop stop tail graft
  have asks {test : Test} (blind : test.blind landmark landmark = true) :
      Concurs stop stop tail graft (ask test) := concurs_ask marks marks blind
  have opening : Concurs stop stop tail graft unitOpening :=
    concurs_of_approaches (tracks_unitOpening other)
  have sentence : Concurs stop stop tail graft (under .statement (sentencePart limit) ()) :=
    tracks_under (asks screens.begins) (concurs_sentencePart marks screens limit)
  -- what is awaited at the place was awaited all the way
  obtain ⟨in_paragraph, to_place⟩ := parts.tracks inStep sentence awaits
  obtain ⟨in_body, to_paragraph⟩ :=
    paragraphs.tracks inStep (concurs_headerRound marks screens limit) in_paragraph
  have in_unit := opening.alive in_body
  obtain ⟨-, to_unit⟩ :=
    units.tracks inStep (concurs_nextUnit marks screens other limit) in_unit
  obtain ⟨partner_unit, units, near_unit⟩ := to_unit parted
  obtain ⟨partner_paragraph, paragraphs, near_paragraph⟩ :=
    to_paragraph (opening.tracks near_unit in_body).2
  obtain ⟨partner, parts, near⟩ := to_place near_paragraph
  have same_end : Test.eof.holds unit = Test.eof.holds partner_unit :=
    ((asks screens.eof).tracks near_unit in_unit).1
  have same_begin : Test.statement.holds place = Test.statement.holds partner :=
    ((asks screens.begins).tracks near awaits).1
  exact ⟨partner, .intro units (same_end ▸ inside) paragraphs parts (same_begin ▸ begins), near⟩

end Analysis

end CobolCheck
