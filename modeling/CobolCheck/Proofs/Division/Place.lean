import Mathlib.Logic.Relation
import CobolCheck.Proofs.Division.Further
import CobolCheck.Proofs.Division.Reach
import CobolCheck.Proofs.Statement.Reread

/-!
# Places between statements

An analysis comes to a statement of a sentence through loops: so many source units, so many
paragraphs, and so many statements before it. Each of them is a round that asks for another
one. So what an analysis does is what it does up to such a place, and then what comes after.
-/

namespace CobolCheck

open Analysis State

namespace Analysis

/-! ## Source units in parts -/

/-- The parts of a source unit before its procedure division. -/
def unitHeaders : Analysis Unit := do
  identification
  if ← ask (.is "ENVIRONMENT") then divisionHeader .environment
  if ← ask (.is "DATA") then dataDivision

/-- What comes after the body of a procedure division. -/
def procedureEnd : Analysis Unit := do
  let unit ← currentUnit
  if ← ask .unitStart then reportBefore (.missingEndMarker unit.kind)
  else if unit.kind = .function then unitEndMarker unit
  else if ← ask (.and (.is "END") (.next unit.kind.keyword)) then unitEndMarker unit

/-- What comes after the header of a procedure division. -/
def procedureRest (limit : Nat) : Analysis Unit := do
  procedureBody limit
  procedureEnd

/-- The parts of a source unit up to the header of its procedure division. -/
def unitOpening : Analysis Unit := do
  unitHeaders
  procedureHeader

theorem sourceUnit_eq (limit : Nat) :
    sourceUnit limit = unitOpening >>= fun _ => procedureRest limit := by
  have data (rest : Analysis Unit) : ((do if ← ask (.is "DATA") then dataDivision) >>= fun _ =>
      rest) = (do
        if ← ask (.is "DATA") then dataDivision
        rest) := by
    rw [choice_bind, pure_bind]
  have headers (rest : Analysis Unit) : (unitHeaders >>= fun _ => rest) = (do
      identification
      if ← ask (.is "ENVIRONMENT") then divisionHeader .environment
      if ← ask (.is "DATA") then dataDivision
      rest) := by
    rw [unitHeaders, bind_assoc]
    refine congrArg (identification >>= ·) (funext fun _ => ?_)
    rw [choice_bind, bind_assoc]
    simp only [data rest]
  rw [unitOpening, bind_assoc, headers]
  rfl

/-! ## Up to the procedure division -/

theorem further_unitHeaders : Obeys (Further 0) unitHeaders := by
  refine further_first further_identification fun _ => ?_
  have data : Obeys (Further 0) (do if ← ask (.is "DATA") then dataDivision) :=
    further_choice further_dataDivision (further_pure ())
  exact further_choice (further_first (further_divisionHeader _) fun _ => data) data

theorem tracks_unitHeaders {reach : Nat} {live : State → Prop}
    {κ : Option SymbolKey → Option SymbolKey → Prop} {ρ : State → State → Prop}
    (abreast : AbreastUnits (reach + 2) Eq live κ ρ) :
    Tracks live ρ Eq unitHeaders unitHeaders := by
  refine tracks_then abreast.tracks_identification fun _ => ?_
  refine abreast.tracks_when rfl (abreast.tracks_divisionHeader _) ?_
  exact abreast.tracks_choice rfl abreast.tracks_dataDivision (tracks_same ())

theorem further_unitOpening : Obeys (Further 0) unitOpening :=
  further_first further_unitHeaders fun _ => further_zero further_procedureHeader

theorem obeys_unitOpening {landmark : Landmark} {R : State → State → Prop}
    (closed : ClosedHeaders landmark R) : Obeys R unitOpening := by
  have data : Obeys R (do if ← ask (.is "DATA") then dataDivision) :=
    obeys_ask (closed.obeys_dataDivision.obeysFrom _) fun state _ => closed.refl state
  refine closed.obeys_bind ?_ fun _ => closed.obeys_procedureHeader
  refine closed.obeys_bind closed.obeys_identification fun _ => ?_
  exact closed.obeys_when ((closed.obeys_divisionHeader _).obeysFrom _) data

/-! ## Rounds -/

variable {round : Unit → Analysis (Option Unit)} {first second final state : State}

/-- Whether a round leads from one state to another one, where it asks for another round. -/
def RoundTo (round : Unit → Analysis (Option Unit)) (before after : State) : Prop :=
  round () before = (some (), after) ∧ remaining after < remaining before

/-- Whether a loop comes from one state to another one, where it makes a further round. -/
def Comes (round : Unit → Analysis (Option Unit)) : State → State → Prop :=
  Relation.ReflTransGen (RoundTo round)

theorem RoundTo.of_asks (asks : (round () first).1 = some ())
    (moved : remaining (round () first).2 < remaining first) :
    RoundTo round first (round () first).2 :=
  ⟨Prod.ext asks rfl, moved⟩

/-- What a loop does from a state to which it comes is what it does in all. -/
theorem Comes.loop_eq (comes : Comes round first second) :
    loop round () first = loop round () second := by
  induction comes using Relation.ReflTransGen.head_induction_on with
  | refl => rfl
  | head step _ ih =>
      rw [Analysis.loop_eq, step.1]
      exact (if_pos step.2).trans ih

theorem RoundTo.obeys {R : State → State → Prop} (obeyed : Obeys R (round ()))
    (step : RoundTo round first second) : R first second := by
  have reached := obeyed first
  rwa [step.1] at reached

theorem Comes.obeys {R : State → State → Prop} (chained : Chained R) (obeyed : Obeys R (round ()))
    (comes : Comes round first second) : R first second := by
  induction comes with
  | refl => exact chained.refl first
  | tail _ step ih => exact chained.trans ih (step.obeys obeyed)

section Tracks

variable {live : State → Prop} {ρ : State → State → Prop}

theorem RoundTo.alive (tracked : Tracks live ρ Eq (round ()) (round ()))
    (step : RoundTo round first second) (alive : live second) : live first := by
  refine tracked.alive ?_
  rwa [step.1]

/-- Where one of two runs makes another round the other one does too. -/
theorem RoundTo.tracks (inStep : InStep ρ) (tracked : Tracks live ρ Eq (round ()) (round ()))
    (step : RoundTo round first second) {other : State} (side : ρ first other)
    (alive : live second) : ∃ partner, RoundTo round other partner ∧ ρ second partner := by
  have further := tracked.tracks side (by rwa [step.1])
  rw [step.1] at further
  refine ⟨(round () other).2, ⟨?_, (inStep side further.2).mp step.2⟩, further.2⟩
  exact Prod.ext further.1.symm rfl

theorem Comes.tracks (inStep : InStep ρ) (tracked : Tracks live ρ Eq (round ()) (round ()))
    (comes : Comes round first second) (alive : live second) :
    live first ∧ ∀ {other}, ρ first other →
      ∃ partner, Comes round other partner ∧ ρ second partner := by
  induction comes with
  | refl => exact ⟨alive, fun side => ⟨_, .refl, side⟩⟩
  | tail _ step ih =>
      obtain ⟨begun, follows⟩ := ih (step.alive tracked alive)
      refine ⟨begun, fun side => ?_⟩
      obtain ⟨between, came, near⟩ := follows side
      obtain ⟨partner, last, further⟩ := step.tracks inStep tracked near alive
      exact ⟨partner, came.tail last, further⟩

/-- Both runs make a round of a loop under a test, or neither does. -/
theorem tracks_under {test : Test} {body other : Analysis Unit}
    (asked : Tracks live ρ Eq (ask test) (ask test)) (tracked : Tracks live ρ Eq body other) :
    Tracks live ρ Eq (under test body ()) (under test other ()) := by
  have unfolded (body : Analysis Unit) : under test body () = (do
      if ← ask test then
        body
        return some ()
      else return none) := by
    funext state
    rw [run_bind, run_ask, run_ite]
    rfl
  rw [unfolded, unfolded]
  exact tracks_then asked fun _ =>
    tracks_ite _ (tracks_then tracked fun _ => tracks_same _) (tracks_same none)

end Tracks

/-- A loop whose rounds all move the cursor goes on as long as a round asks for it. -/
theorem Progresses.run_loop (progresses : Progresses round) (ended : state.Ended) :
    (loop round () state).2 =
      if (round () state).1.isSome then (loop round () (round () state).2).2
      else (round () state).2 := by
  rw [Analysis.loop_eq]
  rcases ran : round () state with ⟨_ | next, after⟩
  · rfl
  · obtain ⟨further, moved⟩ := progresses ended ran
    exact congrArg Prod.snd (if_pos (further.remaining_lt_iff.mpr moved))

/-! ## Places -/

/-- Whether an analysis comes from a state to another one in which a statement of a sentence
begins. -/
inductive ComesToStatement (limit : Nat) (start place : State) : Prop
  | intro {unit paragraph : State} (units : Comes (fun _ => nextUnit limit) start unit)
      (inside : Test.eof.holds unit = false)
      (paragraphs : Comes (fun _ => headerRound limit) (unitOpening unit).2 paragraph)
      (parts : Comes (under .statement (sentencePart limit)) paragraph place)
      (begins : Test.statement.holds place = true)

/-- Whether the analysis of a text comes to a statement of a sentence, which it reads from one
place of the text to another. -/
def ReadsStatement (tokens : List Token) (table : SymbolTable) (ahead behind : List Token) :
    Prop :=
  ∃ place, ComesToStatement maxNesting (.initial tokens table) place ∧ place.ahead = ahead ∧
    (statement (nestedStatements maxNesting) place).2.ahead = behind

/-- The rest of the body of a procedure division, from somewhere in a paragraph. -/
def bodyRest (limit : Nat) : Analysis Unit := do
  sentences limit
  if ← paragraphHeader then procedureBody limit

/-- The source units after one that has been read. -/
def unitsRest (limit : Nat) : Analysis Unit := do
  if ← ask .unitStart then sourceUnits limit

/-- What comes after a statement and the end of its sentence, up to the end of the source
units. -/
def afterSentence (limit : Nat) : Analysis Unit := do
  bodyRest limit
  procedureEnd
  unitsRest limit

variable {limit : Nat} {start place unit paragraph : State}

theorem run_bodyRest (limit : Nat) (state : State) :
    bodyRest limit state =
      if (paragraphHeader (sentences limit state).2).1 then
        procedureBody limit (paragraphHeader (sentences limit state).2).2
      else ((), (paragraphHeader (sentences limit state).2).2) := by
  rw [bodyRest, run_bind, run_bind, run_ite]
  rfl

theorem run_headerRound (limit : Nat) (state : State) :
    headerRound limit state =
      (if (paragraphHeader (sentences limit state).2).1 then some () else none,
        (paragraphHeader (sentences limit state).2).2) := by
  rw [headerRound, run_bind, run_bind, run_ite]
  split <;> rfl

theorem run_nextUnit (limit : Nat) {state : State} (inside : Test.eof.holds state = false) :
    nextUnit limit state =
      (if Test.unitStart.holds (sourceUnit limit state).2 then some () else none,
        (sourceUnit limit state).2) := by
  rw [nextUnit, run_bind, run_ask, inside]
  change (do
    sourceUnit limit
    if ← ask .unitStart then return some () else return none : Analysis (Option Unit)) state = _
  rw [run_bind, run_bind, run_ask, run_ite]
  split <;> rfl

theorem run_sourceUnit (limit : Nat) (state : State) :
    sourceUnit limit state = procedureEnd (procedureBody limit (unitOpening state).2).2 := by
  rw [sourceUnit_eq, run_bind, procedureRest, run_bind]

/-! ## From one place to another -/

theorem further_nextUnit (limit : Nat) : Obeys (Further 0) (nextUnit limit) := by
  refine further_choice (further_pure none) ?_
  refine further_first (further_zero (further_sourceUnit limit)) fun _ => ?_
  exact further_choice (further_pure _) (further_pure none)

theorem further_headerRound (limit : Nat) : Obeys (Further 0) (headerRound limit) := by
  refine further_first (further_sentences limit) fun _ => ?_
  exact further_first further_paragraphHeader fun _ => obeys_ite _ (further_pure _) (further_pure _)

theorem further_under {test : Test} {body : Analysis Unit} (further : Obeys (Further 0) body) :
    Obeys (Further 0) (under test body ()) := by
  intro state
  unfold under
  split
  · exact further state
  · exact .refl state

theorem Comes.ended (further : Obeys (Further 0) (round ())) (comes : Comes round first second)
    (ended : first.Ended) : second.Ended :=
  (comes.obeys chained_further further).ended ended

/-- A sequence of sentences is read statement by statement. -/
theorem run_sentences_of_comes
    (parts : Comes (under .statement (sentencePart limit)) paragraph place)
    (begins : Test.statement.holds place = true) (ended : place.Ended) :
    (sentences limit paragraph).2 = (sentences limit (sentencePart limit place).2).2 := by
  have progresses : Progresses (under .statement (sentencePart limit)) :=
    progresses_under rfl (further_sentencePart limit)
  have whole : sentences limit = loop (under .statement (sentencePart limit)) () := rfl
  have round : under .statement (sentencePart limit) () place =
      (some (), (sentencePart limit place).2) := if_pos begins
  rw [whole, parts.loop_eq, progresses.run_loop ended, round]
  rfl

/-- The body of a procedure division is read paragraph by paragraph. -/
theorem run_procedureBody_of_comes {body : State}
    (paragraphs : Comes (fun _ => headerRound limit) body paragraph) (ended : paragraph.Ended) :
    (procedureBody limit body).2 = (bodyRest limit paragraph).2 := by
  have whole : procedureBody limit = loop (fun _ => headerRound limit) () := rfl
  rw [run_bodyRest, whole, paragraphs.loop_eq, (progresses_headerRound limit).run_loop ended,
    run_headerRound]
  generalize paragraphHeader (sentences limit paragraph).2 = header
  obtain ⟨_ | _, after⟩ := header <;> rfl

/-- A source text is read unit by unit. -/
theorem run_sourceUnits_of_comes (units : Comes (fun _ => nextUnit limit) start unit)
    (inside : Test.eof.holds unit = false) (ended : unit.Ended) :
    (sourceUnits limit start).2 = (unitsRest limit (sourceUnit limit unit).2).2 := by
  have whole : sourceUnits limit = loop (fun _ => nextUnit limit) () := rfl
  rw [unitsRest, run_bind, run_ask, run_ite, whole, units.loop_eq,
    (progresses_nextUnit limit).run_loop ended, run_nextUnit limit inside]
  cases Test.unitStart.holds (sourceUnit limit unit).2 <;> rfl

/-- An analysis that comes to a statement goes on with the statement and what comes after it. -/
theorem ComesToStatement.run_sourceUnits (comes : ComesToStatement limit start place)
    (ended : start.Ended) :
    (sourceUnits limit start).2 =
      (afterSentence limit (sentencePart limit place).2).2 := by
  obtain @⟨unit, paragraph, units, inside, paragraphs, parts, begins⟩ := comes
  have unit_ended := units.ended (further_nextUnit limit) ended
  have body_ended := (further_unitOpening unit).ended unit_ended
  have paragraph_ended := paragraphs.ended (further_headerRound limit) body_ended
  have place_ended := parts.ended (further_under (further_zero (further_sentencePart limit)))
    paragraph_ended
  have text := run_sentences_of_comes parts begins place_ended
  have rest : (bodyRest limit paragraph).2 = (bodyRest limit (sentencePart limit place).2).2 := by
    rw [run_bodyRest, run_bodyRest, text]
  rw [run_sourceUnits_of_comes units inside unit_ended, run_sourceUnit,
    run_procedureBody_of_comes paragraphs paragraph_ended, rest, afterSentence, run_bind,
    run_bind]

/-- What every part of a source text obeys is obeyed up to a statement. -/
theorem ComesToStatement.obeys {R : State → State → Prop} (closed : ClosedUnits .endOfInput R)
    (comes : ComesToStatement limit start place) : R start place := by
  have chained := closed.toChained
  have each : Obeys R (nextUnit limit) := by
    refine obeys_ask (fun state _ => chained.refl state) (Obeys.obeysFrom ?_ _)
    refine chained.obeys_bind (closed.obeys_sourceUnit (by decide) limit) fun _ => ?_
    exact obeys_ask (fun state _ => chained.refl state) fun state _ => chained.refl state
  have paragraph : Obeys R (headerRound limit) :=
    chained.obeys_bind (closed.sentences limit) fun _ =>
      chained.obeys_bind closed.obeys_paragraphHeader fun _ =>
        obeys_ite _ (chained.obeys_pure _) (chained.obeys_pure _)
  have sentence : Obeys R (under .statement (sentencePart limit) ()) := fun state => by
    unfold under
    split
    · exact closed.obeys_all_sentencePart limit state
    · exact chained.refl state
  obtain ⟨before, -, paragraphs, parts, -⟩ := comes
  have opened := chained.trans (before.obeys chained each)
    (obeys_unitOpening closed.toClosedHeaders _)
  exact chained.trans (chained.trans opened (paragraphs.obeys chained paragraph))
    (parts.obeys chained sentence)

/-! ## Behind a place -/

section Behind

variable {reach : Nat} {same : Token → Token → Prop} {live : State → Prop}
  {κ : Option SymbolKey → Option SymbolKey → Prop} {ρ : State → State → Prop}

theorem tracks_procedureEnd (abreast : AbreastUnits (reach + 2) same live κ ρ) :
    Tracks live ρ Eq procedureEnd procedureEnd := by
  apply tracks_then abreast.tracks_currentUnit
  intro unit
  apply abreast.tracks_choice rfl (abreast.tracks_reportBefore _)
  refine tracks_ite _ (abreast.tracks_unitEndMarker unit) ?_
  exact abreast.tracks_choice rfl (abreast.tracks_unitEndMarker unit) (tracks_same ())

theorem tracks_afterSentence (parallel : ParallelUnits (reach + 2) same live κ ρ) (limit : Nat) :
    Tracks live ρ Eq (afterSentence limit) (afterSentence limit) := by
  have abreast := parallel.toAbreastUnits
  have text : Tracks live ρ Eq (sentences limit) (sentences limit) :=
    parallel.tracks_sentences limit
  apply tracks_then
  · apply tracks_then text
    intro _
    apply tracks_then abreast.tracks_paragraphHeader
    intro found
    exact tracks_ite _ (abreast.tracks_procedureBody text abreast.tracks_paragraphHeader)
      (tracks_same ())
  intro _
  apply tracks_then (tracks_procedureEnd abreast)
  intro _
  exact abreast.tracks_choice rfl (abreast.tracks_sourceUnits (abreast.tracks_sourceUnit text))
    (tracks_same ())

end Behind

theorem further_sentenceEnd : Obeys (Further 0) sentenceEnd := by
  refine further_choice (further_pure ()) ?_
  refine further_first (further_optional ".") fun closed => obeys_ite _ Further.refl ?_
  exact further_first (further_reportHere _) fun _ => further_resumeAfterSentence

theorem further_afterSentence (limit : Nat) : Obeys (Further 0) (afterSentence limit) :=
  further_of_tracks fun start => tracks_afterSentence (State.parallelUnits_alone start) limit

end Analysis

end CobolCheck
