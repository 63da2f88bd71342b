import CobolCheck.Proofs.Expression.Reach
import CobolCheck.Proofs.Analysis.Parallel

/-!
# Texts that fork

Two texts have a beginning in common and go on differently after it. As long as the
last token in common is ahead, runs over the two texts see the same token at the
cursor, so they stay side by side if they do not look beyond it.

Nothing is said of the two runs once something has been reported, or once the
last token in common has been passed.
-/

namespace CobolCheck

open Analysis

/-- The END marker of an IF statement. -/
def Landmark.endIf : Landmark :=
  ⟨"END-IF", .reserved, .plain⟩

/-! ## States of both texts -/

namespace State

/-- Whether two states are the same but for what comes after the tokens that
their texts have in common. -/
structure Forks (common tail graft : List Token) (first second : State) : Prop where
  first_ahead : first.ahead = common ++ tail
  second_ahead : second.ahead = common ++ graft
  sentinel : second.sentinel = first.sentinel
  behind : second.behind = first.behind
  output : second.output = first.output
  reports : second.reports = first.reports
  unit : second.unit = first.unit
  table : second.table = first.table

/-- Whether two states are at the same place before the last token in common, or at it. -/
def Approaches (stop : Token) (tail graft : List Token) (first second : State) : Prop :=
  ∃ common, Forks (common ++ [stop]) tail graft first second

/-- Whether nothing has been reported, and a token with what follows it is ahead. -/
def Awaits (tail : List Token) (state : State) : Prop :=
  state.Quiet ∧ tail <:+ state.ahead

variable {common tail graft : List Token} {token stop : Token} {first second : State}

theorem Forks.lookahead (forks : Forks common tail graft first second) {offset : Nat}
    (inside : offset < common.length) : second.lookahead offset = first.lookahead offset := by
  rw [State.lookahead, State.lookahead, forks.first_ahead, forks.second_ahead,
    List.getElem?_append_left inside, List.getElem?_append_left inside,
    List.getElem?_eq_getElem inside, Option.getD_some, Option.getD_some]

theorem Forks.skip (forks : Forks (token :: common) tail graft first second) :
    Forks common tail graft first.skip second.skip := by
  rw [skip_of_ahead_cons forks.first_ahead, skip_of_ahead_cons forks.second_ahead]
  exact ⟨rfl, rfl, forks.sentinel, congrArg (token :: ·) forks.behind, forks.output, forks.reports,
    forks.unit, forks.table⟩

theorem Forks.emit (forks : Forks common tail graft first second) (accepted : Token) :
    Forks common tail graft (first.emit accepted) (second.emit accepted) :=
  ⟨forks.first_ahead, forks.second_ahead, forks.sentinel, forks.behind,
    congrArg (accepted :: ·) forks.output, forks.reports, forks.unit, forks.table⟩

theorem Forks.report (forks : Forks common tail graft first second) (place : Token)
    (cause : Cause) :
    Forks common tail graft (first.report place cause) (second.report place cause) :=
  ⟨forks.first_ahead, forks.second_ahead, forks.sentinel, forks.behind, forks.output,
    congrArg (Report.mk place cause :: ·) forks.reports, forks.unit, forks.table⟩

/-- The token at the cursor is one of those in common. -/
theorem Approaches.current (approaches : Approaches stop tail graft first second) :
    second.current = first.current := by
  obtain ⟨common, forks⟩ := approaches
  exact forks.lookahead (by simp)

/-- What is accepted before the last token in common is accepted in both texts. -/
theorem Approaches.skip (approaches : Approaches stop tail graft first second)
    (ahead : stop :: tail <:+ first.skip.ahead) :
    Approaches stop tail graft first.skip second.skip := by
  obtain ⟨common, forks⟩ := approaches
  cases common with
  | nil =>
      rw [ahead_skip, forks.first_ahead] at ahead
      exact absurd ahead.length_le (by simp)
  | cons token common => exact ⟨common, forks.skip⟩

theorem Approaches.emit (approaches : Approaches stop tail graft first second)
    (accepted : Token) :
    Approaches stop tail graft (first.emit accepted) (second.emit accepted) := by
  obtain ⟨common, forks⟩ := approaches
  exact ⟨common, forks.emit accepted⟩

/-- A term of a condition that begins before the last token in common ends before it. -/
theorem Forks.reading (forks : Forks (token :: common ++ [stop]) tail graft first second)
    (other : stop.value ∉ relationWords) (afterOperand : Bool) :
    (reading afterOperand first).1 = (reading afterOperand second).1 := by
  have current : second.current = first.current := forks.lookahead (by simp)
  simp only [Analysis.reading, current, forks.first_ahead, forks.second_ahead, List.cons_append,
    List.append_assoc, List.nil_append, List.drop_succ_cons, List.drop_zero, List.map_take,
    List.map_append, List.map_cons]
  rw [Reading.ofWords_take_append_stop other, ← Reading.ofWords_take_append_stop other]

/-- No step brings back a token. -/
theorem Step.isSuffix {before after : State} (step : before.Step after) :
    after.ahead <:+ before.ahead := by
  cases step with
  | skip | accept => exact ahead_skip _ ▸ List.tail_suffix _
  | designate category =>
      rw [State.designate, ahead_skip, ahead_emit, ahead_skip, ahead_emit]
      exact (List.tail_suffix _).trans (List.tail_suffix _)
  | report | note => exact List.suffix_rfl

theorem Awaits.not_report {token : Token} {cause : Cause} {state : State} {rest : List Token} :
    ¬ Awaits rest (state.report token cause) :=
  fun awaits => List.cons_ne_nil _ _ awaits.1

end State

open State

variable {stop : Token} {tail graft : List Token}

/-- As long as the last token in common is ahead, both texts look the same at the cursor. -/
theorem parallel_approaches (stop : Token) (tail graft : List Token) :
    Parallel 0 Eq (Awaits (stop :: tail)) (Approaches stop tail graft) where
  alike same := by
    subst same
    exact ⟨rfl, rfl, rfl⟩
  recast _ _ _ same := by rw [same]
  refl _ _ := rfl
  alive step awaits := ⟨step.later.quiet awaits.1, awaits.2.trans step.isSuffix⟩
  cursor approaches := approaches.current.symm
  text := by
    intro first second offset approaches near
    obtain rfl : offset = 0 := Nat.le_zero.mp near
    exact congrArg Token.value approaches.current.symm
  beyond := by
    intro first second offset approaches _ near
    obtain rfl : offset = 0 := Nat.le_zero.mp near
    exact congrArg Token.value approaches.current.symm
  reading _ _ far := absurd far (by decide)
  moved := by
    rintro first second third fourth ⟨common, forks⟩ ⟨later, further⟩
    rw [remaining, remaining, remaining, remaining, forks.first_ahead, forks.second_ahead,
      further.first_ahead, further.second_ahead]
    simp only [List.length_append]
    omega
  skip _ far := absurd far (by decide)
  accepted approaches awaits := by
    rw [approaches.current]
    exact (approaches.emit _).skip awaits.2
  designate {first second} category approaches awaits := by
    have between : stop :: tail <:+ (first.emit first.current).skip.ahead := by
      refine awaits.2.trans ?_
      rw [designate, ahead_skip, ahead_emit]
      exact List.tail_suffix _
    have next := (approaches.emit first.current).skip between
    have same := next.current
    constructor
    · simp only [State.current, lookahead_skip, lookahead_emit] at same
      rw [same]
    · rw [State.designate, State.designate, approaches.current, same]
      exact (next.emit _).skip awaits.2
  report _ _ _ awaits := absurd awaits Awaits.not_report
  reportedBefore _ _ awaits := absurd awaits Awaits.not_report
  rejected _ _ awaits := absurd ((later_skip _).quiet awaits.1) (List.cons_ne_nil _ _)
  rejectedBefore _ _ awaits := absurd ((later_skip _).quiet awaits.1) (List.cons_ne_nil _ _)
  nest nesting deepest approaches := by
    obtain ⟨common, forks⟩ := approaches
    exact ⟨common, { forks with }⟩

namespace Analysis

variable {α : Type} {related : α → α → Prop}

/-- Nothing is said of an analysis that always reports something. -/
theorem tracks_of_reports {ρ : State → State → Prop} {analysis : Analysis α}
    (reports : ∀ state, (analysis state).2.reports ≠ []) (other : Analysis α) :
    Tracks (Awaits tail) ρ related analysis other where
  alive awaits := absurd awaits.1 (reports _)
  tracks _ awaits := absurd awaits.1 (reports _)

end Analysis

end CobolCheck
