import CobolCheck.Proofs.Expression.Parallel
import CobolCheck.Statement.Sequence

/-!
# Statements side by side

Every test of a statement form looks only at the tokens near the cursor, so two
runs of a form stay side by side if those of its nested statements do.
-/

namespace CobolCheck

/-- Whether no test of a form looks further than a number of tokens, and no word gets
another category. -/
def Form.within : Form → Nat → Bool
  | seq first second, reach => first.within reach && second.within reach
  | branch test yes no, reach => test.within reach && yes.within reach && no.within reach
  | many test body, reach => test.within reach && body.within reach
  | choose _ category, _ => category.isNone
  | phrases _ positive negative _, reach => positive.within reach && negative.within reach
  | _, _ => true

/-- The statements in which a word gets another category, or that look for a category
behind the cursor. -/
def Form.farsighted : List String :=
  ["ACCEPT", "ALLOCATE", "DISPLAY"]

theorem Form.within_ofKeyword {keyword : String} (plain : keyword ∉ farsighted) (reach : Nat) :
    (ofKeyword keyword).within (reach + 1) = true := by
  unfold ofKeyword
  split
  case h_1 => exact absurd (by decide) plain
  case h_3 => exact absurd (by decide) plain
  case h_11 => exact absurd (by decide) plain
  all_goals rfl

theorem Form.run_all_pair (inner : Analysis Unit) (first second : Form) :
    (all [first, second]).run inner = first.run inner >>= fun _ => second.run inner := by
  rw [run_all_cons, run_all_cons, run_all_nil, bind_pure_unit]

/-- A word that is known to be there gets its category. -/
theorem Form.run_branch_choose (inner : Analysis Unit) (literals : List String)
    (category : Category) (rest : Form) :
    (branch (.isAny literals) (choose literals (some category)) rest).run inner = (do
      if ← Analysis.ask (.isAny literals) then Analysis.acceptAs category
      else rest.run inner) := by
  funext state
  rw [Form.run, Analysis.run_bind, Analysis.run_bind, Analysis.run_ask, Analysis.run_ite,
    Analysis.run_ite]
  split
  · next listed =>
    rw [Form.run, Analysis.choose, Analysis.run_bind, Analysis.run_ask, Analysis.run_ite,
      if_pos listed]
  · rfl

theorem Phrase.within_ahead (phrase : Phrase) (polarity : Polarity) (reach : Nat) :
    (phrase.ahead polarity).within (reach + 1) = true := by
  cases phrase <;> cases polarity <;> rfl

namespace Form

/-- What comes after the item that is allocated. -/
def allocationSize : Form :=
  all [whenever (.has [.identifier, .numeric]) [arithmetic, expect "CHARACTERS"],
    optional "INITIALIZED", optionally "RETURNING" [identifier]]

theorem run_allocate (inner : Analysis Unit) :
    allocate.run inner = Analysis.expect "ALLOCATE" >>= fun _ =>
      (whenever (.and .identifier (.not sizeAhead)) [accept]).run inner >>= fun _ =>
        allocationSize.run inner :=
  rfl

end Form

namespace Abreast

open Analysis

variable {reach : Nat} {same : Token → Token → Prop} {live : State → Prop}
  {ρ : State → State → Prop}

/-! ## Forms -/

theorem tracks_phraseAhead (abreast : Abreast (reach + 1) same live ρ) (phrase : Phrase) :
    Tracks live ρ Eq (Form.phraseAhead phrase) (Form.phraseAhead phrase) := by
  apply abreast.tracks_choice (phrase.within_ahead _ _) (tracks_same _)
  exact abreast.tracks_choice (phrase.within_ahead _ _) (tracks_same _) (tracks_same _)

/-- A conditional phrase is read alike if both runs find the same one. -/
theorem tracks_phraseRound_of (abreast : Abreast reach same live ρ) {phrase : Phrase}
    (found : Tracks live ρ Eq (Form.phraseAhead phrase) (Form.phraseAhead phrase))
    {body other : Polarity → Analysis Unit}
    (each : ∀ polarity, Tracks live ρ Eq (body polarity) (other polarity)) (seen : SeenForms) :
    Tracks live ρ Eq (Form.phraseRound phrase body seen) (Form.phraseRound phrase other seen) := by
  apply tracks_then found
  intro found
  cases found with
  | none => exact tracks_same none
  | some polarity =>
      have rest : Tracks live ρ Eq
          (body polarity >>= fun _ => pure (some (seen.insert polarity)))
          (other polarity >>= fun _ => pure (some (seen.insert polarity))) :=
        tracks_then (each polarity) fun _ => tracks_same _
      exact tracks_ite _ (tracks_then (abreast.tracks_reportHere _) fun _ => rest) rest

theorem tracks_phraseRound (abreast : Abreast (reach + 1) same live ρ) (phrase : Phrase)
    {body other : Polarity → Analysis Unit}
    (each : ∀ polarity, Tracks live ρ Eq (body polarity) (other polarity)) (seen : SeenForms) :
    Tracks live ρ Eq (Form.phraseRound phrase body seen) (Form.phraseRound phrase other seen) :=
  abreast.tracks_phraseRound_of (abreast.tracks_phraseAhead phrase) each seen

theorem tracks_endMarker (abreast : Abreast reach same live ρ)
    (required : Bool) (marker : String) :
    Tracks live ρ Eq (Form.endMarker required marker) (Form.endMarker required marker) := by
  apply tracks_then (abreast.tracks_optional marker)
  intro present
  refine tracks_ite _ (tracks_same ()) (tracks_ite _ ?_ (tracks_same ()))
  exact abreast.tracks_reportHere _

theorem tracks_run (abreast : Abreast (reach + 1) same live ρ) {inner other : Analysis Unit}
    (nested : Tracks live ρ Eq inner other) {form : Form}
    (inside : form.within (reach + 1) = true) :
    Tracks live ρ Eq (form.run inner) (form.run other) := by
  induction form with
  | done => exact tracks_same ()
  | seq first second ihFirst ihSecond =>
      rw [Form.within, Bool.and_eq_true] at inside
      exact tracks_then (ihFirst inside.1) fun _ => ihSecond inside.2
  | branch test yes no ihYes ihNo =>
      rw [Form.within, Bool.and_eq_true, Bool.and_eq_true] at inside
      exact abreast.tracks_choice inside.1.1 (ihYes inside.1.2) (ihNo inside.2)
  | many test body ih =>
      rw [Form.within, Bool.and_eq_true] at inside
      exact abreast.tracks_whilst inside.1 (ih inside.2)
  | accept => exact abreast.tracks_accept
  | skip => exact abreast.tracks_skip
  | expect literal => exact abreast.tracks_expect literal
  | choose literals category =>
      cases category with
      | none => exact abreast.tracks_choose literals
      | some category => exact absurd inside Bool.false_ne_true
  | operand categories description => exact tracks_discard (abreast.tracks_operand _ _)
  | report cause => exact abreast.tracks_reportHere cause
  | condition delimiter => exact abreast.tracks_condition delimiter
  | arithmetic => exact tracks_discard abreast.tracks_arithmetic
  | nested => exact nested
  | phrases phrase positive negative marker ihPositive ihNegative =>
      rw [Form.within, Bool.and_eq_true] at inside
      apply tracks_then
      · refine abreast.tracks_loop_same (abreast.tracks_phraseRound phrase fun polarity => ?_) {}
        cases polarity with
        | positive => exact ihPositive inside.1
        | negative => exact ihNegative inside.2
      · intro seen
        cases marker with
        | none => exact tracks_same ()
        | some marker => exact abreast.tracks_endMarker _ marker

theorem tracks_all {inner other : Analysis Unit} {forms : List Form}
    (each : ∀ form ∈ forms, Tracks live ρ Eq (form.run inner) (form.run other)) :
    Tracks live ρ Eq ((Form.all forms).run inner) ((Form.all forms).run other) := by
  induction forms with
  | nil => exact tracks_same ()
  | cons form forms ih =>
      rw [List.forall_mem_cons] at each
      rw [Form.run_all_cons, Form.run_all_cons]
      exact tracks_then each.1 fun _ => ih each.2

/-! ## Statements that see further -/

theorem tracks_display (abreast : Abreast (reach + 1) same live ρ) {inner other : Analysis Unit}
    (nested : Tracks live ρ Eq inner other) :
    Tracks live ρ Eq (Form.display.run inner) (Form.display.run other) := by
  have run {form : Form} (inside : form.within (reach + 1) = true) :
      Tracks live ρ Eq (form.run inner) (form.run other) :=
    abreast.tracks_run nested inside
  apply tracks_all
  simp only [List.forall_mem_cons]
  refine ⟨run rfl, run rfl, ?_, run rfl, run rfl, fun _ => nofun⟩
  refine abreast.tracks_choice rfl ?_ (tracks_same ())
  rw [Form.run_all_pair, Form.run_all_pair]
  exact abreast.tracks_designate _ _
    (tracks_then (abreast.tracks_reportHere _) fun _ => abreast.tracks_skip)

theorem tracks_acceptItem (abreast : Abreast (reach + 1) same live ρ)
    {inner other : Analysis Unit} (nested : Tracks live ρ Eq inner other) :
    Tracks live ρ Eq (Form.acceptItem.run inner) (Form.acceptItem.run other) := by
  have run {form : Form} (inside : form.within (reach + 1) = true) :
      Tracks live ρ Eq (form.run inner) (form.run other) :=
    abreast.tracks_run nested inside
  apply tracks_all
  simp only [List.forall_mem_cons]
  refine ⟨run rfl, run rfl, ?_, run rfl, fun _ => nofun⟩
  refine abreast.tracks_choice rfl ?_ (tracks_same ())
  rw [Form.run_all_pair, Form.run_all_pair, Form.acceptSource, Form.run_branch_choose,
    Form.run_branch_choose]
  exact abreast.tracks_designate _ _ (run rfl)

/-- Whether an allocation begins with the item that is allocated. -/
theorem holds_allocated_eq (abreast : Abreast (reach + 1) same live ρ) {first second : State}
    (side : ρ first second) (next : same (first.lookahead 1) (second.lookahead 1)) :
    (Test.and .identifier (.not Form.sizeAhead)).holds first =
      (Test.and .identifier (.not Form.sizeAhead)).holds second := by
  have symbol :
      (Test.category 1 [.symbol]).holds first = (Test.category 1 [.symbol]).holds second :=
    congrArg [Category.symbol].contains (abreast.alike next).2.1
  have seen {test : Test} (inside : test.within (reach + 1) = true) :
      test.holds first = test.holds second :=
    abreast.holds_eq inside side
  simp only [Form.sizeAhead, Test.holds_and, Test.holds_not, Test.holds_or, symbol]
  rw [@seen .identifier rfl, @seen (.next "CHARACTERS") rfl, @seen (.next ".") rfl]

/-- An allocation that begins with an identifier accepts it, whether as the item that is
allocated or as its size. So the token after it will be at the cursor. -/
theorem tracks_allocated (abreast : Abreast (reach + 1) same live ρ)
    {inner other rest further : Analysis Unit} (tracked : Tracks live ρ Eq rest further)
    (sized : ∀ {state : State}, state.current.category = .identifier → live (rest state).2 →
      live (state.emit state.current).skip) :
    Tracks live ρ Eq
      ((Form.whenever (.and .identifier (.not Form.sizeAhead)) [.accept]).run inner >>=
        fun _ => rest)
      ((Form.whenever (.and .identifier (.not Form.sizeAhead)) [.accept]).run other >>=
        fun _ => further) := by
  have run (inner rest : Analysis Unit) (state : State) :
      ((Form.whenever (.and .identifier (.not Form.sizeAhead)) [.accept]).run inner >>=
        fun _ => rest) state =
      if (Test.and .identifier (.not Form.sizeAhead)).holds state then
        rest (state.emit state.current).skip
      else rest state := by
    rw [Form.whenever, Form.run, run_bind, run_bind, run_ask, run_ite]
    split <;> rfl
  have identifier {state : State} (held : Test.identifier.holds state = true) :
      state.current.category = .identifier := by
    simpa using (Test.holds_has_iff [.identifier] state).mp held
  constructor
  · intro state alive
    rw [run] at alive
    split at alive
    · exact abreast.alive (.accept state) (tracked.alive alive)
    · exact tracked.alive alive
  · intro state partner side alive
    rw [run] at alive ⊢
    rw [run]
    by_cases named : Test.identifier.holds state = true
    · have accepted : live (state.emit state.current).skip := by
        split at alive
        · exact tracked.alive alive
        · exact sized (identifier named) alive
      have further := abreast.accepted side accepted
      have next : same (state.lookahead 1) (partner.lookahead 1) := by
        simpa [State.current] using abreast.cursor further
      rw [← abreast.holds_allocated_eq side next]
      split at alive
      · next held =>
        rw [if_pos held, if_pos held]
        exact tracked.tracks further alive
      · next unheld =>
        rw [if_neg unheld, if_neg unheld]
        exact tracked.tracks side alive
    · have unnamed : Test.identifier.holds state = false := Bool.eq_false_iff.mpr named
      have same : Test.identifier.holds state = Test.identifier.holds partner :=
        abreast.holds_eq rfl side
      have also := same.symm.trans unnamed
      rw [Test.holds_and, unnamed] at alive ⊢
      rw [Test.holds_and, also]
      exact tracked.tracks side alive

theorem tracks_allocate (abreast : Abreast (reach + 1) same live ρ) {inner other : Analysis Unit}
    (nested : Tracks live ρ Eq inner other) :
    Tracks live ρ Eq (Form.allocate.run inner) (Form.allocate.run other) := by
  have run {form : Form} (inside : form.within (reach + 1) = true) :
      Tracks live ρ Eq (form.run inner) (form.run other) :=
    abreast.tracks_run nested inside
  rw [Form.run_allocate, Form.run_allocate]
  have size := @run Form.allocationSize rfl
  apply tracks_then (abreast.tracks_expect _)
  intro _
  apply abreast.tracks_allocated size
  intro state named alive
  have operand : (Test.has [.identifier, .numeric]).holds state = true := by
    rw [Test.holds_has_iff, named]
    exact List.mem_cons_self
  rw [Form.allocationSize, Form.run_all_cons, run_bind] at alive
  have sized := (run rfl).alive alive
  rw [Form.whenever, Form.run, run_bind, run_ask, run_ite, if_pos operand, Form.run_all_pair,
    run_bind] at sized
  exact abreast.alive_of_arithmetic named ((abreast.tracks_expect "CHARACTERS").alive sized)

theorem tracks_ofKeyword (abreast : Abreast (reach + 1) same live ρ) {inner other : Analysis Unit}
    (nested : Tracks live ρ Eq inner other) (keyword : String) :
    Tracks live ρ Eq ((Form.ofKeyword keyword).run inner) ((Form.ofKeyword keyword).run other) := by
  by_cases plain : keyword ∈ Form.farsighted
  · simp only [Form.farsighted, List.mem_cons, List.not_mem_nil, or_false] at plain
    rcases plain with rfl | rfl | rfl
    · exact abreast.tracks_acceptItem nested
    · exact abreast.tracks_allocate nested
    · exact abreast.tracks_display nested
  · exact abreast.tracks_run nested (Form.within_ofKeyword plain reach)

/-! ## Sequences of statements -/

theorem tracks_statement (abreast : Abreast (reach + 1) same live ρ) {inner other : Analysis Unit}
    (nested : Tracks live ρ Eq inner other) :
    Tracks live ρ Eq (statement inner) (statement other) :=
  tracks_then abreast.tracks_word fun keyword => abreast.tracks_ofKeyword nested keyword

theorem within_scopeEnd (depth reach : Nat) : (scopeEnd depth).within reach = true := by
  unfold scopeEnd
  dsimp only
  split <;> rfl

theorem tracks_skipScope (abreast : Abreast (reach + 1) same live ρ) :
    Tracks live ρ Eq skipScope skipScope := by
  refine tracks_discard (abreast.tracks_loop_same (fun depth => ?_) 0)
  refine abreast.tracks_choice (within_scopeEnd depth _) (tracks_same none) ?_
  apply tracks_then abreast.tracks_word
  intro text
  exact tracks_then abreast.tracks_skip fun _ => tracks_same _

/-! ## Sentences -/

theorem tracks_resumeAfterSentence (abreast : Abreast (reach + 1) same live ρ) :
    Tracks live ρ Eq resumeAfterSentence resumeAfterSentence := by
  apply tracks_then (abreast.tracks_whilst rfl abreast.tracks_skip)
  intro _
  exact abreast.tracks_choice rfl (tracks_same ()) abreast.tracks_accept

/-- The sentences of two runs, which may nest statements down to different limits. -/
theorem tracks_sentencePart (abreast : Abreast (reach + 1) same live ρ) {limit other : Nat}
    (first : Tracks live ρ Eq (statement (nestedStatements limit))
      (statement (nestedStatements other))) :
    Tracks live ρ Eq (sentencePart limit) (sentencePart other) := by
  apply tracks_then first
  intro _
  apply abreast.tracks_choice rfl (tracks_same ())
  refine tracks_then (abreast.tracks_optional ".") fun ended =>
    tracks_ite _ (tracks_same ()) ?_
  exact tracks_then (abreast.tracks_reportHere _) fun _ =>
    abreast.tracks_resumeAfterSentence

end Abreast

namespace Parallel

open Analysis

variable {reach : Nat} {same : Token → Token → Prop} {live : State → Prop}
  {ρ : State → State → Prop}

/-! ## Nested sequences -/

theorem tracks_enter (parallel : Parallel reach same live ρ) : Tracks live ρ Eq enter enter :=
  tracks_modify (fun state => parallel.alive (.note state _ _ _ _)) fun side _ =>
    parallel.nest (fun nesting _ => nesting + 1) (fun nesting deepest => max deepest (nesting + 1))
      side

theorem tracks_leave (parallel : Parallel reach same live ρ) : Tracks live ρ Eq leave leave :=
  tracks_modify (fun state => parallel.alive (.note state _ _ _ _)) fun side _ =>
    parallel.nest (fun nesting _ => nesting - 1) (fun _ deepest => deepest) side

theorem tracks_nestedStatements (parallel : Parallel (reach + 1) same live ρ) (room : Nat) :
    Tracks live ρ Eq (nestedStatements room) (nestedStatements room) := by
  induction room with
  | zero =>
      exact tracks_then (parallel.tracks_reportHere _) fun _ => parallel.tracks_skipScope
  | succ room ih =>
      apply tracks_then parallel.tracks_enter
      intro _
      apply tracks_then (parallel.tracks_whilst rfl (parallel.tracks_statement ih))
      intro _
      exact parallel.tracks_leave

theorem tracks_sentences (parallel : Parallel (reach + 1) same live ρ) (limit : Nat) :
    Tracks live ρ Eq (sentences limit) (sentences limit) :=
  parallel.tracks_whilst rfl (parallel.tracks_sentencePart
    (parallel.tracks_statement (parallel.tracks_nestedStatements limit)))

end Parallel

end CobolCheck
