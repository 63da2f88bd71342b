import CobolCheck.Proofs.Expression.Reach
import CobolCheck.Statement.Sequence

/-!
# Forms that accept no landmark

Whether a form can accept a landmark is read off the form: `Form.permitted`
follows it from left to right and notes what is known where a token is accepted
or passed over. The main statement is `obeys_run_of_permitted`: a form that is
permitted obeys every closed relation that the statements nested in it obey.
-/

namespace CobolCheck

/-- What is known at some place of a form. -/
structure Notes where
  /-- How many of the tokens ahead are known to be no landmark. -/
  clear : Nat := 0
  /-- The word at the cursor. -/
  here : Option String := none
  /-- The word that was accepted last. -/
  last : Option String := none
  /-- Whether something has been reported. -/
  reported : Bool := false

/-- The one word that a test looks for at the cursor, if it is such a test. -/
def Test.soleWord? : Test → Option String
  | .word 0 [single] => some single
  | _ => none

namespace Notes

/-- What is known once a test holds. -/
def learn (landmark : Landmark) (test : Test) (notes : Notes) : Notes :=
  { notes with
    clear :=
      if test.avoids landmark 0 then if test.avoids landmark 1 then 2 else 1 else 0
    here := test.soleWord? }

/-- What is known wherever the cursor has moved to. -/
def forget (notes : Notes) : Notes :=
  { reported := notes.reported }

/-- Whether what is noted is true of a state. -/
structure Hold (landmark : Landmark) (notes : Notes) (state : State) : Prop where
  clear : ∀ offset < notes.clear, ¬ landmark.Marks (state.lookahead offset)
  here : ∀ word ∈ notes.here, state.current.value = word
  last : ∀ word ∈ notes.last, ∃ token, state.output.head? = some token ∧ token.value = word
  reported : notes.reported = true → state.reports ≠ []

end Notes

namespace Form

/-- What is known behind a form. -/
def leave (notes : Notes) : Form → Notes
  | done => notes
  | seq first second => second.leave (first.leave notes)
  | accept => { clear := notes.clear - 1, last := notes.here, reported := notes.reported }
  | report _ => { notes with reported := true }
  | _ => notes.forget

/-- Whether a form accepts no landmark, reports before it passes over a token,
and takes only what names a device for one. -/
def permitted (landmark : Landmark) (notes : Notes) : Form → Bool
  | done => true
  | seq first second =>
      first.permitted landmark notes && second.permitted landmark (first.leave notes)
  | branch test yes no =>
      yes.permitted landmark (notes.learn landmark test) &&
        no.permitted landmark notes
  | many test body => body.permitted landmark (notes.forget.learn landmark test)
  | accept => notes.clear != 0
  | skip => notes.reported
  | expect literal => literal != landmark.word
  | choose literals none => !literals.contains landmark.word
  | choose literals (some .device) =>
      !literals.contains landmark.word &&
        notes.last.any fun last => literals.all ((deviceWords last).contains ·)
  | choose _ (some _) => false
  | operand categories _ => !categories.contains landmark.category
  | report _ => true
  | condition delimiter => landmark.endsCondition delimiter
  | arithmetic => landmark.endsArithmetic
  | nested => true
  | phrases _ positive negative marker =>
      positive.permitted landmark {} && negative.permitted landmark {} &&
        marker.all (· != landmark.word)

/-- A choice runs one of its alternatives from where it is. -/
theorem run_branch (inner : Analysis Unit) (test : Test) (yes no : Form) (state : State) :
    (branch test yes no).run inner state =
      if test.holds state then yes.run inner state else no.run inner state := by
  rw [Form.run, Analysis.run_bind, Analysis.run_ask, Analysis.run_ite]

end Form

/-! ## What is noted is true -/

namespace Notes

variable {landmark : Landmark} {notes : Notes} {state : State}

/-- Nothing is known of every state. -/
theorem Hold.nothing (landmark : Landmark) (state : State) :
    Hold landmark ({} : Notes) state where
  clear := by
    intro offset less
    exact absurd less (Nat.not_lt_zero offset)
  here := by simp
  last := by simp
  reported := by simp

theorem Hold.learn {test : Test} (hold : notes.Hold landmark state)
    (held : test.holds state = true) : (notes.learn landmark test).Hold landmark state where
  clear := by
    intro offset less
    simp only [Notes.learn] at less
    split at less
    · next first =>
      split at less
      · next second =>
        obtain rfl | rfl : offset = 0 ∨ offset = 1 := by omega
        · exact Test.not_marks_of_holds first held
        · exact Test.not_marks_of_holds second held
      · obtain rfl : offset = 0 := by omega
        exact Test.not_marks_of_holds first held
    · omega
  here := by
    intro word known
    simp only [Notes.learn, Test.soleWord?] at known
    split at known
    · cases known
      exact (Test.holds_is_iff state word).mp held
    · cases known
  last := hold.last
  reported := hold.reported

/-- What has been reported is all that is known of a state reached from another. -/
theorem Hold.forget {after : State} (hold : notes.Hold landmark state)
    (kept : state.reports <:+ after.reports) : notes.forget.Hold landmark after where
  clear := by
    intro offset less
    simp only [Notes.forget] at less
    omega
  here := by simp [Notes.forget]
  last := by simp [Notes.forget]
  reported := by
    intro reported empty
    rw [empty] at kept
    exact hold.reported reported (List.suffix_nil.mp kept)

theorem Hold.accept (hold : notes.Hold landmark state) :
    (Form.leave notes .accept).Hold landmark (state.emit state.current).skip where
  clear := by
    intro offset less
    rw [State.lookahead_skip, State.lookahead_emit]
    exact hold.clear (offset + 1) (Nat.add_lt_of_lt_sub less)
  here := by simp [Form.leave]
  last := by
    intro word known
    refine ⟨state.current, ?_, hold.here word known⟩
    rw [State.output_skip]
    rfl
  reported := by
    intro reported
    rw [State.reports_skip]
    exact hold.reported reported

theorem Hold.report (hold : notes.Hold landmark state) (token : Token) (cause : Cause) :
    (Form.leave notes (.report cause)).Hold landmark (state.report token cause) where
  clear := hold.clear
  here := hold.here
  last := hold.last
  reported := fun _ => List.cons_ne_nil _ _

end Notes

/-! ## Running a permitted form -/

open Analysis

/-- One conditional phrase obeys what its two forms obey. -/
theorem Chained.obeys_phraseRound {R : State → State → Prop} (chained : Chained R)
    (reported : ∀ cause, Obeys R (reportHere cause)) (phrase : Phrase)
    {body : Polarity → Analysis Unit} (each : ∀ polarity, Obeys R (body polarity))
    (seen : SeenForms) : Obeys R (Form.phraseRound phrase body seen) := by
  have look : Obeys R (Form.phraseAhead phrase) := by
    apply chained.obeys_look
    intro state
    unfold Form.phraseAhead
    rw [run_bind, run_ask, run_ite]
    split
    · rfl
    · rw [run_bind, run_ask, run_ite]
      split <;> rfl
  apply chained.obeys_bind look
  intro ahead
  cases ahead with
  | none => exact chained.obeys_pure _
  | some polarity =>
      have rest : Obeys R (body polarity >>= fun _ => pure (some (seen.insert polarity))) :=
        chained.obeys_bind (each polarity) fun _ => chained.obeys_pure _
      dsimp only
      split
      · exact chained.obeys_bind (reported _) fun _ => rest
      · exact rest

theorem Guarded.obeys_endMarker {landmark : Landmark} {R : State → State → Prop}
    (guarded : Guarded landmark R) {marker : String} (differs : marker ≠ landmark.word)
    (required : Bool) : Obeys R (Form.endMarker required marker) := by
  apply guarded.obeys_bind (guarded.obeys_optional differs)
  intro present
  refine obeys_ite _ (guarded.obeys_pure _) (obeys_ite _ ?_ (guarded.obeys_pure _))
  exact guarded.obeys_reportHere _

namespace Closed

variable {landmark : Landmark} {R : State → State → Prop}

theorem obeysFrom_acceptAs_device (closed : Closed landmark R) {literals : List String}
    {notes : Notes}
    (permitted : (Form.choose literals (some .device)).permitted landmark notes = true) :
    ObeysFrom (notes.Hold landmark) R (choose literals (some .device)) := by
  intro state hold
  simp only [Form.permitted, Bool.and_eq_true] at permitted
  obtain ⟨absent, devices⟩ := permitted
  cases last_eq : notes.last with
  | none => simp [last_eq] at devices
  | some word =>
      obtain ⟨token, accepted, rfl⟩ := hold.last word last_eq
      rw [last_eq, Option.any_some, List.all_eq_true] at devices
      have avoided : (Test.isAny literals).avoids landmark 0 = true :=
        Test.avoids_isAny (by simpa using absent)
      unfold choose
      rw [run_bind, run_ask, run_ite]
      split
      · next held =>
        refine closed.move (.acceptDevice state token ?_ accepted ?_)
        · exact Test.not_marks_of_holds avoided held
        · exact List.contains_iff_mem.mp (devices _ (List.contains_iff_mem.mp held))
      · exact closed.reject state state.current (.expectedOneOf literals)

/-- Behind an analysis that may have moved anywhere little is known. -/
theorem obeys_forget (closed : Closed landmark R) {α : Type} {analysis : Analysis α}
    (obeyed : Obeys R analysis) {notes : Notes} {state : State}
    (hold : notes.Hold landmark state) :
    R state (analysis state).2 ∧ notes.forget.Hold landmark (analysis state).2 :=
  ⟨obeyed state, hold.forget (closed.reports (obeyed state))⟩

/-- A permitted form obeys what its nested statements obey, and behind it all
is true that `leave` notes. -/
theorem run_of_permitted (closed : Closed landmark R) {inner : Analysis Unit}
    (inner_obeys : Obeys R inner) {form : Form} {notes : Notes}
    (permitted : form.permitted landmark notes = true) {state : State}
    (hold : notes.Hold landmark state) :
    R state (form.run inner state).2 ∧
      (form.leave notes).Hold landmark (form.run inner state).2 := by
  induction form generalizing notes state with
  | done => exact ⟨closed.refl state, hold⟩
  | seq first second ihFirst ihSecond =>
      simp only [Form.permitted, Bool.and_eq_true] at permitted
      obtain ⟨reached, between⟩ := ihFirst permitted.1 hold
      obtain ⟨further, behind⟩ := ihSecond permitted.2 between
      exact ⟨closed.trans reached further, behind⟩
  | branch test yes no ihYes ihNo =>
      simp only [Form.permitted, Bool.and_eq_true] at permitted
      have reached : R state ((Form.branch test yes no).run inner state).2 := by
        rw [Form.run_branch]
        split
        · next held => exact (ihYes permitted.1 (hold.learn held)).1
        · exact (ihNo permitted.2 hold).1
      exact ⟨reached, hold.forget (closed.reports reached)⟩
  | many test body ih =>
      -- in each round only what has been reported is still known of the start
      have reached : R state ((Form.many test body).run inner state).2 := by
        apply closed.whilst_of_reached
        intro middle before held
        exact (ih permitted ((hold.forget (closed.reports before)).learn held)).1
      exact ⟨reached, hold.forget (closed.reports reached)⟩
  | accept =>
      have clear := hold.clear 0 (Nat.pos_of_ne_zero (by simpa [Form.permitted] using permitted))
      exact ⟨closed.obeysFrom_accept state clear, hold.accept⟩
  | skip =>
      have reached : R state state.skip := closed.move (.skip state (hold.reported permitted))
      exact ⟨reached, hold.forget (closed.reports reached)⟩
  | expect literal =>
      have differs : literal ≠ landmark.word := by simpa [Form.permitted] using permitted
      exact closed.obeys_forget (closed.obeys_expect differs) hold
  | choose literals category =>
      match category with
      | none =>
          have differs : landmark.word ∉ literals := by simpa [Form.permitted] using permitted
          exact closed.obeys_forget (closed.obeys_choose differs) hold
      | some .device =>
          have reached := closed.obeysFrom_acceptAs_device permitted state hold
          exact ⟨reached, hold.forget (closed.reports reached)⟩
  | operand categories description =>
      have differs : landmark.category ∉ categories := by simpa [Form.permitted] using permitted
      exact closed.obeys_forget (closed.obeys_operand differs description) hold
  | report cause =>
      exact ⟨closed.obeys_reportHere cause state, hold.report state.current cause⟩
  | condition delimiter => exact closed.obeys_forget (closed.obeys_condition permitted) hold
  | arithmetic => exact closed.obeys_forget (closed.obeys_arithmetic permitted) hold
  | nested => exact closed.obeys_forget inner_obeys hold
  | phrases phrase positive negative marker ihPositive ihNegative =>
      simp only [Form.permitted, Bool.and_eq_true] at permitted
      refine closed.obeys_forget ?_ hold
      refine closed.obeys_bind (closed.obeys_loop
        (closed.toChained.obeys_phraseRound closed.obeys_reportHere phrase ?_) {}) ?_
      · intro polarity
        cases polarity with
        | positive => exact fun state => (ihPositive permitted.1.1 (.nothing landmark state)).1
        | negative => exact fun state => (ihNegative permitted.1.2 (.nothing landmark state)).1
      · intro seen
        cases marker with
        | none => exact closed.obeys_pure ()
        | some marker => exact closed.obeys_endMarker (by simpa using permitted.2) _

theorem obeys_run_of_permitted (closed : Closed landmark R) {inner : Analysis Unit}
    (inner_obeys : Obeys R inner) (form : Form)
    (permitted : form.permitted landmark {} = true) : Obeys R (form.run inner) :=
  fun state => (closed.run_of_permitted inner_obeys permitted (.nothing landmark state)).1

end Closed

end CobolCheck
