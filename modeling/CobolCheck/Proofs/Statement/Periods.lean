import CobolCheck.Proofs.Statement.Permitted
import CobolCheck.Source.Tokenize

/-!
# Periods in nested statements

A separator period closes a sentence, and no nested statement accepts it. But a
token that is not what was expected is reported and passed over whatever it is, and
so a period may be passed over, too. `exists_reported_nestedStatements` says that
this is the only way: each period behind the cursor has a report of its own.

Whether a form keeps to that is read off the form, as `Form.careful` does.
-/

namespace CobolCheck

open Analysis

instance (landmark : Landmark) (token : Token) : Decidable (landmark.Marks token) :=
  inferInstanceAs (Decidable (_ ∧ _ ∧ _))

/-! ## Reported landmarks -/

namespace State

/-- Each landmark that the cursor has passed was reported, in the order of the
landmarks and by a report of its own. -/
def Reported (landmark : Landmark) (before after : State) : Prop :=
  ∃ passed added, before.ahead = passed ++ after.ahead ∧
    after.reports = added ++ before.reports ∧
    (passed.filter (landmark.Marks ·)).Sublist (added.map Report.token).reverse

variable {landmark : Landmark} {before middle after state : State}

theorem Reported.trans (early : Reported landmark before middle)
    (late : Reported landmark middle after) : Reported landmark before after := by
  obtain ⟨first, told, ahead_eq, reports_eq, told_each⟩ := early
  obtain ⟨second, also, ahead_eq', reports_eq', also_each⟩ := late
  refine ⟨first ++ second, also ++ told, ?_, ?_, ?_⟩
  · rw [ahead_eq, ahead_eq', List.append_assoc]
  · rw [reports_eq', reports_eq, List.append_assoc]
  · rw [List.filter_append, List.map_append, List.reverse_append]
    exact told_each.append also_each

/-- A state in which the same lies ahead and the same was reported. -/
theorem reported_of_eq (ahead_eq : after.ahead = before.ahead)
    (reports_eq : after.reports = before.reports) : Reported landmark before after :=
  ⟨[], [], ahead_eq.symm, reports_eq, List.Sublist.refl []⟩

/-- A token that is no landmark may be passed. -/
theorem reported_of_clear (clear : ¬ landmark.Marks before.current)
    (ahead_eq : after.ahead = before.ahead.tail) (reports_eq : after.reports = before.reports) :
    Reported landmark before after := by
  cases ahead : before.ahead with
  | nil =>
      rw [ahead, List.tail_nil] at ahead_eq
      exact reported_of_eq (ahead_eq.trans ahead.symm) reports_eq
  | cons token rest =>
      rw [current_of_ahead_cons ahead] at clear
      rw [ahead, List.tail_cons] at ahead_eq
      refine ⟨[token], [], ?_, reports_eq, ?_⟩
      · rw [ahead_eq, ahead, List.singleton_append]
      · simp [clear]

/-- What matching tokens does reports the landmarks it passes. -/
theorem guarded_reported (landmark : Landmark) : Guarded landmark (Reported landmark) where
  refl _ := reported_of_eq rfl rfl
  trans := Reported.trans
  reports := fun ⟨_, added, _, reports_eq, _⟩ => ⟨added, reports_eq.symm⟩
  allow state clear :=
    reported_of_clear clear (state.emit state.current).ahead_skip (reports_skip _)
  refuse state cause := by
    have told : (state.report state.current cause).skip.reports =
        [⟨state.current, cause⟩] ++ state.reports :=
      reports_skip _
    have ahead_eq : (state.report state.current cause).skip.ahead = state.ahead.tail :=
      ahead_skip _
    cases ahead : state.ahead with
    | nil =>
        rw [ahead, List.tail_nil] at ahead_eq
        exact ⟨[], _, by rw [ahead, ahead_eq, List.nil_append], told, List.nil_sublist _⟩
    | cons token rest =>
        rw [ahead, List.tail_cons] at ahead_eq
        refine ⟨[token], _, by rw [ahead, ahead_eq, List.singleton_append], told, ?_⟩
        rw [current_of_ahead_cons ahead]
        exact List.filter_sublist
  tell state token cause := ⟨[], [⟨token, cause⟩], rfl, rfl, List.nil_sublist _⟩

end State

/-! ## Careful forms -/

/-- Whether a test is sure to hold if the token at the cursor is the landmark. -/
def Test.catches (landmark : Landmark) : Test → Bool
  | word 0 words => words.contains landmark.word
  | category 0 categories => categories.contains landmark.category
  | or first second => first.catches landmark || second.catches landmark
  | _ => false

theorem Test.not_marks_of_catches {landmark : Landmark} {state : State} {test : Test}
    (catches : test.catches landmark = true) (refused : test.holds state = false) :
    ¬ landmark.Marks state.current := by
  rintro ⟨value_eq, category_eq, -⟩
  rw [State.current] at value_eq category_eq
  induction test with
  | word place words =>
      cases place with
      | zero =>
          rw [holds, value_eq] at refused
          rw [Test.catches, refused] at catches
          contradiction
      | succ place => contradiction
  | category place categories =>
      cases place with
      | zero =>
          rw [holds, category_eq] at refused
          rw [Test.catches, refused] at catches
          contradiction
      | succ place => contradiction
  | or first second ihFirst ihSecond =>
      rw [Test.catches, Bool.or_eq_true] at catches
      rw [holds_or, Bool.or_eq_false_iff] at refused
      exact catches.elim (ihFirst · refused.1) (ihSecond · refused.2)
  | context | endMarker | subordinate | not | and => contradiction

/-- Whether the token at an offset is known to be no landmark where a test holds. -/
def Test.clears (landmark : Landmark) (offset : Nat) : Test → Bool
  | not test => offset == 0 && test.catches landmark
  | test => test.avoids landmark offset

theorem Test.not_marks_of_clears {landmark : Landmark} {offset : Nat} {state : State}
    {test : Test} (clears : test.clears landmark offset = true) (held : test.holds state = true) :
    ¬ landmark.Marks (state.lookahead offset) := by
  unfold Test.clears at clears
  split at clears
  · rw [Bool.and_eq_true, beq_iff_eq] at clears
    obtain ⟨rfl, catches⟩ := clears
    rw [holds_not, Bool.not_eq_true'] at held
    exact not_marks_of_catches catches held
  · exact not_marks_of_holds clears held

/-- What is known at some place of a form. -/
structure Sight where
  /-- How many of the tokens ahead are known to be no landmark. -/
  clear : Nat := 0
  /-- Whether the token at the cursor has just been reported. -/
  told : Bool := false

namespace Sight

/-- What is known once a test holds. -/
def learn (landmark : Landmark) (test : Test) (sight : Sight) : Sight :=
  { sight with
    clear :=
      if test.clears landmark 0 then if test.clears landmark 1 then 2 else 1 else sight.clear }

/-- Whether what is known is true of a state that was reached from another one. -/
structure Holds (landmark : Landmark) (sight : Sight) (origin state : State) : Prop where
  clear : ∀ offset < sight.clear, ¬ landmark.Marks (state.lookahead offset)
  told : sight.told = true → ∃ middle cause, State.Reported landmark origin middle ∧
    state = middle.report middle.current cause

variable {landmark : Landmark} {sight : Sight} {origin state : State} {test : Test}

theorem Holds.nothing (landmark : Landmark) (origin state : State) :
    Holds landmark {} origin state where
  clear := fun offset less => absurd less (Nat.not_lt_zero offset)
  told := Bool.noConfusion

theorem Holds.learn (known : sight.Holds landmark origin state)
    (held : test.holds state = true) : (sight.learn landmark test).Holds landmark origin state where
  clear := by
    intro offset less
    simp only [Sight.learn] at less
    split at less
    · next first =>
      split at less
      · next second =>
        obtain rfl | rfl : offset = 0 ∨ offset = 1 := by omega
        · exact Test.not_marks_of_clears first held
        · exact Test.not_marks_of_clears second held
      · obtain rfl : offset = 0 := by omega
        exact Test.not_marks_of_clears first held
    · exact known.clear offset less
  told := known.told

/-- What is known of the tokens behind the next one is still known once that is passed. -/
theorem Holds.pass {after : State} (known : sight.Holds landmark origin state)
    (look : ∀ offset, after.lookahead offset = state.lookahead (offset + 1)) :
    Holds landmark { clear := sight.clear - 1 } origin after where
  clear := by
    intro offset less
    rw [look]
    exact known.clear (offset + 1) (Nat.add_lt_of_lt_sub less)
  told := Bool.noConfusion

end Sight

namespace Form

/-- What is known behind a form. -/
def behind (sight : Sight) : Form → Sight
  | done => sight
  | seq first second => second.behind (first.behind sight)
  | report _ => { sight with told := true }
  | accept => { clear := sight.clear - 1 }
  | skip => { clear := sight.clear - 1 }
  | _ => {}

/-- Whether a form passes no landmark without a report. -/
def careful (landmark : Landmark) (sight : Sight) : Form → Bool
  | done => true
  | seq first second =>
      first.careful landmark sight && second.careful landmark (first.behind sight)
  | branch test yes no =>
      yes.careful landmark (sight.learn landmark test) && no.careful landmark sight
  | many test body => body.careful landmark (({} : Sight).learn landmark test)
  | accept => sight.clear != 0
  | skip => sight.clear != 0 || sight.told
  | expect literal => literal != landmark.word
  | choose literals _ => !literals.contains landmark.word
  | operand categories _ => !categories.contains landmark.category
  | report _ => true
  | condition delimiter => landmark.endsCondition delimiter
  | arithmetic => landmark.endsArithmetic
  | nested => true
  | phrases _ positive negative marker =>
      positive.careful landmark {} && negative.careful landmark {} &&
        marker.all (· != landmark.word)

/-- Every statement is careful with periods. -/
theorem careful_ofKeyword (keyword : String) :
    (ofKeyword keyword).careful .period { clear := 1 } = true := by
  unfold ofKeyword
  split <;> rfl

end Form

/-! ## Running a careful form -/

open State

variable {landmark : Landmark} {inner : Analysis Unit}

/-- Behind an analysis that reports the landmarks it passes nothing more is known. -/
theorem reported_of_obeys {α : Type} {analysis : Analysis α}
    (obeyed : Obeys (Reported landmark) analysis) {origin state : State}
    (reached : Reported landmark origin state) :
    Reported landmark origin (analysis state).2 ∧
      Sight.Holds landmark {} origin (analysis state).2 :=
  ⟨reached.trans (obeyed state), .nothing _ _ _⟩

/-- A word may also be accepted under another category. -/
theorem obeys_choose_reported {literals : List String} (differs : landmark.word ∉ literals)
    (category : Option Category) : Obeys (Reported landmark) (choose literals category) := by
  apply obeys_ask
  · intro state held
    have clear : ¬ landmark.Marks state.current :=
      Test.not_marks_of_holds (Test.avoids_isAny differs) held
    cases category <;> exact reported_of_clear clear (ahead_skip _) (reports_skip _)
  · intro state _
    exact (guarded_reported landmark).refuse state (.expectedOneOf literals)

/-- A careful form reports the landmarks it passes, and behind it all is true that
`behind` notes. -/
theorem reported_run (inner_obeys : Obeys (Reported landmark) inner) {form : Form} {sight : Sight}
    (careful : form.careful landmark sight = true) {origin state : State}
    (reached : Reported landmark origin state) (known : sight.Holds landmark origin state) :
    Reported landmark origin (form.run inner state).2 ∧
      (form.behind sight).Holds landmark origin (form.run inner state).2 := by
  have guarded := guarded_reported landmark
  induction form generalizing sight origin state with
  | done => exact ⟨reached, known⟩
  | seq first second ihFirst ihSecond =>
      rw [Form.careful, Bool.and_eq_true] at careful
      obtain ⟨between, behind⟩ := ihFirst careful.1 reached known
      exact ihSecond careful.2 between behind
  | branch test yes no ihYes ihNo =>
      rw [Form.careful, Bool.and_eq_true] at careful
      refine ⟨?_, .nothing _ _ _⟩
      rw [Form.run_branch]
      split
      · next held => exact (ihYes careful.1 reached (known.learn held)).1
      · exact (ihNo careful.2 reached known).1
  | many test body ih =>
      apply reported_of_obeys _ reached
      apply guarded.obeys_whilst
      intro middle held
      exact (ih careful (guarded.refl middle) ((Sight.Holds.nothing _ _ middle).learn held)).1
  | accept =>
      rw [Form.careful, bne_iff_ne] at careful
      have clear : ¬ landmark.Marks state.current := known.clear 0 (Nat.pos_of_ne_zero careful)
      refine ⟨reached.trans (guarded.allow state clear), known.pass fun offset => ?_⟩
      exact (lookahead_skip _ _).trans (lookahead_emit _ _ _)
  | skip =>
      refine ⟨?_, known.pass fun offset => lookahead_skip _ _⟩
      rw [Form.careful, Bool.or_eq_true, bne_iff_ne] at careful
      rcases careful with positive | told
      · have clear : ¬ landmark.Marks state.current := known.clear 0 (Nat.pos_of_ne_zero positive)
        exact reached.trans (reported_of_clear clear state.ahead_skip state.reports_skip)
      · -- the report that comes before belongs to the token that is passed here
        obtain ⟨middle, cause, before, rfl⟩ := known.told told
        exact before.trans (guarded.refuse middle cause)
  | expect literal =>
      rw [Form.careful, bne_iff_ne] at careful
      exact reported_of_obeys (guarded.obeys_expect careful) reached
  | choose literals category =>
      have differs : landmark.word ∉ literals := by simpa [Form.careful] using careful
      exact reported_of_obeys (obeys_choose_reported differs category) reached
  | operand categories description =>
      have differs : landmark.category ∉ categories := by simpa [Form.careful] using careful
      exact reported_of_obeys (guarded.obeys_operand differs description) reached
  | report cause =>
      refine ⟨reached.trans (guarded.obeys_reportHere cause state), known.clear, fun _ => ?_⟩
      exact ⟨state, cause, reached, rfl⟩
  | condition delimiter => exact reported_of_obeys (guarded.obeys_condition careful) reached
  | arithmetic => exact reported_of_obeys (guarded.obeys_arithmetic careful) reached
  | nested => exact reported_of_obeys inner_obeys reached
  | phrases phrase positive negative marker ihPositive ihNegative =>
      rw [Form.careful, Bool.and_eq_true, Bool.and_eq_true] at careful
      obtain ⟨⟨first, second⟩, last⟩ := careful
      apply reported_of_obeys _ reached
      refine guarded.obeys_bind (guarded.obeys_loop
        (guarded.obeys_phraseRound guarded.obeys_reportHere phrase ?_) {}) ?_
      · intro polarity middle
        cases polarity with
        | positive => exact (ihPositive first (guarded.refl middle) (.nothing _ _ _)).1
        | negative => exact (ihNegative second (guarded.refl middle) (.nothing _ _ _)).1
      · intro seen
        cases marker with
        | none => exact guarded.obeys_pure ()
        | some marker => exact guarded.obeys_endMarker (by simpa using last) _

/-! ## Nested sequences -/

/-- A scope that is passed over ends before a period. -/
theorem obeys_skipScope_reported : Obeys (Reported .period) skipScope := by
  have guarded := guarded_reported .period
  apply guarded.obeys_bind (guarded.obeys_loop _ 0) fun _ => guarded.obeys_pure ()
  intro depth
  refine obeys_ask (fun state _ => guarded.refl state) fun state inside => ?_
  have catches : (scopeEnd depth).catches .period = true := by
    unfold scopeEnd
    split <;> rfl
  have clear := Test.not_marks_of_catches catches inside
  exact reported_of_clear clear state.ahead_skip state.reports_skip

theorem obeys_nestedStatements_reported (room : Nat) :
    Obeys (Reported .period) (nestedStatements room) := by
  have guarded := guarded_reported .period
  induction room with
  | zero => exact guarded.obeys_bind (guarded.obeys_reportHere _) fun _ => obeys_skipScope_reported
  | succ room ih =>
      apply guarded.obeys_bind fun _ => reported_of_eq rfl rfl
      intro _
      refine guarded.obeys_bind (guarded.obeys_whilst ?_) fun _ _ => reported_of_eq rfl rfl
      intro state begins
      have known : ({ clear := 1 } : Sight).Holds .period state state := by
        refine ⟨fun offset less => ?_, Bool.noConfusion⟩
        obtain rfl : offset = 0 := Nat.lt_one_iff.mp less
        have avoided : Test.statement.avoids .period 0 = true := rfl
        exact Test.not_marks_of_holds avoided begins
      exact (reported_run ih (Form.careful_ofKeyword _) (guarded.refl state) known).1

/-- Whatever lies ahead, each period that a nested sequence of statements passes was
reported: in their order these periods are among the tokens at which the sequence
reports something. So a sequence that reports nothing at a period passes none. -/
theorem exists_reported_nestedStatements (room : Nat) (state : State) :
    ∃ passed added, state.ahead = passed ++ (nestedStatements room state).2.ahead ∧
      (nestedStatements room state).2.reports = added ++ state.reports ∧
      (passed.filter (Landmark.period.Marks ·)).Sublist (added.map Report.token).reverse ∧
      ((∀ report ∈ added, ¬ Landmark.period.Marks report.token) →
        ∀ token ∈ passed, ¬ Landmark.period.Marks token) := by
  obtain ⟨passed, added, ahead_eq, reports_eq, told⟩ := obeys_nestedStatements_reported room state
  refine ⟨passed, added, ahead_eq, reports_eq, told, fun silent token member marks => ?_⟩
  have listed : token ∈ (added.map Report.token).reverse :=
    told.subset (List.mem_filter.mpr ⟨member, decide_eq_true marks⟩)
  obtain ⟨report, reported, rfl⟩ := List.mem_map.mp (List.mem_reverse.mp listed)
  exact silent report reported marks

/-- Before a sentence whose last statement is incomplete, and another sentence. -/
def incompleteStart : State :=
  .initial (Source.tokenize "GO TO.\nDISPLAY A.") .empty

/-- The period is passed in the place of the name that is missing, and the sequence goes on
with the next sentence. -/
theorem period_passed_incompleteStart :
    ∃ passed, incompleteStart.ahead = passed ++ (nestedStatements 1 incompleteStart).2.ahead ∧
      ∃ token ∈ passed, Landmark.period.Marks token :=
  ⟨incompleteStart.ahead.take 5, by decide +kernel, by decide +kernel⟩

end CobolCheck
