import CobolCheck.Proofs.Expression.Parted
import CobolCheck.Proofs.Statement.EndMarker
import CobolCheck.Proofs.Statement.Further

/-!
# Statements in texts that part

A statement form is `blind` to two landmarks if its tests do not tell them from each other, or
if it is sure to pass the first landmark, or to report something, wherever they do. All
statements are blind to most pairs of landmarks at which statements end, so what is nested in a
statement is read alike up to where its text parts.
-/

namespace CobolCheck

open Analysis State

/-- What is still awaited was awaited before. -/
theorem State.Further.awaits {count : Nat} {before after : State} {tail : List Token}
    (further : Further count before after) (awaits : Awaits tail after) : Awaits tail before := by
  have whole := after.ahead_isSuffix
  rw [further.tokens_eq] at whole
  have fewer : after.ahead.length ≤ before.ahead.length :=
    Nat.le_trans further.remaining_le (Nat.sub_le _ _)
  exact ⟨reports_eq_nil further.reports awaits.1,
    awaits.2.trans (List.suffix_of_suffix_length_le whole before.ahead_isSuffix fewer)⟩

/-! ## Forms near two landmarks -/

namespace Form

/-- Whether a form passes over one token, whatever it finds. -/
def takesOne : Form → Bool
  | accept => true
  | skip => true
  | expect _ => true
  | choose _ _ => true
  | operand _ _ => true
  | _ => false

/-- Whether a form is sure to pass a landmark that is so many tokens away, or to report
something. -/
def passes (landmark : Landmark) : Form → Nat → Bool
  | seq first _, 0 => first.passes landmark 0
  | seq first second, distance + 1 =>
      first.passes landmark (distance + 1) ||
        first.takesOne && second.passes landmark distance
  | branch test yes no, distance =>
      (test.avoids landmark distance || yes.passes landmark distance) &&
        no.passes landmark distance
  | report _, _ => true
  | form, 0 => form.takesOne
  | _, _ => false

/-- Whether a form is read alike up to where two texts part, of which one goes on with one
landmark and the other with another. -/
def blind (landmark other : Landmark) : Form → Bool
  | seq first second => first.blind landmark other && second.blind landmark other
  | branch test yes no =>
      (test.sees 2 && [0, 1, 2].all fun distance => test.agrees landmark other distance ||
        (branch test yes no).passes landmark distance) &&
          (yes.blind landmark other && no.blind landmark other)
  | many test body => test.blind landmark other && body.blind landmark other
  | condition delimiter => conditionBlind landmark other delimiter
  | arithmetic => closesArithmetic landmark && closesArithmetic other
  | phrases phrase positive negative marker =>
      (phrase.ahead .positive).blind landmark other &&
        (phrase.ahead .negative).blind landmark other &&
          (positive.blind landmark other && negative.blind landmark other) &&
            marker.all fun marker => marker == landmark.word || marker != other.word
  | _ => true

variable {landmark other : Landmark} {stop : Token} {tail common : List Token}
  {inner : Analysis Unit} {form : Form} {state : State}

/-- A statement passes over its keyword, or it is reported. -/
theorem passes_ofKeyword (landmark : Landmark) (keyword : String) :
    (ofKeyword keyword).passes landmark 0 = true := by
  unfold ofKeyword
  split <;> rfl

theorem passes_unsupported (landmark : Landmark) (keyword : String) (distance : Nat) :
    (unsupported keyword).passes landmark distance = true := by
  cases distance <;> rfl

/-- However far away the landmarks are, a choice is made alike, or it passes the first of
them. -/
theorem agrees_or_passes {test : Test} {yes no : Form}
    (blind : (branch test yes no).blind landmark other = true) (distance : Nat) :
    test.agrees landmark other distance = true ∨
      (branch test yes no).passes landmark distance = true := by
  rw [Form.blind, Bool.and_eq_true, Bool.and_eq_true, List.all_eq_true] at blind
  obtain ⟨⟨sees, near⟩, -⟩ := blind
  by_cases close : distance ∈ [0, 1, 2]
  · exact Bool.or_eq_true_iff.mp (near distance close)
  · refine .inl (Test.agrees_of_sees sees ?_)
    simp only [List.mem_cons, List.not_mem_nil, or_false] at close
    omega

theorem blind_phrases {phrase : Phrase} {positive negative : Form} {marker : Option String}
    (blind : (phrases phrase positive negative marker).blind landmark other = true) :
    (∀ polarity, (phrase.ahead polarity).blind landmark other = true) ∧
      (positive.blind landmark other = true ∧ negative.blind landmark other = true) ∧
        ∀ word ∈ marker, word = landmark.word ∨ word ≠ other.word := by
  simp only [Form.blind, Bool.and_eq_true] at blind
  obtain ⟨⟨⟨positively, negatively⟩, bodies⟩, ends⟩ := blind
  refine ⟨fun polarity => ?_, bodies, fun word closes => ?_⟩
  · cases polarity with
    | positive => exact positively
    | negative => exact negatively
  · rw [Option.mem_def] at closes
    rwa [closes, Option.all_some, Bool.or_eq_true, beq_iff_eq, bne_iff_ne] at ends

/-- Whatever a form finds at the cursor, it goes on behind that. -/
theorem ahead_run_of_takesOne (one : form.takesOne = true) (state : State) :
    (form.run inner state).2.ahead = state.ahead.tail := by
  have matched (test : Test) (cause : Cause) :
      (acceptIf test cause state).2.ahead = state.ahead.tail := by
    rw [run_acceptIf]
    split <;> exact ahead_skip _
  cases form with
  | accept | skip => exact ahead_skip _
  | expect literal => exact matched _ _
  | operand categories description => exact matched _ _
  | choose literals category =>
      rw [Form.run, choose.eq_def, run_bind, run_ask, run_ite]
      split
      · cases category <;> exact ahead_skip _
      · exact ahead_skip _
  | _ => cases one

/-- A form that is sure to pass a landmark, or to report something, does not await it. -/
theorem not_awaits_of_passes (further : Obeys (Further 0) inner) (marks : landmark.Marks stop)
    (passes : form.passes landmark common.length = true)
    (ahead_eq : state.ahead = common ++ stop :: tail) :
    ¬ Awaits (stop :: tail) (form.run inner state).2 := by
  have one {form : Form} {common : List Token} {state : State} (passed : common = [])
      (takes : form.takesOne = true) (ahead_eq : state.ahead = common ++ stop :: tail) :
      ¬ Awaits (stop :: tail) (form.run inner state).2 := by
    refine not_awaits_of_remaining_le ?_
    rw [remaining, ahead_run_of_takesOne takes, ahead_eq, passed]
    exact Nat.le_refl _
  induction form generalizing common state with
  | seq first second ihFirst ihSecond =>
      have kept {middle : State} (dead : ¬ Awaits (stop :: tail) middle) :
          ¬ Awaits (stop :: tail) (second.run inner middle).2 :=
        fun awaits => dead ((further_run further second middle).awaits awaits)
      cases common with
      | nil => exact kept (@ihFirst [] state passes ahead_eq)
      | cons token common =>
          rw [List.length_cons, Form.passes, Bool.or_eq_true, Bool.and_eq_true] at passes
          rcases passes with begins | ⟨takes, later⟩
          · exact kept (@ihFirst (token :: common) state begins ahead_eq)
          · refine ihSecond later ?_
            rw [ahead_run_of_takesOne takes, ahead_eq]
            rfl
  | branch test yes no ihYes ihNo =>
      rw [Form.passes, Bool.and_eq_true, Bool.or_eq_true] at passes
      rw [Form.run_branch]
      split
      · next held =>
        rcases passes.1 with avoided | passed
        · have here : state.lookahead common.length = stop := by simp [State.lookahead, ahead_eq]
          exact absurd (here ▸ marks) (Test.not_marks_of_holds avoided held)
        · exact ihYes passed ahead_eq
      · exact ihNo passes.2 ahead_eq
  | report cause => exact fun awaits => List.cons_ne_nil _ _ awaits.1
  | _ =>
      cases common with
      | nil => exact one rfl passes ahead_eq
      | cons token common => cases passes

end Form

/-! ## Side by side up to where the texts part -/

section Parted

variable {landmark otherLandmark : Landmark} {stop other : Token} {tail graft : List Token}
  {inner : Analysis Unit}

theorem concurs_branch (marks : landmark.Marks stop) (otherMarks : otherLandmark.Marks other)
    (further : Obeys (Further 0) inner) {test : Test} {yes no : Form}
    (blind : (Form.branch test yes no).blind landmark otherLandmark = true)
    (first : Concurs stop other tail graft (yes.run inner))
    (second : Concurs stop other tail graft (no.run inner)) :
    Concurs stop other tail graft ((Form.branch test yes no).run inner) where
  alive := (further_run further _ _).awaits
  tracks := by
    rintro state partner ⟨common, forks⟩ awaits
    rcases Form.agrees_or_passes blind common.length with agrees | passes
    · have held := forks.holds_eq marks otherMarks agrees
      rw [Form.run_branch] at awaits ⊢
      rw [Form.run_branch, ← held]
      split at awaits
      · next holds =>
        rw [if_pos holds, if_pos holds]
        exact first.tracks forks.parted awaits
      · next fails =>
        rw [if_neg fails, if_neg fails]
        exact second.tracks forks.parted awaits
    · exact absurd awaits (Form.not_awaits_of_passes further marks passes forks.first_ahead)

theorem run_endMarker (required : Bool) (marker : String) (state : State) :
    Form.endMarker required marker state =
      if (Test.is marker).holds state then ((), (state.emit state.current).skip)
      else if required then ((), state.report state.current (.expectedLiteral marker))
      else ((), state) := by
  rw [Form.endMarker, run_bind, Analysis.optional, run_bind, run_ask, run_ite]
  split
  · rfl
  · cases required <;> rfl

/-- The END marker of a statement is found in both texts or in neither, unless it is the first
landmark. -/
theorem concurs_endMarker (marks : landmark.Marks stop) (otherMarks : otherLandmark.Marks other)
    {marker : String} (apart : marker = landmark.word ∨ marker ≠ otherLandmark.word)
    (required : Bool) : Concurs stop other tail graft (Form.endMarker required marker) where
  alive := (further_endMarker required marker _).awaits
  tracks := by
    rintro first second ⟨common, forks⟩ awaits
    rw [run_endMarker] at awaits ⊢
    rw [run_endMarker]
    split at awaits
    · next found =>
      rw [if_pos found]
      cases common with
      | nil =>
          refine absurd awaits (not_awaits_of_remaining_le ?_)
          rw [remaining, ahead_skip, ahead_emit, forks.first_ahead]
          exact Nat.le_refl _
      | cons token common =>
          have also : (Test.is marker).holds second = true := by
            rw [Test.holds_is_iff] at found ⊢
            rw [forks.current, found]
          rw [if_pos also, forks.current]
          exact ⟨rfl, (forks.emit _).skip.parted⟩
    · next missing =>
      split at awaits
      · exact absurd awaits Awaits.not_report
      · next optional =>
        have also : ¬ (Test.is marker).holds second = true := by
          rw [Test.holds_is_iff] at missing ⊢
          cases common with
          | nil =>
              rw [current_of_ahead_cons forks.first_ahead, marks.1] at missing
              rw [current_of_ahead_cons forks.second_ahead, otherMarks.1]
              exact fun same => apart.elim (fun first => missing first.symm) fun not => not same.symm
          | cons token common => rwa [forks.current]
        rw [if_neg missing, if_neg optional, if_neg also, if_neg optional]
        exact ⟨rfl, forks.parted⟩

theorem concurs_phraseRound {phrase : Phrase} {body : Polarity → Analysis Unit}
    (found : Concurs stop other tail graft (Form.phraseAhead phrase))
    (each : ∀ polarity, Concurs stop other tail graft (body polarity)) (seen : SeenForms) :
    Concurs stop other tail graft (Form.phraseRound phrase body seen) := by
  refine tracks_then found fun ahead => ?_
  cases ahead with
  | none => exact tracks_same none
  | some polarity =>
      have rest : Concurs stop other tail graft
          (body polarity >>= fun _ => pure (some (seen.insert polarity))) :=
        tracks_then (each polarity) fun _ => tracks_same _
      exact tracks_ite _ (tracks_then (concurs_reportHere _) fun _ => rest) rest

theorem concurs_phraseAhead (marks : landmark.Marks stop)
    (otherMarks : otherLandmark.Marks other) {phrase : Phrase}
    (begins : ∀ polarity, (phrase.ahead polarity).blind landmark otherLandmark = true) :
    Concurs stop other tail graft (Form.phraseAhead phrase) := by
  refine tracks_then (concurs_ask marks otherMarks (begins .positive)) fun _ =>
    tracks_ite _ (tracks_same _) ?_
  exact tracks_then (concurs_ask marks otherMarks (begins .negative)) fun _ =>
    tracks_ite _ (tracks_same _) (tracks_same _)

/-- Conditional phrases are read alike, up to the END marker behind them. -/
theorem concurs_phraseLoop (marks : landmark.Marks stop) (otherMarks : otherLandmark.Marks other)
    {phrase : Phrase} {body : Polarity → Analysis Unit}
    (begins : ∀ polarity, (phrase.ahead polarity).blind landmark otherLandmark = true)
    (each : ∀ polarity, Concurs stop other tail graft (body polarity)) :
    Concurs stop other tail graft (loop (Form.phraseRound phrase body) {}) :=
  (inStep_parted stop other tail graft).tracks_loop_same
    (concurs_phraseRound (concurs_phraseAhead marks otherMarks begins) each) {}

/-- A form that is blind to the landmarks is read alike if the statements nested in it are. -/
theorem concurs_run (marks : landmark.Marks stop) (otherMarks : otherLandmark.Marks other)
    (further : Obeys (Further 0) inner) (nested : Concurs stop other tail graft inner)
    {form : Form} (blind : form.blind landmark otherLandmark = true) :
    Concurs stop other tail graft (form.run inner) := by
  have inStep := inStep_parted stop other tail graft
  induction form with
  | done => exact tracks_same ()
  | seq first second ihFirst ihSecond =>
      rw [Form.blind, Bool.and_eq_true] at blind
      exact tracks_then (ihFirst blind.1) fun _ => ihSecond blind.2
  | branch test yes no ihYes ihNo =>
      have parts := blind
      rw [Form.blind, Bool.and_eq_true, Bool.and_eq_true (yes.blind _ _)] at parts
      exact concurs_branch marks otherMarks further blind (ihYes parts.2.1) (ihNo parts.2.2)
  | many test body ih =>
      rw [Form.blind, Bool.and_eq_true] at blind
      exact inStep.tracks_whilst (concurs_ask marks otherMarks blind.1) (ih blind.2)
  | accept => exact concurs_accept
  | skip => exact concurs_skip
  | expect literal => exact concurs_expect literal
  | choose literals category => exact concurs_choose literals category
  | operand categories description => exact tracks_discard (concurs_operand _ _)
  | report cause => exact concurs_reportHere cause
  | condition delimiter => exact concurs_condition marks otherMarks blind
  | arithmetic =>
      rw [Form.blind, Bool.and_eq_true] at blind
      exact tracks_discard (concurs_arithmetic marks otherMarks blind.1 blind.2)
  | nested => exact nested
  | phrases phrase positive negative marker ihPositive ihNegative =>
      obtain ⟨begins, each, ends⟩ := Form.blind_phrases blind
      have body (polarity : Polarity) : Concurs stop other tail graft
          (Form.phraseBody inner positive negative polarity) := by
        cases polarity with
        | positive => exact ihPositive each.1
        | negative => exact ihNegative each.2
      refine tracks_then (concurs_phraseLoop marks otherMarks begins body) fun seen => ?_
      cases marker with
      | none => exact tracks_same ()
      | some marker => exact concurs_endMarker marks otherMarks (ends marker rfl) _

/-! ## Statements -/

/-- Whether no statement tells two landmarks from each other. A statement that is not supported
is reported anyway. -/
structure Landmark.Blinds (landmark other : Landmark) : Prop where
  begins : Test.statement.blind landmark other = true
  each (keyword : String) : (Form.ofKeyword keyword).blind landmark other = true ∨
    Form.ofKeyword keyword = .unsupported keyword

/-- No statement begins and ends where the texts part: it would pass the first landmark. -/
theorem concurs_statement (marks : landmark.Marks stop) (otherMarks : otherLandmark.Marks other)
    (blinds : landmark.Blinds otherLandmark) (further : Obeys (Further 0) inner)
    (nested : Concurs stop other tail graft inner) :
    Concurs stop other tail graft (statement inner) where
  alive := (further_statement further _).awaits
  tracks := by
    rintro first second ⟨common, forks⟩ awaits
    rw [statement, run_bind, run_word] at awaits ⊢
    rw [run_bind, run_word]
    cases common with
    | nil =>
        exact absurd awaits (Form.not_awaits_of_passes further marks
          (Form.passes_ofKeyword landmark _) forks.first_ahead)
    | cons token common =>
        rw [forks.current]
        rcases blinds.each first.current.value with blind | unsupported
        · exact (concurs_run marks otherMarks further nested blind).tracks forks.parted awaits
        · rw [unsupported] at awaits
          exact absurd awaits (Form.not_awaits_of_passes further marks
            (Form.passes_unsupported landmark _ _) forks.first_ahead)

theorem concurs_nest (nesting deepest : Nat → Nat → Nat) :
    Concurs stop other tail graft
      (modify fun state => { state with
        nesting := nesting state.nesting state.deepest
        deepest := deepest state.nesting state.deepest } : Analysis Unit) :=
  tracks_modify (fun _ => id) fun ⟨common, forks⟩ _ => ⟨common, { forks with }⟩

theorem concurs_nestedStatements (marks : landmark.Marks stop)
    (otherMarks : otherLandmark.Marks other) (blinds : landmark.Blinds otherLandmark)
    (room : Nat) : Concurs stop other tail graft (nestedStatements room) := by
  induction room with
  | zero =>
      refine tracks_of_reports (fun state => ?_) _
      have reported : (reportHere (.general .nestedTooDeeply) state).2.reports ≠ [] :=
        List.cons_ne_nil _ _
      exact chained_further.reports_ne_nil (further_skipScope _) reported
  | succ room ih =>
      have each : Concurs stop other tail graft (statement (nestedStatements room)) :=
        concurs_statement marks otherMarks blinds (further_nestedStatements room) ih
      apply tracks_then
      · exact concurs_nest (fun nesting _ => nesting + 1)
          fun nesting deepest => max deepest (nesting + 1)
      intro _
      apply tracks_then ((inStep_parted _ _ _ _).tracks_whilst
        (concurs_ask marks otherMarks blinds.begins) each)
      intro _
      exact concurs_nest (fun nesting _ => nesting - 1) fun _ deepest => deepest

end Parted

end CobolCheck
