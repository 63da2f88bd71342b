import CobolCheck.Proofs.Statement.Parted
import CobolCheck.Proofs.Statement.Shallow

/-!
# Statements in texts that fork

Two texts fork behind the END marker of an IF statement. In one of them a period
follows, in the other one anything. A statement that is read without a report
leaves both texts before the marker, or else it is the IF statement that the
marker closes, and leaves both texts behind it.

No statement nested in another one can end at the period. The IF statement around
it would miss its own END marker there, and so would every other statement that
has a conditional phrase.
-/

namespace CobolCheck

open Analysis State

/-- The END marker of an IF statement ends every condition, whatever follows it. -/
theorem Landmark.blinds_endIf : endIf.Blinds endIf where
  begins := rfl
  each keyword := by
    unfold Form.ofKeyword
    split
    case h_34 => exact .inr rfl
    all_goals exact .inl rfl

/-! ## Staying before the landmark -/

namespace Form

/-- Whether no statements are nested in a form. -/
def flat : Form → Bool
  | seq first second => first.flat && second.flat
  | branch _ yes no => yes.flat && no.flat
  | many _ body => body.flat
  | nested => false
  | phrases _ positive negative _ => positive.flat && negative.flat
  | _ => true

/-- Whether statements are nested in a form only within conditional phrases, whose
END marker is neither the landmark nor the word that comes behind it, and whether the
form accepts no landmark otherwise. The statements nested in it may accept one, but
they stay before the word behind it. -/
def encloses (landmark behind : Landmark) (notes : Notes) : Form → Bool
  | seq first second =>
      first.encloses landmark behind notes && second.encloses landmark behind (first.leave notes)
  | branch test yes no =>
      yes.encloses landmark behind (notes.learn landmark test) && no.encloses landmark behind notes
  | phrases phrase positive negative (some marker) =>
      marker != landmark.word && marker != behind.word &&
        (phrases phrase positive negative (some marker)).permitted behind {}
  | form => form.flat && form.permitted landmark notes

/-- Every statement stays before a period. -/
theorem permitted_ofKeyword_period (keyword : String) :
    (ofKeyword keyword).permitted .period {} = true := by
  unfold ofKeyword
  split <;> rfl

theorem encloses_ofKeyword {keyword : String} (other : keyword ≠ "IF") :
    (ofKeyword keyword).encloses .endIf .period {} = true := by
  unfold ofKeyword
  split
  case h_18 => exact absurd rfl other
  all_goals rfl

/-- What is nested does not matter to a form in which nothing is. -/
theorem run_of_flat {form : Form} (flat : form.flat = true) (inner other : Analysis Unit) :
    form.run inner = form.run other := by
  induction form with
  | seq first second ihFirst ihSecond =>
      rw [Form.flat, Bool.and_eq_true] at flat
      rw [Form.run, Form.run, ihFirst flat.1, ihSecond flat.2]
  | branch test yes no ihYes ihNo =>
      rw [Form.flat, Bool.and_eq_true] at flat
      rw [Form.run, Form.run, ihYes flat.1, ihNo flat.2]
  | many test body ih => rw [Form.run, Form.run, ih flat]
  | nested => cases flat
  | phrases phrase positive negative marker ihPositive ihNegative =>
      rw [Form.flat, Bool.and_eq_true] at flat
      rw [Form.run, Form.run, ihPositive flat.1, ihNegative flat.2]
  | _ => rfl

end Form

/-- A form without nested statements is read as if there were none. -/
theorem Closed.run_of_flat {landmark : Landmark} {R : State → State → Prop}
    (closed : Closed landmark R) {inner : Analysis Unit} {form : Form} {notes : Notes}
    (flat : form.flat = true) (permitted : form.permitted landmark notes = true) {state : State}
    (hold : notes.Hold landmark state) :
    R state (form.run inner state).2 ∧
      (form.leave notes).Hold landmark (form.run inner state).2 := by
  rw [Form.run_of_flat flat inner (pure ())]
  exact closed.run_of_permitted (closed.obeys_pure ()) permitted hold

namespace State

variable {stop : Token} {tail ahead all : List Token}

/-- Of two places in a text one comes before the other one. -/
theorem isSuffix_or_eq (whole : stop :: tail <:+ all) (inside : ahead <:+ all)
    (ends : tail <:+ ahead) : stop :: tail <:+ ahead ∨ ahead = tail := by
  rcases List.suffix_or_suffix_of_suffix whole inside with before | after
  · exact .inl before
  rcases List.suffix_cons_iff.mp after with same | later
  · exact .inl (same ▸ List.suffix_rfl)
  · exact .inr (later.eq_of_length_le ends.length_le)

/-- Where the token behind the last one in common is still ahead, both are, or the
cursor is between them. -/
theorem Upto.before_or_eq {state after : State} (upto : state.Upto all (stop :: tail))
    (begun : state.Quiet) (further : after.Upto all tail) (quiet : after.Quiet) :
    stop :: tail <:+ after.ahead ∨ after.ahead = tail := by
  obtain ⟨tokens_eq, ahead⟩ := upto begun
  obtain ⟨same, ends⟩ := further quiet
  exact isSuffix_or_eq (tokens_eq ▸ ahead.trans state.ahead_isSuffix)
    (same ▸ after.ahead_isSuffix) ends

end State

section Enclosed

variable {landmark behind : Landmark} {stop next : Token} {all rest : List Token}
  {inner : Analysis Unit}

/-- Conditional phrases stay before a landmark that is followed by neither of the words that
they could end with. Without a phrase nothing is read, and behind a phrase the END marker
of the statement is missing. -/
theorem upto_phrases (marks : landmark.Marks stop) (marksNext : behind.Marks next)
    (nested : Obeys (Keeps (Upto all (next :: rest))) inner) {phrase : Phrase}
    {positive negative : Form} {marker : String} {notes : Notes}
    (encloses : (Form.phrases phrase positive negative (some marker)).encloses landmark behind notes
      = true) :
    Obeys (Keeps (Upto all (stop :: next :: rest)))
      ((Form.phrases phrase positive negative (some marker)).run inner) := by
  rw [Form.encloses, Bool.and_eq_true, Bool.and_eq_true, bne_iff_ne, bne_iff_ne] at encloses
  obtain ⟨⟨foreign, differs⟩, permitted⟩ := encloses
  have closed := closed_upto marksNext all rest
  have ends (required : Bool) : Obeys (Keeps (Upto all (stop :: next :: rest)))
      (Form.endMarker required marker) :=
    (closed_upto marks all (next :: rest)).obeys_endMarker foreign required
  intro state
  have whole := closed.obeys_run_of_permitted nested _ permitted state
  refine ⟨whole.reports, fun upto quiet => ?_⟩
  have begun : state.Quiet := reports_eq_nil whole.reports quiet
  rw [Form.run, run_bind] at quiet ⊢
  cases ahead : (Form.phraseAhead phrase state).1 with
  | none =>
      rw [run_loop_phraseRound ahead] at quiet ⊢
      exact (ends _ state).kept upto quiet
  | some polarity =>
      dsimp only at quiet ⊢
      rw [seen_of_loop ahead] at quiet ⊢
      rw [Form.permitted, Bool.and_eq_true, Bool.and_eq_true] at permitted
      have rounds : Obeys (Keeps (Upto all (next :: rest)))
          (loop (Form.phraseRound phrase (Form.phraseBody inner positive negative)) {}) := by
        refine closed.obeys_loop
          (closed.toChained.obeys_phraseRound closed.obeys_reportHere phrase fun polarity => ?_) {}
        cases polarity with
        | positive => exact closed.obeys_run_of_permitted nested positive permitted.1.1
        | negative => exact closed.obeys_run_of_permitted nested negative permitted.1.2
      have value_eq := value_of_endMarker quiet
      have between := reports_eq_nil (ends true _).reports quiet
      have further := (rounds state).kept (upto.shorten (List.suffix_cons _ _))
      refine (ends true _).kept (fun _ => ⟨(further between).1, ?_⟩) quiet
      refine (upto.before_or_eq begun further between).resolve_right fun stuck => ?_
      have here := (congrArg Token.value (current_of_ahead_cons stuck)).trans marksNext.1
      exact differs (value_eq.symm.trans here)

/-- A form that encloses its statements stays before a landmark, if they stay before the word
behind it. -/
theorem upto_run_of_encloses (marks : landmark.Marks stop) (marksNext : behind.Marks next)
    (nested : Obeys (Keeps (Upto all (next :: rest))) inner) {form : Form} {notes : Notes}
    (encloses : form.encloses landmark behind notes = true) {state : State}
    (hold : notes.Hold landmark state) :
    Keeps (Upto all (stop :: next :: rest)) state (form.run inner state).2 ∧
      (form.leave notes).Hold landmark (form.run inner state).2 := by
  have closed := closed_upto marks all (next :: rest)
  have plain {form : Form} {notes : Notes} {state : State}
      (plain : (form.flat && form.permitted landmark notes) = true)
      (hold : notes.Hold landmark state) :
      Keeps (Upto all (stop :: next :: rest)) state (form.run inner state).2 ∧
        (form.leave notes).Hold landmark (form.run inner state).2 :=
    have ⟨flat, permitted⟩ := (Bool.and_eq_true _ _).mp plain
    closed.run_of_flat flat permitted hold
  induction form generalizing notes state with
  | seq first second ihFirst ihSecond =>
      rw [Form.encloses, Bool.and_eq_true] at encloses
      obtain ⟨reached, between⟩ := ihFirst encloses.1 hold
      obtain ⟨further, behind⟩ := ihSecond encloses.2 between
      exact ⟨closed.trans reached further, behind⟩
  | branch test yes no ihYes ihNo =>
      rw [Form.encloses, Bool.and_eq_true] at encloses
      have reached : Keeps (Upto all (stop :: next :: rest)) state
          ((Form.branch test yes no).run inner state).2 := by
        rw [Form.run_branch]
        split
        · next held => exact (ihYes encloses.1 (hold.learn held)).1
        · exact (ihNo encloses.2 hold).1
      exact ⟨reached, hold.forget reached.reports⟩
  | phrases phrase positive negative marker =>
      cases marker with
      | none => exact plain encloses hold
      | some marker =>
          exact closed.obeys_forget (upto_phrases marks marksNext nested encloses) hold
  | _ => exact plain encloses hold

end Enclosed

/-! ## Passing the landmark -/

/-- An IF statement without its END marker. -/
def Form.openIf : Form :=
  all [expect "IF", condition "THEN", optional "THEN", branchBody, optionally "ELSE" [branchBody]]

theorem Form.run_ifElse_openIf (inner : Analysis Unit) :
    ifElse.run inner = openIf.run inner >>= fun _ => (close "END-IF").run inner := by
  have whole := run_all_append inner [expect "IF", condition "THEN", optional "THEN", branchBody,
    optionally "ELSE" [branchBody]] [close "END-IF"]
  rw [run_all_cons inner (close "END-IF"), run_all_nil, bind_pure_unit] at whole
  exact whole

section Passed

variable {stop period : Token} {all rest graft : List Token} {first second : State}

theorem State.Approaches.isSuffix (approaches : Approaches stop rest graft first second) :
    stop :: rest <:+ first.ahead := by
  obtain ⟨common, forks⟩ := approaches
  rw [forks.first_ahead, List.append_assoc]
  exact List.suffix_append _ _

/-- The token at the cursor may be the last one in common. -/
theorem State.Approaches.skip_or (approaches : Approaches stop rest graft first second) :
    Approaches stop rest graft first.skip second.skip ∨
      Forks [] rest graft first.skip second.skip := by
  obtain ⟨common, forks⟩ := approaches
  cases common with
  | nil => exact .inr forks.skip
  | cons token common => exact .inl ⟨common, forks.skip⟩

/-- Nested statements stay before a period. -/
theorem upto_nestedStatements (marks : Landmark.period.Marks period) (all rest : List Token)
    (room : Nat) : Obeys (Keeps (Upto all (period :: rest))) (nestedStatements room) :=
  have closed := closed_upto marks all rest
  closed.obeys_nestedStatements (fun _ obeyed keyword =>
    closed.obeys_run_of_permitted obeyed _ (Form.permitted_ofKeyword_period keyword)) room

/-- No statement but IF passes the END marker of an IF statement before a period. -/
theorem upto_ofKeyword (stopMarks : Landmark.endIf.Marks stop)
    (periodMarks : Landmark.period.Marks period) (all rest : List Token) {keyword : String}
    (other : keyword ≠ "IF") (room : Nat) :
    Obeys (Keeps (Upto all (stop :: period :: rest)))
      ((Form.ofKeyword keyword).run (nestedStatements room)) :=
  fun state => (upto_run_of_encloses stopMarks periodMarks
    (upto_nestedStatements periodMarks all rest room) (Form.encloses_ofKeyword other)
    (.nothing _ state)).1

theorem run_close_of_value {marker : String} {inner : Analysis Unit} {state : State}
    (value_eq : state.current.value = marker) :
    (Form.close marker).run inner state = ((), (state.emit state.current).skip) := by
  rw [Form.close, Form.run, run_bind, run_ask, run_ite,
    if_pos ((Test.holds_is_iff state marker).mpr value_eq)]
  rfl

/-- The END marker of a statement may be the last token in common. -/
theorem State.Approaches.close_or (approaches : Approaches stop rest graft first second)
    {marker : String} (value_eq : first.current.value = marker) (inner : Analysis Unit) :
    Approaches stop rest graft ((Form.close marker).run inner first).2
        ((Form.close marker).run inner second).2 ∨
      Forks [] rest graft ((Form.close marker).run inner first).2
        ((Form.close marker).run inner second).2 := by
  have also : second.current.value = marker :=
    (congrArg Token.value approaches.current).trans value_eq
  rw [run_close_of_value value_eq, run_close_of_value also, approaches.current]
  exact (approaches.emit _).skip_or

/-- Whether nested statements are read alike before the landmark, and stay before the period
behind it. -/
structure NestsBefore (stop period : Token) (rest graft : List Token) (inner : Analysis Unit) :
    Prop where
  further : Obeys (Further 0) inner
  concurs : Concurs stop stop (period :: rest) graft inner
  upto (all : List Token) : Obeys (Keeps (Upto all (period :: rest))) inner

theorem nestsBefore_nestedStatements (stopMarks : Landmark.endIf.Marks stop)
    (periodMarks : Landmark.period.Marks period) (rest graft : List Token) (room : Nat) :
    NestsBefore stop period rest graft (nestedStatements room) where
  further := further_nestedStatements room
  concurs := concurs_nestedStatements stopMarks stopMarks Landmark.blinds_endIf room
  upto all := upto_nestedStatements periodMarks all rest room

/-- An IF statement is closed by the landmark, or it ends before it. -/
theorem approaches_or_forks_ifElse (stopMarks : Landmark.endIf.Marks stop)
    (periodMarks : Landmark.period.Marks period) {inner : Analysis Unit}
    (nests : NestsBefore stop period rest graft inner)
    (approaches : Approaches stop (period :: rest) graft first second)
    (quiet : (Form.ifElse.run inner first).2.Quiet) :
    Approaches stop (period :: rest) graft (Form.ifElse.run inner first).2
        (Form.ifElse.run inner second).2 ∨
      Forks [] (period :: rest) graft (Form.ifElse.run inner first).2
        (Form.ifElse.run inner second).2 := by
  rw [Form.run_ifElse_openIf, run_bind] at quiet ⊢
  rw [run_bind]
  have opened := (closed_upto periodMarks first.tokens rest).obeys_run_of_permitted
    (nests.upto first.tokens) Form.openIf rfl first
  have value_eq := value_of_close quiet
  have between : (Form.openIf.run inner first).2.Quiet :=
    reports_eq_nil (further_run nests.further (.close "END-IF") _).reports quiet
  have upto : first.Upto first.tokens (stop :: period :: rest) :=
    fun _ => ⟨rfl, approaches.isSuffix⟩
  have further := opened.kept (upto.shorten (List.suffix_cons _ _))
  have begun : first.Quiet := reports_eq_nil opened.reports between
  have ahead : stop :: period :: rest <:+ (Form.openIf.run inner first).2.ahead := by
    refine (upto.before_or_eq begun further between).resolve_right fun stuck => ?_
    have here := (congrArg Token.value (current_of_ahead_cons stuck)).trans periodMarks.1
    exact absurd (value_eq.symm.trans here) (by decide)
  have opens : Approaches stop (period :: rest) graft (Form.openIf.run inner first).2
      (Form.openIf.run inner second).2 :=
    ((tracks_approaches (concurs_run stopMarks stopMarks nests.further nests.concurs rfl)).tracks approaches
      ⟨between, ahead⟩).2
  exact opens.close_or value_eq inner

/-- A statement that is read without a report stays before the landmark, or else it is
the last thing that both texts have in common. -/
theorem approaches_or_forks_statement (stopMarks : Landmark.endIf.Marks stop)
    (periodMarks : Landmark.period.Marks period)
    (approaches : Approaches stop (period :: rest) graft first second) (limit : Nat)
    (quiet : (statement (nestedStatements limit) first).2.Quiet) :
    Approaches stop (period :: rest) graft (statement (nestedStatements limit) first).2
        (statement (nestedStatements limit) second).2 ∨
      Forks [] (period :: rest) graft (statement (nestedStatements limit) first).2
        (statement (nestedStatements limit) second).2 := by
  by_cases opens : first.current.value = "IF"
  · have run (state : State) (opens : state.current.value = "IF") :
        statement (nestedStatements limit) state =
          Form.ifElse.run (nestedStatements limit) state := by
      rw [statement, run_bind, run_word, opens]
      rfl
    rw [run first opens] at quiet ⊢
    rw [run second ((congrArg Token.value approaches.current).trans opens)]
    exact approaches_or_forks_ifElse stopMarks periodMarks
      (nestsBefore_nestedStatements stopMarks periodMarks rest graft limit) approaches quiet
  · left
    have keeps := upto_ofKeyword stopMarks periodMarks first.tokens rest opens limit first
    have awaits : Awaits (stop :: period :: rest) (statement (nestedStatements limit) first).2 :=
      ⟨quiet, (keeps.kept (fun _ => ⟨rfl, approaches.isSuffix⟩) quiet).2⟩
    have concurs : Concurs stop stop (period :: rest) graft (statement (nestedStatements limit)) :=
      concurs_statement stopMarks stopMarks Landmark.blinds_endIf
        (further_nestedStatements limit)
        (concurs_nestedStatements stopMarks stopMarks Landmark.blinds_endIf limit)
    exact ((tracks_approaches concurs).tracks approaches awaits).2

end Passed

end CobolCheck
