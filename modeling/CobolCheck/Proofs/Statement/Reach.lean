import CobolCheck.Proofs.Statement.Permitted

/-!
# How far statements reach

Statements are read one after the other and one inside the other, and every
sequence of them obeys what the single statements obey. No statement accepts
the end of the input.
-/

namespace CobolCheck

namespace Form

/-- Every statement stops before the end of the input. -/
theorem permitted_ofKeyword (keyword : String) :
    (ofKeyword keyword).permitted .endOfInput {} = true := by
  unfold ofKeyword
  split <;> rfl

/-- Every statement but IF and RETURN stops before the word END. -/
theorem permitted_ofKeyword_unitEnd {keyword : String} (plain : keyword ∉ ["IF", "RETURN"]) :
    (ofKeyword keyword).permitted .unitEnd {} = true := by
  unfold ofKeyword
  split
  case h_18 => exact absurd (by decide) plain
  case h_25 => exact absurd (by decide) plain
  all_goals rfl

/-- A statement begins with its keyword, unless it is not supported. -/
theorem exists_run_ofKeyword (keyword : String) :
    ofKeyword keyword = unsupported keyword ∨
      keyword ∈ Word.statementWords ∧ ∃ rest : Form, rest.permitted .endOfInput {} = true ∧
        ∀ inner, (ofKeyword keyword).run inner =
          Analysis.expect keyword >>= fun _ => rest.run inner := by
  unfold ofKeyword
  split
  -- each supported statement is its keyword and what follows that, or nothing more
  case h_7 => exact .inr ⟨by decide, done, rfl, fun _ => (bind_pure_unit).symm⟩
  case h_27 => exact .inr ⟨by decide, done, rfl, fun _ => (bind_pure_unit).symm⟩
  case h_34 => exact .inl rfl
  all_goals exact .inr ⟨by decide, _, by rfl, fun _ => rfl⟩

/-- A statement that is not supported is reported. -/
theorem reports_unsupported_ne_nil {inner : Analysis Unit}
    (inner_obeys : Analysis.Obeys State.Still inner) (keyword : String) (state : State) :
    ((unsupported keyword).run inner state).2.reports ≠ [] :=
  ((closed_still .endOfInput).run_of_permitted inner_obeys rfl
    (.nothing .endOfInput state)).2.reported rfl

end Form

namespace Closed

open Analysis

variable {landmark : Landmark} {R : State → State → Prop}

/-! ## Passing over tokens -/

theorem obeysFrom_skipScope (closed : Closed landmark R) :
    ObeysFrom (fun state => state.reports ≠ []) R skipScope := by
  intro state reported
  rw [skipScope, run_discard]
  refine closed.loop_of_reached (fun depth middle reached => ?_) 0
  rw [run_bind, run_ask, run_ite]
  split
  · exact closed.refl middle
  · exact closed.move (.skip middle (closed.reports_ne_nil reached reported))

theorem obeysFrom_resumeAfterSentence (closed : Closed landmark R) :
    ObeysFrom (fun state => state.reports ≠ []) R resumeAfterSentence := by
  intro state reported
  have reached := closed.obeysFrom_whilst_skip (.not (.or sentenceBreak (.is "."))) state reported
  apply closed.trans reached
  rw [resumeAfterSentence, run_bind, run_bind, run_ask, run_ite]
  split
  · exact closed.refl _
  · exact closed.move (.recover _ (closed.reports_ne_nil reached reported))

/-! ## Sequences of statements -/

/-- A statement obeys a relation that the form of its keyword obeys. -/
theorem obeys_statement {inner : Analysis Unit}
    (each : ∀ keyword, Obeys R ((Form.ofKeyword keyword).run inner)) :
    Obeys R (statement inner) :=
  fun state => each state.current.value state

theorem obeys_nestedStatements (closed : Closed landmark R)
    (each : ∀ room, Obeys R (nestedStatements room) →
      ∀ keyword, Obeys R ((Form.ofKeyword keyword).run (nestedStatements room)))
    (room : Nat) : Obeys R (nestedStatements room) := by
  induction room with
  | zero =>
      exact closed.obeys_reportHere_bind _ closed.obeysFrom_skipScope
  | succ room ih =>
      apply closed.obeys_bind (fun state => closed.move (.nest state _ _))
      intro _
      refine closed.obeys_bind (closed.obeys_whilst fun state _ => ?_) fun _ => ?_
      · exact obeys_statement (each _ ih) state
      · exact fun state => closed.move (.nest state _ _)

theorem obeys_sentencePart (closed : Closed landmark R) (period : "." ≠ landmark.word)
    (each : ∀ room, Obeys R (nestedStatements room) →
      ∀ keyword, Obeys R ((Form.ofKeyword keyword).run (nestedStatements room)))
    (limit : Nat) : Obeys R (sentencePart limit) := by
  refine closed.obeys_bind (obeys_statement (each _ (closed.obeys_nestedStatements each limit)))
    fun _ => ?_
  refine obeys_ask (fun state _ => closed.refl state) (Obeys.obeysFrom ?_ _)
  refine closed.obeys_bind (closed.obeys_optional period) fun present => ?_
  refine obeys_ite _ (closed.obeys_pure _) ?_
  exact closed.obeys_reportHere_bind _ closed.obeysFrom_resumeAfterSentence

theorem obeys_sentences (closed : Closed landmark R) (period : "." ≠ landmark.word)
    (each : ∀ room, Obeys R (nestedStatements room) →
      ∀ keyword, Obeys R ((Form.ofKeyword keyword).run (nestedStatements room)))
    (limit : Nat) : Obeys R (sentences limit) :=
  closed.obeys_whilst ((closed.obeys_sentencePart period each limit).obeysFrom _)

/-- Statements obey every closed relation that only the end of the input limits. -/
theorem obeys_all_nestedStatements (closed : Closed .endOfInput R) (room : Nat) :
    Obeys R (nestedStatements room) :=
  closed.obeys_nestedStatements (fun _ obeyed keyword =>
    closed.obeys_run_of_permitted obeyed _ (Form.permitted_ofKeyword keyword)) room

theorem obeys_all_statement (closed : Closed .endOfInput R) (room : Nat) :
    Obeys R (statement (nestedStatements room)) :=
  obeys_statement fun keyword => closed.obeys_run_of_permitted
    (closed.obeys_all_nestedStatements room) _ (Form.permitted_ofKeyword keyword)

theorem obeys_all_sentencePart (closed : Closed .endOfInput R) (limit : Nat) :
    Obeys R (sentencePart limit) :=
  closed.obeys_sentencePart (by decide) (fun _ obeyed keyword =>
    closed.obeys_run_of_permitted obeyed _ (Form.permitted_ofKeyword keyword)) limit

theorem obeys_all_sentences (closed : Closed .endOfInput R) (limit : Nat) :
    Obeys R (sentences limit) :=
  closed.obeys_sentences (by decide) (fun _ obeyed keyword =>
    closed.obeys_run_of_permitted obeyed _ (Form.permitted_ofKeyword keyword)) limit

end Closed

end CobolCheck
