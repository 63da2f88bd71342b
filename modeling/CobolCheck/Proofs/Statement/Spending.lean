import CobolCheck.Proofs.Analysis.Spending
import CobolCheck.Proofs.Expression.Scan
import CobolCheck.Proofs.Statement.Further

/-!
# What statements cost

The cost of a form is read off the form. Every statement begins with its keyword,
which pays for all that a statement reports besides what it repeats, so that a
sequence of statements costs nothing. This holds for a statement with an END
marker too: that it is missing is reported once for each of the statements that
are nested in each other, but each of these has a keyword.
-/

namespace CobolCheck

open Analysis State

namespace Form

/-- What a form may report beyond what the tokens it passes over pay for. -/
def cost : Form → Nat
  | seq first second => first.cost + second.cost
  | branch _ yes no => max yes.cost no.cost
  | expect _ => 1
  | choose _ _ => 1
  | operand _ _ => 1
  | report _ => 1
  | condition _ => 2
  | arithmetic => 2
  | nested => 1
  | phrases _ _ _ marker => if marker.isSome then 1 else 0
  | _ => 0

/-- Whether the first token that a form passes over has paid for nothing yet. -/
def prompt : Form → Bool
  | seq first second => first.prompt && second.prompt
  | branch _ yes no => yes.prompt && no.prompt
  | many _ _ => false
  | condition _ => false
  | arithmetic => false
  | nested => false
  | phrases _ _ _ _ => false
  | _ => true

/-- Whether a form passes over a token that has paid for nothing yet. -/
def pays : Form → Bool
  | seq first second => first.pays || first.prompt && second.pays
  | branch _ yes no => yes.pays && no.pays
  | accept => true
  | skip => true
  | expect _ => true
  | choose _ _ => true
  | operand _ _ => true
  | _ => false

/-- Whether every part that is repeated pays for itself, and a conditional
phrase also for the report that the statement has it already. -/
def affordable : Form → Bool
  | seq first second => first.affordable && second.affordable
  | branch _ yes no => yes.affordable && no.affordable
  | many test body => test.failsAtEnd && body.pays && decide (body.cost ≤ 64) && body.affordable
  | phrases _ positive negative _ =>
      positive.pays && negative.pays && decide (positive.cost < 64) &&
        decide (negative.cost < 64) && positive.affordable && negative.affordable
  | _ => true

theorem affordable_ofKeyword (keyword : String) : (ofKeyword keyword).affordable = true := by
  unfold ofKeyword
  split <;> rfl

theorem pays_ofKeyword (keyword : String) : (ofKeyword keyword).pays = true := by
  unfold ofKeyword
  split <;> rfl

theorem cost_ofKeyword_lt (keyword : String) : (ofKeyword keyword).cost < 64 := by
  unfold ofKeyword
  split <;> exact Nat.le_of_ble_eq_true rfl

end Form

namespace Analysis

variable {inner : Analysis Unit}

/-! ## Expressions -/

/-- What only passes over tokens costs nothing. -/
theorem spends_of_further {before after : State} (further : Further 0 before after)
    (reports_eq : after.reports = before.reports) : Spends 0 before after where
  sentinel_eq := further.sentinel_eq
  remaining_le := further.remaining_le
  expense_le := by
    have less := further.remaining_le
    rw [expense, expense, reports_eq]
    omega

theorem spends_judgeCondition (first : Token) (terms : List Term) :
    Costs (Spends 2) (judgeCondition first terms) := by
  refine costs_ite _ (spends_mono (prompt_reportHere _).spends (Nat.le_succ 1)) ?_
  have judged {judge : Analysis Unit} (one : Costs (Spends 1) judge) (held : Prop)
      [Decidable held] (token : Token) (cause : Cause) :
      Costs (Spends 2) (if held then Analysis.report token cause >>= fun _ => judge else judge) :=
    costs_ite held (spends_bind (prompt_report _ _).spends fun _ => one)
      (spends_mono one (Nat.le_succ 1))
  cases Term.fault? (Term.postorder terms) with
  | none => exact judged (spends_mono (prompt_pure ()).spends (Nat.zero_le 1)) _ _ _
  | some token => exact judged (prompt_report token (.general .invalidCondition)).spends _ _ _

theorem spends_condition (delimiter : String) : Costs (Spends 2) (condition delimiter) := by
  have terms : Costs (Spends 0) (conditionTerms delimiter) := fun state _ =>
    spends_of_further (chained_further.obeys_loop (further_readTerm delimiter) [] state)
      (reports_conditionTerms delimiter state)
  intro state ended
  exact spends_bind terms (fun terms => spends_judgeCondition state.current terms) state ended

/-- A token pays for the report that is made of it. -/
theorem spends_of_takes {sound : Bool} {before after : State} (takes : Takes sound before after)
    (some : before.ahead ≠ []) : Spends 0 before after where
  sentinel_eq := takes.sentinel_eq
  remaining_le := by
    rw [remaining, remaining, takes.ahead_eq, List.length_tail]
    exact Nat.sub_le _ _
  expense_le := by
    have inside := List.length_pos_of_ne_nil some
    have reports_le := takes.reports_le
    rw [expense, expense, remaining, remaining, takes.ahead_eq, List.length_tail]
    omega

/-- An arithmetic expression is read at no cost: each token is reported once at most. -/
theorem spends_loop_readArithmetic (scan : ArithmeticScan) :
    Costs (Spends 0) (loop readArithmetic scan) := by
  refine spends_loop (fun scan next state after ended ran => ?_)
    (fun scan state after ended ran => ?_) scan
  · cases step : scan.next? state.current with
    | none =>
        rw [readArithmetic_of_none step] at ran
        cases ran
    | some read =>
        obtain ⟨_, same, takes⟩ := readArithmetic_of_some step
        rw [same] at ran
        obtain ⟨-, rfl⟩ := Prod.mk.inj ran
        have some : state.ahead ≠ [] := by
          intro finished
          rw [next?_of_finished ((Token.isEof_eq_true_iff _).mpr ended.2.1) finished] at step
          cases step
        exact spends_of_takes takes some
  · cases step : scan.next? state.current with
    | none =>
        rw [readArithmetic_of_none step] at ran
        obtain ⟨-, rfl⟩ := Prod.mk.inj ran
        exact .refl state
    | some read =>
        obtain ⟨_, same, _⟩ := readArithmetic_of_some step
        rw [same] at ran
        cases ran

theorem prompt_complain (token : Token) (problem : Problem) (scan : ArithmeticScan) :
    Costs (Prompt 1) (complain token problem scan) :=
  prompt_bind (prompt_report token _) fun _ => prompt_pure _

theorem prompt_complainOfTrailing (scan : ArithmeticScan) :
    Costs (Prompt 1) (complainOfTrailing scan) := by
  unfold complainOfTrailing
  split
  · exact prompt_complain _ _ scan
  · exact prompt_mono (prompt_pure scan) (Nat.zero_le 1)

theorem spends_arithmetic : Costs (Spends 2) arithmetic := by
  have quiet (scan : ArithmeticScan) : Costs (Spends 0) (pure scan.sound : Analysis Bool) :=
    (prompt_pure _).spends
  unfold arithmetic
  refine spends_bind (m := 0) (n := 2) ((prompt_look _).spends) fun first => ?_
  have settled (scan : ArithmeticScan) : Costs (Spends 1) (do
      let scan ←
        if scan.crossed || scan.depth != 0 then complain first .unbalancedArithmetic scan
        else pure scan
      return scan.sound) := by
    refine costs_ite _ ?_ (spends_mono (quiet scan) (Nat.zero_le 1))
    exact spends_bind ((prompt_complain _ _ scan).spends) quiet
  refine spends_bind (m := 0) (n := 2) (spends_loop_readArithmetic {}) fun scan => ?_
  refine costs_ite _ ?_ ?_
  · exact spends_bind (m := 1) (n := 1) ((prompt_reportHere _).spends)
      fun _ => settled { scan with sound := false }
  · exact spends_bind (m := 1) (n := 1)
      ((prompt_complainOfTrailing scan).spends) settled

/-! ## Forms -/

theorem prompt_endMarker (required : Bool) (marker : String) :
    Costs (Prompt 1) (Form.endMarker required marker) := by
  have missing : Costs (Prompt 1) (do
      if required then reportHere (.expectedLiteral marker)) :=
    costs_ite _ (prompt_reportHere _) (prompt_mono (prompt_pure ()) (Nat.zero_le 1))
  refine prompt_bind (m := 0) (n := 1) (prompt_optional marker) fun found => ?_
  exact costs_ite _ (prompt_mono (prompt_pure ()) (Nat.zero_le 1)) missing

/-- A conditional phrase pays for itself, and for the report that the statement
has it already. -/
theorem spends_phraseRound (phrase : Phrase) {body : Polarity → Analysis Unit} {cost : Nat}
    (enough : cost < 64) (pays : ∀ polarity, Costs (Pays cost) (body polarity))
    (seen : SeenForms) : Costs (Spends 0) (Form.phraseRound phrase body seen) := by
  have rest (polarity : Polarity) : Costs (Pays cost)
      (body polarity >>= fun _ => pure (some (seen.insert polarity))) :=
    pays_first (pays polarity) fun _ => (prompt_pure _).spends
  have round (polarity : Polarity) : Costs (Pays (1 + cost)) (do
      if seen.has polarity then reportHere (.general (.repeatedPhrase phrase polarity))
      body polarity
      return some (seen.insert polarity)) :=
    costs_ite _ (pays_last (prompt_reportHere _) fun _ => rest polarity)
      (pays_mono (rest polarity) (Nat.le_add_left _ _))
  intro state ended
  have still : (Form.phraseAhead phrase state).2 = state := by rw [Form.run_phraseAhead]
  rw [Form.phraseRound, run_bind, still]
  cases found : (Form.phraseAhead phrase state).1 with
  | none => exact .refl state
  | some polarity =>
      refine (round polarity state ended).spends (by omega) fun finished => ?_
      rw [phraseAhead_of_finished phrase ended finished] at found
      cases found

/-- Whether a form costs what is read off it. -/
structure Priced (inner : Analysis Unit) (form : Form) : Prop where
  spends : Costs (Spends form.cost) (form.run inner)
  prompt : form.prompt = true → Costs (Prompt form.cost) (form.run inner)
  pays : form.pays = true → Costs (Pays form.cost) (form.run inner)

namespace Priced

variable {form first second yes no body positive negative : Form}

/-- A form that pays is priced as such. -/
theorem of_pays (pays : Costs (Pays form.cost) (form.run inner)) : Priced inner form where
  spends := pays.prompt.spends
  prompt _ := pays.prompt
  pays _ := pays

theorem of_prompt (prompt : Costs (Prompt form.cost) (form.run inner))
    (unpaid : form.pays = false) : Priced inner form where
  spends := prompt.spends
  prompt _ := prompt
  pays paid := nomatch unpaid.symm.trans paid

theorem of_spends (spends : Costs (Spends form.cost) (form.run inner))
    (late : form.prompt = false) (unpaid : form.pays = false) : Priced inner form where
  spends := spends
  prompt prompt := nomatch late.symm.trans prompt
  pays paid := nomatch unpaid.symm.trans paid

theorem seq (early : Priced inner first) (late : Priced inner second) :
    Priced inner (.seq first second) where
  spends := spends_bind early.spends fun _ => late.spends
  prompt both :=
    have ⟨one, other⟩ := Bool.and_eq_true_iff.mp both
    prompt_bind (early.prompt one) fun _ => late.prompt other
  pays either := by
    rcases Bool.or_eq_true_iff.mp either with one | other
    · exact pays_first (early.pays one) fun _ => late.spends
    · have ⟨prompt, pays⟩ := Bool.and_eq_true_iff.mp other
      exact pays_last (early.prompt prompt) fun _ => late.pays pays

theorem branch (test : Test) (held : Priced inner yes) (otherwise : Priced inner no) :
    Priced inner (.branch test yes no) where
  spends := costs_choice (spends_mono held.spends (Nat.le_max_left _ _))
    (spends_mono otherwise.spends (Nat.le_max_right _ _))
  prompt both :=
    have ⟨one, other⟩ := Bool.and_eq_true_iff.mp both
    costs_choice (prompt_mono (held.prompt one) (Nat.le_max_left _ _))
      (prompt_mono (otherwise.prompt other) (Nat.le_max_right _ _))
  pays both :=
    have ⟨one, other⟩ := Bool.and_eq_true_iff.mp both
    costs_choice (pays_mono (held.pays one) (Nat.le_max_left _ _))
      (pays_mono (otherwise.pays other) (Nat.le_max_right _ _))

theorem many {test : Test} (fails : test.failsAtEnd = true) (priced : Priced inner body)
    (pays : body.pays = true) (enough : body.cost ≤ 64) : Priced inner (.many test body) :=
  of_spends (spends_whilst fails (priced.pays pays) enough) rfl rfl

theorem phrases (phrase : Phrase) (marker : Option String) (first : Priced inner positive)
    (second : Priced inner negative) (pays : positive.pays = true ∧ negative.pays = true)
    (enough : positive.cost < 64 ∧ negative.cost < 64) :
    Priced inner (.phrases phrase positive negative marker) := by
  refine of_spends ?_ rfl rfl
  have body : ∀ polarity, Costs (Pays (max positive.cost negative.cost))
      (Form.phraseBody inner positive negative polarity)
    | .positive => pays_mono (first.pays pays.1) (Nat.le_max_left _ _)
    | .negative => pays_mono (second.pays pays.2) (Nat.le_max_right _ _)
  have rounds : Costs (Spends 0)
      (loop (Form.phraseRound phrase (Form.phraseBody inner positive negative)) {}) :=
    spends_loop_same (spends_phraseRound phrase (Nat.max_lt.mpr enough) body) {}
  cases marker with
  | none =>
      exact spends_bind (n := 0) rounds fun seen => (prompt_pure ()).spends
  | some marker =>
      exact spends_bind (n := 1) rounds fun seen =>
        (prompt_endMarker _ marker).spends

end Priced

/-- The forms of all statements are priced if the statements nested in them cost
one report at most. -/
theorem priced_of_affordable (nested : Costs (Spends 1) inner) {form : Form}
    (affordable : form.affordable = true) : Priced inner form := by
  induction form with
  | done => exact .of_prompt (prompt_pure ()) rfl
  | seq first second ihFirst ihSecond =>
      have ⟨one, other⟩ := Bool.and_eq_true_iff.mp affordable
      exact .seq (ihFirst one) (ihSecond other)
  | branch test yes no ihYes ihNo =>
      have ⟨one, other⟩ := Bool.and_eq_true_iff.mp affordable
      exact .branch test (ihYes one) (ihNo other)
  | many test body ih =>
      simp only [Form.affordable, Bool.and_eq_true, decide_eq_true_eq] at affordable
      obtain ⟨⟨⟨fails, pays⟩, enough⟩, inside⟩ := affordable
      exact .many fails (ih inside) pays enough
  | accept => exact .of_pays pays_accept
  | skip => exact .of_pays pays_skip
  | expect literal => exact .of_pays (pays_expect literal)
  | choose literals category => exact .of_pays (pays_choose literals category)
  | operand categories description => exact .of_pays (pays_operand categories description)
  | report cause => exact .of_prompt (prompt_reportHere cause) rfl
  | condition delimiter => exact .of_spends (spends_condition delimiter) rfl rfl
  | arithmetic => exact .of_spends spends_arithmetic rfl rfl
  | nested => exact .of_spends nested rfl rfl
  | phrases phrase positive negative marker ihPositive ihNegative =>
      simp only [Form.affordable, Bool.and_eq_true, decide_eq_true_eq] at affordable
      obtain ⟨⟨⟨⟨⟨pays, alsoPays⟩, enough⟩, alsoEnough⟩, first⟩, second⟩ := affordable
      exact .phrases phrase marker (ihPositive first) (ihNegative second) ⟨pays, alsoPays⟩
        ⟨enough, alsoEnough⟩

/-! ## Statements -/

/-- A statement pays for itself, and for a report besides. -/
theorem pays_statement (nested : Costs (Spends 1) inner) : Costs (Pays 63) (statement inner) := by
  intro state ended
  have priced := priced_of_affordable nested (Form.affordable_ofKeyword state.current.value)
  have pays := priced.pays (Form.pays_ofKeyword _) state ended
  exact pays.mono (Nat.le_of_lt_succ (Form.cost_ofKeyword_lt _))

theorem spends_skipScope : Costs (Spends 0) skipScope := by
  have round (depth : Nat) : Costs (Spends 0) (scopeRound depth) := by
    refine costs_choice ((prompt_pure _).spends) ?_
    refine spends_bind (m := 0) (n := 0) ((prompt_look _).spends) fun text => ?_
    exact spends_bind (pays_skip.prompt.spends) fun _ => (prompt_pure _).spends
  rw [skipScope_eq]
  exact spends_loop_same round 0

/-- Nested statements cost nothing, except that there may be no room for them. -/
theorem spends_nestedStatements (room : Nat) : Costs (Spends 1) (nestedStatements room) := by
  induction room with
  | zero =>
      exact spends_bind (n := 0) ((prompt_reportHere _).spends)
        fun _ => spends_skipScope
  | succ room ih =>
      have enter : Costs (Spends 0) enter := fun state _ =>
        (prompt_of_eq state (enter state).2 rfl rfl rfl).toSpends
      have leave : Costs (Spends 1) leave := fun state _ =>
        (prompt_of_eq state (leave state).2 rfl rfl rfl).toSpends.mono (Nat.zero_le 1)
      have fails : Test.statement.failsAtEnd = true := rfl
      have statements := spends_whilst fails (pays_statement ih) (Nat.le_succ 63)
      exact spends_bind (m := 0) (n := 1) enter fun _ =>
        spends_bind (m := 0) (n := 1) statements fun _ => leave

theorem spends_resumeAfterSentence : Costs (Spends 0) resumeAfterSentence := by
  have fails : (Test.not (.or sentenceBreak (.is "."))).failsAtEnd = true := rfl
  have skipped := spends_whilst fails pays_skip (Nat.zero_le 64)
  exact spends_bind skipped fun _ => costs_choice ((prompt_pure ()).spends)
    (pays_accept.prompt.spends)

/-- A sentence pays for itself, and for the report that it has no period. -/
theorem pays_sentencePart (limit : Nat) : Costs (Pays 64) (sentencePart limit) := by
  have quiet : Costs (Spends 1) (pure () : Analysis Unit) :=
    spends_mono (prompt_pure ()).spends (Nat.zero_le 1)
  refine pays_first (n := 1) (pays_statement (spends_nestedStatements limit)) fun _ => ?_
  refine costs_choice quiet ?_
  refine spends_bind (m := 0) (n := 1) ((prompt_optional ".").spends)
    fun closed => costs_ite _ quiet ?_
  exact spends_bind (n := 0) ((prompt_reportHere _).spends)
    fun _ => spends_resumeAfterSentence

theorem spends_sentences (limit : Nat) : Costs (Spends 0) (sentences limit) :=
  spends_whilst rfl (pays_sentencePart limit) (Nat.le_refl 64)

end Analysis

end CobolCheck
