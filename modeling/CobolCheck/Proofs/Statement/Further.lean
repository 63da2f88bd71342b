import CobolCheck.Proofs.Analysis.Further
import CobolCheck.Proofs.Statement.Parallel

/-!
# How far statements go

Every statement passes over its first word at least, and so does every part that a statement
repeats. What a form passes over whatever it finds is read off the form.
-/

namespace CobolCheck

open Analysis State

namespace Form

/-- How many tokens a form passes over, whatever it finds. -/
def least : Form → Nat
  | seq first second => first.least + second.least
  | branch _ yes no => min yes.least no.least
  | accept => 1
  | skip => 1
  | expect _ => 1
  | choose _ _ => 1
  | operand _ _ => 1
  | _ => 0

/-- Whether every part that is repeated passes over a token, and is not asked for at the end
of the input. -/
def progresses : Form → Bool
  | seq first second => first.progresses && second.progresses
  | branch _ yes no => yes.progresses && no.progresses
  | many test body => test.failsAtEnd && decide (1 ≤ body.least) && body.progresses
  | phrases _ positive negative _ =>
      decide (1 ≤ positive.least) && decide (1 ≤ negative.least) && positive.progresses &&
        negative.progresses
  | _ => true

/-- Whether a form is a part of another one. -/
inductive Part (part : Form) : Form → Prop
  | refl : Part part part
  | first {first second : Form} (within : Part part first) : Part part (seq first second)
  | second {first second : Form} (within : Part part second) : Part part (seq first second)
  | yes {test : Test} {yes no : Form} (within : Part part yes) : Part part (branch test yes no)
  | no {test : Test} {yes no : Form} (within : Part part no) : Part part (branch test yes no)
  | body {test : Test} {body : Form} (within : Part part body) : Part part (many test body)
  | positive {phrase : Phrase} {positive negative : Form} {marker : Option String}
      (within : Part part positive) : Part part (phrases phrase positive negative marker)
  | negative {phrase : Phrase} {positive negative : Form} {marker : Option String}
      (within : Part part negative) : Part part (phrases phrase positive negative marker)

theorem Part.progresses {part whole : Form} (within : Part part whole)
    (all : whole.progresses = true) : part.progresses = true := by
  induction within with
  | refl => exact all
  | first _ ih => exact ih (Bool.and_eq_true_iff.mp all).1
  | second _ ih => exact ih (Bool.and_eq_true_iff.mp all).2
  | yes _ ih => exact ih (Bool.and_eq_true_iff.mp all).1
  | no _ ih => exact ih (Bool.and_eq_true_iff.mp all).2
  | body _ ih => exact ih (Bool.and_eq_true_iff.mp all).2
  | positive _ ih => exact ih (Bool.and_eq_true_iff.mp (Bool.and_eq_true_iff.mp all).1).2
  | negative _ ih => exact ih (Bool.and_eq_true_iff.mp all).2

theorem one_le_least_ofKeyword (keyword : String) : 1 ≤ (ofKeyword keyword).least := by
  unfold ofKeyword
  split <;> exact Nat.le_of_ble_eq_true rfl

theorem progresses_ofKeyword (keyword : String) : (ofKeyword keyword).progresses = true := by
  unfold ofKeyword
  split <;> rfl

/-- What a pair of conditional phrases does for each of its forms. -/
def phraseBody (inner : Analysis Unit) (positive negative : Form) : Polarity → Analysis Unit
  | .positive => positive.run inner
  | .negative => negative.run inner

end Form

theorem Phrase.failsAtEnd_ahead (phrase : Phrase) (polarity : Polarity) :
    (phrase.ahead polarity).failsAtEnd = true := by
  cases phrase <;> cases polarity <;> rfl

namespace Analysis

variable {inner : Analysis Unit}

/-! ## Forms -/

theorem further_condition (delimiter : String) : Obeys (Further 0) (condition delimiter) :=
  further_of_tracks fun start => (parallel_alone start).tracks_condition delimiter

theorem further_arithmetic : Obeys (Further 0) arithmetic :=
  further_of_tracks fun start => (parallel_alone start).tracks_arithmetic

theorem further_phraseAhead (phrase : Phrase) : Obeys (Further 0) (Form.phraseAhead phrase) :=
  further_of_tracks fun start => (parallel_alone start).tracks_phraseAhead phrase

theorem further_endMarker (required : Bool) (marker : String) :
    Obeys (Further 0) (Form.endMarker required marker) :=
  further_of_tracks fun start => (parallel_alone start).tracks_endMarker required marker

theorem further_phraseRound (phrase : Phrase) {body : Polarity → Analysis Unit}
    (further : ∀ polarity, Obeys (Further 0) (body polarity)) (seen : SeenForms) :
    Obeys (Further 0) (Form.phraseRound phrase body seen) := by
  refine further_first (further_phraseAhead phrase) fun found => ?_
  cases found with
  | none => exact Further.refl
  | some polarity =>
      have rest : Obeys (Further 0)
          (body polarity >>= fun _ => pure (some (seen.insert polarity))) :=
        further_first (further polarity) fun _ => Further.refl
      exact obeys_ite _ (further_first (further_reportHere _) fun _ => rest) rest

/-- A form passes over as many tokens as it always does, if the statements nested in it do
not go back. -/
theorem further_run (nested : Obeys (Further 0) inner) (form : Form) :
    Obeys (Further form.least) (form.run inner) := by
  have obeyed {form : Form} (further : Obeys (Further form.least) (form.run inner)) :
      Obeys (Further 0) (form.run inner) :=
    further_zero further
  induction form with
  | done => exact Further.refl
  | seq first second ihFirst ihSecond => exact further_bind ihFirst fun _ => ihSecond
  | branch test yes no ihYes ihNo =>
      exact further_choice (further_mono (Nat.min_le_left _ _) ihYes)
        (further_mono (Nat.min_le_right _ _) ihNo)
  | many test body ih => exact chained_further.obeys_whilst ((obeyed ih).obeysFrom _)
  | accept => exact further_accept
  | skip => exact further_skip
  | expect literal => exact further_expect literal
  | choose literals category => exact further_choose literals category
  | operand categories description => exact further_operand categories description
  | report cause => exact further_reportHere cause
  | condition delimiter => exact further_condition delimiter
  | arithmetic => exact further_arithmetic
  | nested => exact nested
  | phrases phrase positive negative marker ihPositive ihNegative =>
      have body : ∀ polarity, Obeys (Further 0) (Form.phraseBody inner positive negative polarity)
        | .positive => obeyed ihPositive
        | .negative => obeyed ihNegative
      have rounds := chained_further.obeys_loop (further_phraseRound phrase body) {}
      refine further_first rounds fun seen => ?_
      cases marker with
      | none => exact Further.refl
      | some marker => exact further_endMarker _ marker

/-- At the end of the input no phrase begins. -/
theorem phraseAhead_of_finished (phrase : Phrase) {state : State} (ended : state.Ended)
    (finished : state.ahead = []) : Form.phraseAhead phrase state = (none, state) := by
  have fails (polarity : Polarity) : ¬(phrase.ahead polarity).holds state = true := fun held =>
    ended.ahead_ne_nil (phrase.failsAtEnd_ahead polarity) held finished
  rw [Form.phraseAhead, run_bind, run_ask, run_ite, if_neg (fails .positive), run_bind, run_ask,
    run_ite, if_neg (fails .negative)]
  rfl

/-- A conditional phrase is begun by a word, which it passes over. -/
theorem progresses_phraseRound (phrase : Phrase) {body : Polarity → Analysis Unit}
    (further : ∀ polarity, Obeys (Further 1) (body polarity)) :
    Progresses (Form.phraseRound phrase body) := by
  refine progresses_of_asks (fun seen => ?_) fun _ state ended finished => ?_
  · refine asks_last (further_phraseAhead phrase) fun found => ?_
    cases found with
    | none => exact asks_none 1
    | some polarity =>
        have rest := asks_some (fun _ => seen.insert polarity) (further polarity)
        exact asks_ite _ (asks_last (further_reportHere _) fun _ => rest) rest
  · rw [Form.phraseRound, run_bind, phraseAhead_of_finished phrase ended finished]
    rfl

/-! ## Statements -/

/-- A statement passes over its first word. -/
theorem further_statement (nested : Obeys (Further 0) inner) :
    Obeys (Further 1) (statement inner) :=
  further_last Further.refl fun keyword =>
    further_mono (Form.one_le_least_ofKeyword keyword) (further_run nested _)

theorem further_enter : Obeys (Further 0) enter :=
  fun state => (Step.note state _ _ _ _).further

theorem further_leave : Obeys (Further 0) leave :=
  fun state => (Step.note state _ _ _ _).further

/-- One token of a scope that is passed over, when `depth` IF statements in it are open. -/
def scopeRound (depth : Nat) : Analysis (Option Nat) := do
  if ← ask (scopeEnd depth) then return none
  else
    let next := openIfs depth (← word)
    skip
    return some next

theorem skipScope_eq : skipScope = discard (loop scopeRound 0) :=
  rfl

theorem further_scopeRound (depth : Nat) : Obeys (Further 0) (scopeRound depth) := by
  refine further_choice (further_pure _) ?_
  refine further_first (further_look _) fun text => ?_
  exact further_zero (further_first further_skip fun _ => further_pure _)

theorem further_skipScope : Obeys (Further 0) skipScope := by
  rw [skipScope_eq]
  exact chained_further.obeys_loop further_scopeRound 0

theorem further_nestedStatements (room : Nat) : Obeys (Further 0) (nestedStatements room) :=
  further_of_tracks fun start => (parallel_alone start).tracks_nestedStatements room

theorem further_resumeAfterSentence : Obeys (Further 0) resumeAfterSentence :=
  further_of_tracks fun start => (parallel_alone start).tracks_resumeAfterSentence

/-- A sentence passes over the first word of its statement. -/
theorem further_sentencePart (limit : Nat) : Obeys (Further 1) (sentencePart limit) := by
  refine further_first (further_statement (further_nestedStatements limit)) fun _ => ?_
  refine further_choice (further_pure _) ?_
  refine further_first (further_optional ".") fun closed => obeys_ite _ Further.refl ?_
  exact further_first (further_reportHere _) fun _ => further_resumeAfterSentence

theorem further_sentences (limit : Nat) : Obeys (Further 0) (sentences limit) :=
  chained_further.obeys_whilst ((further_zero (further_sentencePart limit)).obeysFrom _)

/-! ## Loops of statements -/

/-- What a statement repeats under a test. -/
theorem progresses_many {keyword : String} {test : Test} {body : Form}
    (part : (Form.many test body).Part (Form.ofKeyword keyword))
    (nested : Obeys (Further 0) inner) : Progresses (under test (body.run inner)) := by
  have all := part.progresses (Form.progresses_ofKeyword keyword)
  rw [Form.progresses, Bool.and_eq_true, Bool.and_eq_true, decide_eq_true_iff] at all
  exact progresses_under all.1.1 (further_mono all.1.2 (further_run nested body))

/-- The conditional phrases of a statement. -/
theorem progresses_phrases {keyword : String} {phrase : Phrase} {positive negative : Form}
    {marker : Option String}
    (part : (Form.phrases phrase positive negative marker).Part (Form.ofKeyword keyword))
    (nested : Obeys (Further 0) inner) :
    Progresses (Form.phraseRound phrase (Form.phraseBody inner positive negative)) := by
  have all := part.progresses (Form.progresses_ofKeyword keyword)
  rw [Form.progresses, Bool.and_eq_true, Bool.and_eq_true, Bool.and_eq_true, decide_eq_true_iff,
    decide_eq_true_iff] at all
  refine progresses_phraseRound phrase fun polarity => ?_
  cases polarity with
  | positive => exact further_mono all.1.1.1 (further_run nested positive)
  | negative => exact further_mono all.1.1.2 (further_run nested negative)

/-! ## Loops of expressions -/

/-- A reading takes up a word at least. -/
theorem asks_reading {α : Type} {afterOperand : Bool} {rest : Reading → Analysis (Option α)}
    (asks : ∀ next, 1 ≤ next.count → Asks 1 (rest next)) :
    Asks 1 (reading afterOperand >>= rest) :=
  fun _ _ _ ran => asks _ (Reading.one_le_count _ _ _) ran

/-- A condition is read term by term. -/
theorem progresses_readTerm (delimiter : String) : Progresses (readTerm delimiter) := by
  refine progresses_of_asks (fun terms => ?_) fun terms state ended finished => ?_
  · refine asks_ask (asks_none 1) (asks_last (further_look State.current) fun first => ?_)
    exact asks_reading fun next enough =>
      asks_some (fun _ => (next.term? first).toList ++ terms)
        (further_mono enough (further_acceptMany next.count))
  · have ends : (conditionEnd delimiter).holds state = true := by
      simp [conditionEnd, ended.holds_eof finished]
    rw [readTerm, run_bind, run_ask, if_pos ends]
    rfl

theorem further_complain (token : Token) (problem : Problem) (scan : ArithmeticScan) :
    Obeys (Further 0) (complain token problem scan) :=
  further_first (further_report token _) fun _ => further_pure _

theorem further_complainOfTrailing (scan : ArithmeticScan) :
    Obeys (Further 0) (complainOfTrailing scan) := by
  unfold complainOfTrailing
  split
  · exact further_complain _ _ scan
  · exact further_pure scan

theorem further_closeParenthesis (token : Token) (scan : ArithmeticScan) :
    Obeys (Further 1) (closeParenthesis token scan) := by
  have rest (scan : ArithmeticScan) : Obeys (Further 1) (do
      accept
      return { scan with
        preceding := .closing
        depth := scan.depth - 1
        crossed := scan.crossed || scan.depth == 0 }) :=
    further_first further_accept fun _ => further_pure _
  unfold closeParenthesis
  split
  · exact further_last (further_complain _ _ scan) rest
  · exact further_last (further_complainOfTrailing scan) rest

theorem further_readOperator (token : Token) (scan : ArithmeticScan) :
    Obeys (Further 1) (readOperator token scan) := by
  have rest (scan : ArithmeticScan) : Obeys (Further 1) (do
      accept
      return { scan with preceding := .operator (some token) }) :=
    further_first further_accept fun _ => further_pure _
  have complained (problem : Problem) := further_last (further_complain token problem scan) rest
  unfold readOperator
  split
  · exact complained _
  · exact obeys_ite _ (complained _) (rest scan)
  · exact obeys_ite _ (complained _) (rest scan)
  · exact rest scan

/-- An arithmetic expression is read token by token. -/
theorem progresses_readArithmetic : Progresses readArithmetic := by
  refine progresses_of_asks (fun scan => ?_) fun scan state ended finished => ?_
  · refine asks_last (further_look State.current) fun token => ?_
    split
    · exact asks_ite _ (asks_none 1) (asks_some _ further_accept)
    · exact asks_ite _ (asks_none 1) (asks_some _ further_accept)
    · refine asks_ite _ (asks_ite _ (asks_none 1) (asks_some _ further_accept)) ?_
      refine asks_ite _ (asks_some _ (further_closeParenthesis token scan)) ?_
      refine asks_ite _ (asks_some _ (further_readOperator token scan)) ?_
      refine asks_ite _ (asks_none 1) (asks_last (further_complain _ _ scan) fun scan => ?_)
      exact asks_some _ further_skip
    · exact asks_none 1
  · have category := (Test.holds_eof_iff state).mp (ended.holds_eof finished)
    rw [readArithmetic, run_bind, run_current]
    simp only [category]
    rfl

/-! ## Loops that pass over tokens -/

theorem progresses_scopeRound : Progresses scopeRound := by
  refine progresses_of_asks (fun depth => ?_) fun depth state ended finished => ?_
  · refine asks_ask (asks_none 1) ?_
    refine asks_last (further_look _) fun text => ?_
    exact asks_some (fun _ => openIfs depth text) further_skip
  · have ends : (scopeEnd depth).holds state = true := by
      unfold scopeEnd
      split <;> simp [ended.holds_eof finished]
    rw [scopeRound, run_bind, run_ask, if_pos ends]
    rfl

/-! ## Routines -/

theorem further_judgeCondition (first : Token) (terms : List Term) :
    Obeys (Further 0) (judgeCondition first terms) :=
  further_of_tracks fun start => (parallel_alone start).tracks_judgeCondition rfl
    ((parallel_alone start).refl_terms (mortal_alone start) terms)

theorem further_readTerm (delimiter : String) (terms : List Term) :
    Obeys (Further 0) (readTerm delimiter terms) :=
  further_of_tracks fun start => (parallel_alone start).tracks_readTerm delimiter
    ((parallel_alone start).refl_terms (mortal_alone start) terms)

theorem further_readArithmetic (scan : ArithmeticScan) : Obeys (Further 0) (readArithmetic scan) :=
  further_of_tracks fun start => (parallel_alone start).tracks_readArithmetic
    ((parallel_alone start).refl_scan (mortal_alone start) scan)

/-- The analyses that read expressions, statements and sentences. -/
inductive StatementRoutine (limit : Nat) : {α : Type} → Analysis α → Prop
  | readTerm (delimiter : String) (terms : List Term) :
      StatementRoutine limit (readTerm delimiter terms)
  | judgeCondition (first : Token) (terms : List Term) :
      StatementRoutine limit (judgeCondition first terms)
  | condition (delimiter : String) : StatementRoutine limit (condition delimiter)
  | complain (token : Token) (problem : Problem) (scan : ArithmeticScan) :
      StatementRoutine limit (complain token problem scan)
  | complainOfTrailing (scan : ArithmeticScan) : StatementRoutine limit (complainOfTrailing scan)
  | closeParenthesis (token : Token) (scan : ArithmeticScan) :
      StatementRoutine limit (closeParenthesis token scan)
  | readOperator (token : Token) (scan : ArithmeticScan) :
      StatementRoutine limit (readOperator token scan)
  | readArithmetic (scan : ArithmeticScan) : StatementRoutine limit (readArithmetic scan)
  | arithmetic : StatementRoutine limit arithmetic
  | phraseAhead (phrase : Phrase) : StatementRoutine limit (Form.phraseAhead phrase)
  | endMarker (required : Bool) (marker : String) :
      StatementRoutine limit (Form.endMarker required marker)
  | form (form : Form) (room : Nat) : StatementRoutine limit (form.run (nestedStatements room))
  | statement (room : Nat) : StatementRoutine limit (statement (nestedStatements room))
  | enter : StatementRoutine limit enter
  | leave : StatementRoutine limit leave
  | skipScope : StatementRoutine limit skipScope
  | nestedStatements (room : Nat) : StatementRoutine limit (nestedStatements room)
  | resumeAfterSentence : StatementRoutine limit resumeAfterSentence
  | sentencePart : StatementRoutine limit (sentencePart limit)
  | sentences : StatementRoutine limit (sentences limit)

theorem StatementRoutine.further {limit : Nat} {α : Type} {analysis : Analysis α}
    (routine : StatementRoutine limit analysis) : Obeys (Further 0) analysis := by
  have nested := further_nestedStatements
  cases routine with
  | readTerm delimiter terms => exact further_readTerm delimiter terms
  | judgeCondition first terms => exact further_judgeCondition first terms
  | condition delimiter => exact further_condition delimiter
  | complain token problem scan => exact further_complain token problem scan
  | complainOfTrailing scan => exact further_complainOfTrailing scan
  | closeParenthesis token scan => exact further_zero (further_closeParenthesis token scan)
  | readOperator token scan => exact further_zero (further_readOperator token scan)
  | readArithmetic scan => exact further_readArithmetic scan
  | arithmetic => exact further_arithmetic
  | phraseAhead phrase => exact further_phraseAhead phrase
  | endMarker required marker => exact further_endMarker required marker
  | form form room => exact further_zero (further_run (nested room) form)
  | statement room => exact further_zero (further_statement (nested room))
  | enter => exact further_enter
  | leave => exact further_leave
  | skipScope => exact further_skipScope
  | nestedStatements room => exact nested room
  | resumeAfterSentence => exact further_resumeAfterSentence
  | sentencePart => exact further_zero (further_sentencePart limit)
  | sentences => exact further_sentences limit

end Analysis

end CobolCheck
