import CobolCheck.Proofs.Analysis.Move

/-!
# Relations that every analysis obeys

A relation between the states before and after an analysis is closed if it
contains every move and every sequence of moves. It is matching if it contains what the
matchers do. If it contains reports too it is guarded, where each of them leaves the
cursor where it is or passes over the token that it stands at, or remarking, where none
of them is about the symbol table. The matchers obey every matching relation as long as
what they match is no landmark, and so do loops of analyses that obey it.
-/

namespace CobolCheck

/-- Whether a cause says that an item is declared already or not at all. -/
def Cause.concernsTable : Cause → Bool
  | .general (.duplicateItem _) => true
  | .general .undeclaredReturningItem => true
  | _ => false

/-- A relation between the states before and after an analysis that contains
doing nothing and doing one thing after the other. Reports are never withdrawn. -/
structure Chained (R : State → State → Prop) : Prop where
  refl (state : State) : R state state
  trans {first second third : State} : R first second → R second third → R first third
  reports {before after : State} : R before after → before.reports <:+ after.reports

/-- A relation between the states before and after an analysis that contains
what matching tokens does: one that is no landmark is accepted, and where another
one was expected it is reported and passed over. -/
structure Matching (landmark : Landmark) (R : State → State → Prop) : Prop extends Chained R where
  allow (state : State) (clear : ¬ landmark.Marks state.current) :
    R state (state.emit state.current).skip
  mismatch (state : State) {cause : Cause} (expected : ∀ problem, cause ≠ .general problem) :
    R state (state.report state.current cause).skip

/-- A relation between the states before and after an analysis that also contains
reporting a cause, and passing over the token it was reported at. -/
structure Guarded (landmark : Landmark) (R : State → State → Prop) : Prop
    extends Matching landmark R where
  refuse (state : State) (cause : Cause) : R state (state.report state.current cause).skip
  tell (state : State) (token : Token) (cause : Cause) : R state (state.report token cause)
  mismatch := fun state _ _ => refuse state _

/-- A relation between the states before and after an analysis that also contains
reporting a cause that is not about the symbol table, wherever that is, and passing over
the token at the cursor with it. -/
structure Remarking (landmark : Landmark) (R : State → State → Prop) : Prop
    extends Matching landmark R where
  remark (state : State) (token : Token) (cause : Cause) (apart : cause.concernsTable = false) :
    R state (state.report token cause)
  pass (state : State) (token : Token) (cause : Cause) (apart : cause.concernsTable = false) :
    R state (state.report token cause).skip

/-- A relation between the states before and after an analysis that contains
every move and every sequence of moves. -/
structure Closed (landmark : Landmark) (R : State → State → Prop) : Prop
    extends Guarded landmark R where
  move {before after : State} : before.Move landmark after → R before after
  allow := fun state clear => move (.accept state clear)
  tell := fun state token cause => move (.report state token cause)
  refuse := fun state cause =>
    trans (move (.report state state.current cause)) (move (.skip _ (List.cons_ne_nil _ _)))

/-- Whether what held of a state still holds. No report is withdrawn. -/
structure Keeps (invariant : State → Prop) (before after : State) : Prop where
  reports : before.reports <:+ after.reports
  kept : invariant before → invariant after

/-- What every move keeps every analysis keeps. -/
theorem closed_keeps {landmark : Landmark} {invariant : State → Prop}
    (moved : ∀ {before after : State}, before.Move landmark after → invariant before →
      invariant after) : Closed landmark (Keeps invariant) where
  refl _ := ⟨List.suffix_rfl, id⟩
  trans first second := ⟨first.1.trans second.1, second.2 ∘ first.2⟩
  move step := ⟨step.still.reports, moved step⟩
  reports keeps := keeps.reports

/-- What no move changes no analysis changes. -/
theorem closed_still (landmark : Landmark) : Closed landmark State.Still where
  refl _ := ⟨rfl, rfl, rfl, rfl, List.suffix_rfl⟩
  trans first second :=
    ⟨second.1.trans first.1, second.2.trans first.2, second.3.trans first.3,
      second.4.trans first.4, first.5.trans second.5⟩
  move step := step.still
  reports still := still.reports

namespace Analysis

/-! ## Running -/

@[simp]
theorem run_pure {α : Type} (value : α) (state : State) :
    (pure value : Analysis α) state = (value, state) :=
  rfl

@[simp]
theorem run_bind {α β : Type} (analysis : Analysis α) (next : α → Analysis β) (state : State) :
    (analysis >>= next) state = next (analysis state).1 (analysis state).2 :=
  rfl

@[simp]
theorem run_discard {α : Type} (analysis : Analysis α) (state : State) :
    (discard analysis : Analysis Unit) state = ((), (analysis state).2) :=
  rfl

@[simp]
theorem run_current (state : State) : current state = (state.current, state) :=
  rfl

@[simp]
theorem run_word (state : State) : word state = (state.current.value, state) :=
  rfl

@[simp]
theorem run_ask (test : Test) (state : State) : ask test state = (test.holds state, state) :=
  rfl

/-- Running a choice is running the alternative that is chosen. -/
theorem run_ite {α : Type} (held : Prop) [Decidable held] (yes no : Analysis α) (state : State) :
    (if held then yes else no) state = if held then yes state else no state := by
  split <;> rfl

theorem run_acceptIf (test : Test) (cause : Cause) (state : State) :
    acceptIf test cause state =
      if test.holds state then (true, (state.emit state.current).skip)
      else (false, (state.report state.current cause).skip) := by
  rw [acceptIf, run_bind, run_ask, run_ite]
  split <;> rfl

theorem run_expectOr (literal : String) (problem : Problem) (state : State) :
    expectOr literal problem state =
      if (Test.is literal).holds state then ((), (state.emit state.current).skip)
      else ((), (state.report state.previous (.general problem)).skip) := by
  rw [expectOr, run_bind, run_ask, run_ite]
  split <;> rfl

/-- A loop ends with a round that asks for no other one, or that does not move the cursor. -/
theorem exists_last_round {α : Type} (body : α → Analysis (Option α)) (value : α)
    (state : State) :
    ∃ last before, (body last before).2 = (loop body value state).2 ∧
      ((body last before).1 = none ∨ remaining before ≤ remaining (loop body value state).2) := by
  rw [loop_eq]
  rcases ran : body value state with ⟨_ | next, after⟩
  · refine ⟨value, state, ?_, .inl ?_⟩
    all_goals rw [ran]
  · dsimp only
    split
    · exact exists_last_round body next after
    · next stuck =>
      refine ⟨value, state, ?_, .inr (Nat.le_of_not_lt stuck)⟩
      rw [ran]
termination_by remaining state

/-- Whether an analysis obeys a relation between the states before and after it. -/
def Obeys {α : Type} (R : State → State → Prop) (analysis : Analysis α) : Prop :=
  ∀ state, R state (analysis state).2

/-- Whether an analysis obeys a relation when it begins in a state of some kind. -/
def ObeysFrom {α : Type} (start : State → Prop) (R : State → State → Prop)
    (analysis : Analysis α) : Prop :=
  ∀ state, start state → R state (analysis state).2

/-- Whether an analysis obeys one relation if it answers yes and another one if
it answers no. -/
def Answers (start : State → Prop) (yes no : State → State → Prop)
    (analysis : Analysis Bool) : Prop :=
  ∀ state, start state →
    if (analysis state).1 then yes state (analysis state).2 else no state (analysis state).2

/-- Whether an analysis obeys a relation up to its last step, which is one of
several. -/
def ObeysUpTo {α β : Type} (last : β → Analysis α) (start : State → Prop)
    (R : State → State → Prop) (analysis : Analysis α) : Prop :=
  ∀ state, start state →
    ∃ value middle, R state middle ∧ analysis state = last value middle

variable {R : State → State → Prop} {α β : Type}

theorem answers_look {start : State → Prop} {yes no : State → State → Prop}
    {analysis : Analysis α} {next : α → Analysis Bool}
    (still : ∀ state, (analysis state).2 = state) (rest : ∀ value, Answers start yes no (next value)) :
    Answers start yes no (analysis >>= next) := by
  intro state begun
  rw [run_bind, still]
  exact rest _ state begun

theorem answers_yes {start : State → Prop} {yes no : State → State → Prop}
    {analysis : Analysis Unit} (obeyed : ObeysFrom start yes analysis) :
    Answers start yes no (analysis >>= fun _ => pure true) := by
  intro state begun
  rw [run_bind, run_pure, if_pos rfl]
  exact obeyed state begun

theorem answers_no {start : State → Prop} {yes no : State → State → Prop}
    {analysis : Analysis Unit} (obeyed : ObeysFrom start no analysis) :
    Answers start yes no (analysis >>= fun _ => pure false) := by
  intro state begun
  rw [run_bind, run_pure, if_neg Bool.false_ne_true]
  exact obeyed state begun

/-- What an analysis does up to its last step and what it does in that step. -/
theorem ObeysUpTo.obeys {last : β → Analysis α} {analysis : Analysis α}
    {S T : State → State → Prop} (upTo : ObeysUpTo last (fun _ => True) R analysis)
    (ends : ∀ value, Obeys S (last value))
    (joined : ∀ {before middle after}, R before middle → S middle after → T before after) :
    Obeys T analysis := by
  intro state
  obtain ⟨value, middle, reached, same⟩ := upTo state trivial
  rw [same]
  exact joined reached (ends value middle)

theorem obeysUpTo_ite {last : β → Analysis α} {start : State → Prop} {yes no : Analysis α}
    (held : Prop) [Decidable held] (first : ObeysUpTo last start R yes)
    (second : ObeysUpTo last start R no) :
    ObeysUpTo last start R (if held then yes else no) := by
  split
  · exact first
  · exact second

/-- What an analysis obeys everywhere it obeys in particular. -/
theorem Obeys.obeysFrom {analysis : Analysis α} (obeyed : Obeys R analysis)
    (start : State → Prop) : ObeysFrom start R analysis :=
  fun state _ => obeyed state

/-- What follows a look at the cursor may rely on what was seen. -/
theorem obeys_current {next : Token → Analysis α}
    (rest : ∀ token, ObeysFrom (fun state => state.current = token) R (next token)) :
    Obeys R (current >>= next) :=
  fun state => rest state.current state rfl

theorem obeys_word {next : String → Analysis α}
    (rest : ∀ text, ObeysFrom (fun state => state.current.value = text) R (next text)) :
    Obeys R (word >>= next) :=
  fun state => rest state.current.value state rfl

theorem obeys_ite {yes no : Analysis α} (held : Prop) [Decidable held] (first : Obeys R yes)
    (second : Obeys R no) : Obeys R (if held then yes else no) := by
  split
  · exact first
  · exact second

/-- What follows a question may rely on the answer. -/
theorem obeys_answer {test : Test} {next : Bool → Analysis α}
    (first : ObeysFrom (fun state => test.holds state = true) R (next true))
    (second : ObeysFrom (fun state => test.holds state = false) R (next false)) :
    Obeys R (ask test >>= next) := by
  intro state
  rw [run_bind, run_ask]
  cases held : test.holds state with
  | true => exact first state held
  | false => exact second state held

/-- Each alternative of a choice may rely on the answer to the test. -/
theorem obeys_ask {test : Test} {yes no : Analysis α}
    (first : ObeysFrom (fun state => test.holds state = true) R yes)
    (second : ObeysFrom (fun state => test.holds state = false) R no) :
    Obeys R (do if ← ask test then yes else no) :=
  obeys_answer first second

end Analysis

namespace Chained

open Analysis

variable {R : State → State → Prop} {α β : Type}

/-! ## Sequence and choice -/

theorem obeys_pure (chained : Chained R) (value : α) :
    Obeys R (pure value : Analysis α) :=
  chained.refl

theorem obeys_bind (chained : Chained R) {analysis : Analysis α}
    {next : α → Analysis β} (first : Obeys R analysis) (second : ∀ value, Obeys R (next value)) :
    Obeys R (analysis >>= next) := by
  intro state
  rw [run_bind]
  exact chained.trans (first state) (second _ _)

theorem obeysFrom_bind (chained : Chained R) {start : State → Prop}
    {analysis : Analysis α} {next : α → Analysis β} (first : ObeysFrom start R analysis)
    (second : ∀ value, Obeys R (next value)) : ObeysFrom start R (analysis >>= next) := by
  intro state begun
  rw [run_bind]
  exact chained.trans (first state begun) (second _ _)

/-- What comes before an analysis that obeys a relation up to its last step. -/
theorem obeysUpTo_bind (chained : Chained R) {γ : Type} {last : γ → Analysis β}
    {start : State → Prop} {analysis : Analysis α} {next : α → Analysis β}
    (first : ObeysFrom start R analysis)
    (second : ∀ value, ObeysUpTo last (fun _ => True) R (next value)) :
    ObeysUpTo last start R (analysis >>= next) := by
  intro state begun
  obtain ⟨value, middle, reached, ends⟩ := second (analysis state).1 (analysis state).2 trivial
  exact ⟨value, middle, chained.trans (first state begun) reached, ends⟩

theorem obeysUpTo_last (chained : Chained R) (last : α → Analysis β) (value : α)
    (start : State → Prop) : ObeysUpTo last start R (last value) :=
  fun state _ => ⟨value, state, chained.refl state, rfl⟩

/-- An analysis that only looks leaves the state as it is. -/
theorem obeys_look (chained : Chained R) {analysis : Analysis α}
    (still : ∀ state, (analysis state).2 = state) : Obeys R analysis := by
  intro state
  rw [still]
  exact chained.refl state

/-- What is done only if a test holds comes before what is done in any case. -/
theorem obeys_when (chained : Chained R) {test : Test} {yes : Analysis Unit}
    {next : Unit → Analysis β} (first : ObeysFrom (fun state => test.holds state = true) R yes)
    (rest : Obeys R (next ())) :
    Obeys R (ask test >>= fun held => if held then yes >>= next else next ()) :=
  obeys_ask (chained.obeysFrom_bind first fun _ => rest) (rest.obeysFrom _)

theorem obeys_unless (chained : Chained R) {test : Test} {no : Analysis Unit}
    {next : Unit → Analysis β} (first : ObeysFrom (fun state => test.holds state = false) R no)
    (rest : Obeys R (next ())) :
    Obeys R (ask test >>= fun held => if held then next () else no >>= next) :=
  obeys_ask (rest.obeysFrom _) (chained.obeysFrom_bind first fun _ => rest)

theorem obeys_forM (chained : Chained R) {each : α → Analysis Unit} {values : List α}
    (obeyed : ∀ value ∈ values, Obeys R (each value)) : Obeys R (values.forM each) := by
  induction values with
  | nil => exact chained.obeys_pure _
  | cons value rest ih =>
      rw [List.forall_mem_cons] at obeyed
      exact chained.obeys_bind obeyed.1 fun _ => ih obeyed.2

/-! ## Loops -/

/-- A round of a loop may rely on how the loop came to its state. -/
theorem loop_of_reached (chained : Chained R) {body : α → Analysis (Option α)}
    {state : State} (round : ∀ value middle, R state middle → R middle (body value middle).2)
    (value : α) : R state (loop body value state).2 := by
  refine loop_induction (fun _ after => R state after) ?_ ?_ value state (chained.refl state)
  · intro value middle after before ran
    have step := round value middle before
    rw [ran] at step
    exact chained.trans before step
  · intro value middle next after before ran
    have step := round value middle before
    rw [ran] at step
    exact chained.trans before step

theorem obeys_loop (chained : Chained R) {body : α → Analysis (Option α)}
    (round : ∀ value, Obeys R (body value)) (value : α) : Obeys R (loop body value) :=
  fun _ => chained.loop_of_reached (fun value middle _ => round value middle) value

/-- The last round of a loop comes after rounds each of which asks for another one. -/
theorem exists_before_last_round (chained : Chained R) {body : α → Analysis (Option α)}
    (more : ∀ {value before next after}, body value before = (some next, after) → R before after)
    (value : α) (state : State) :
    ∃ last before, R state before ∧ (body last before).2 = (loop body value state).2 := by
  rw [loop_eq]
  rcases ran : body value state with ⟨_ | next, after⟩
  · exact ⟨value, state, chained.refl state, by rw [ran]⟩
  · dsimp only
    split
    · obtain ⟨last, before, reached, ends⟩ := exists_before_last_round chained more next after
      exact ⟨last, before, chained.trans (more ran) reached, ends⟩
    · exact ⟨value, state, chained.refl state, by rw [ran]⟩
termination_by remaining state

/-- A round of a loop under a test may also rely on the test. -/
theorem whilst_of_reached (chained : Chained R) {test : Test} {body : Analysis Unit}
    {state : State}
    (round : ∀ middle, R state middle → test.holds middle = true → R middle (body middle).2) :
    R state (whilst test body state).2 := by
  refine chained.loop_of_reached (fun _ middle reached => ?_) ()
  split
  · next held => exact round middle reached held
  · exact chained.refl middle

theorem obeys_whilst (chained : Chained R) {test : Test} {body : Analysis Unit}
    (round : ObeysFrom (fun state => test.holds state = true) R body) :
    Obeys R (whilst test body) :=
  fun _ => chained.whilst_of_reached fun middle _ held => round middle held

/-- What has been reported stays reported. -/
theorem reports_ne_nil (chained : Chained R) {before after : State}
    (reached : R before after) (reported : before.reports ≠ []) : after.reports ≠ [] := by
  intro empty
  have kept := chained.reports reached
  rw [empty] at kept
  exact reported (List.suffix_nil.mp kept)

end Chained

namespace Matching

open Analysis

variable {landmark : Landmark} {R : State → State → Prop}

/-! ## Matching -/

theorem obeysFrom_accept (matching : Matching landmark R) :
    ObeysFrom (fun state => ¬ landmark.Marks state.current) R accept :=
  matching.allow

/-- A token may be accepted if a test that excludes the landmark holds. -/
theorem obeysFrom_accept_of_holds (matching : Matching landmark R) {test : Test}
    (avoided : test.avoids landmark 0 = true) :
    ObeysFrom (fun state => test.holds state = true) R accept :=
  fun state held => matching.allow state (Test.not_marks_of_holds avoided held)

theorem obeys_acceptIf (matching : Matching landmark R) {test : Test}
    (avoided : test.avoids landmark 0 = true) {cause : Cause}
    (expected : ∀ problem, cause ≠ .general problem) : Obeys R (acceptIf test cause) := by
  refine obeys_ask (matching.obeysFrom_accept_of_holds avoided) fun state _ => ?_
  exact matching.mismatch state expected

theorem obeys_expect (matching : Matching landmark R) {literal : String}
    (differs : literal ≠ landmark.word) : Obeys R (expect literal) :=
  matching.obeys_acceptIf (Test.avoids_is differs) fun _ => Cause.noConfusion

/-- What is done in place of a missing word is to report it and to pass over a token. -/
theorem obeys_expectOr_of (matching : Matching landmark R) {literal : String} {problem : Problem}
    (differs : literal ≠ landmark.word)
    (missing : ∀ state, R state (state.report state.previous (.general problem)).skip) :
    Obeys R (expectOr literal problem) :=
  obeys_ask (matching.obeysFrom_accept_of_holds (Test.avoids_is differs)) fun state _ =>
    missing state

theorem obeys_optional (matching : Matching landmark R) {literal : String}
    (differs : literal ≠ landmark.word) : Obeys R (optional literal) := by
  refine obeys_ask (matching.obeysFrom_accept_of_holds (Test.avoids_is differs)) fun state _ => ?_
  exact matching.refl state

theorem obeys_choose (matching : Matching landmark R) {literals : List String}
    (differs : landmark.word ∉ literals) : Obeys R (choose literals none) := by
  have avoided : (Test.isAny literals).avoids landmark 0 = true := by
    simp [Test.isAny, Test.avoids, differs]
  apply obeys_ask (matching.obeysFrom_accept_of_holds avoided)
  exact fun state _ => matching.mismatch state fun _ => Cause.noConfusion

theorem obeys_operand (matching : Matching landmark R) {categories : List Category}
    (differs : landmark.category ∉ categories) (description : String) :
    Obeys R (operand categories description) :=
  matching.obeys_acceptIf (Test.avoids_has differs) fun _ => Cause.noConfusion

theorem obeys_identifier (matching : Matching landmark R)
    (differs : landmark.category ≠ .identifier) : Obeys R identifier :=
  matching.obeys_operand (by simpa using differs) _

theorem obeys_number (matching : Matching landmark R) (differs : landmark.category ≠ .numeric) :
    Obeys R number :=
  matching.obeys_operand (by simpa using differs) _

end Matching

namespace Guarded

open Analysis

variable {landmark : Landmark} {R : State → State → Prop} {α : Type}

/-! ## Reporting -/

theorem obeys_report (guarded : Guarded landmark R) (token : Token) (cause : Cause) :
    Obeys R (Analysis.report token cause) :=
  fun state => guarded.tell state token cause

theorem obeys_reportHere (guarded : Guarded landmark R) (cause : Cause) :
    Obeys R (reportHere cause) :=
  fun state => guarded.tell state state.current cause

/-- What follows a report may rely on there being one. -/
theorem obeys_reportHere_bind (guarded : Guarded landmark R) (cause : Cause)
    {next : Unit → Analysis α}
    (rest : ObeysFrom (fun state => state.reports ≠ []) R (next ())) :
    Obeys R (reportHere cause >>= next) := by
  intro state
  rw [run_bind]
  exact guarded.trans (guarded.obeys_reportHere cause state) (rest _ (List.cons_ne_nil _ _))

theorem obeys_reportBefore (guarded : Guarded landmark R) (problem : Problem) :
    Obeys R (reportBefore problem) :=
  fun state => guarded.tell state state.previous (.general problem)

end Guarded

namespace Closed

open Analysis

variable {landmark : Landmark} {R : State → State → Prop}

/-- A token in whose place something was reported may be passed over. -/
theorem reject (closed : Closed landmark R) (state : State) (token : Token) (cause : Cause) :
    R state (state.report token cause).skip :=
  closed.trans (closed.tell state token cause) (closed.move (.skip _ (List.cons_ne_nil _ _)))

/-- Of the causes that every move may report, some are not about the symbol table. -/
theorem remarking (closed : Closed landmark R) : Remarking landmark R where
  toMatching := closed.toMatching
  remark state token cause _ := closed.tell state token cause
  pass state token cause _ := closed.reject state token cause

theorem obeys_expectOr (closed : Closed landmark R) {literal : String}
    (differs : literal ≠ landmark.word) (problem : Problem) :
    Obeys R (expectOr literal problem) :=
  closed.obeys_expectOr_of differs fun state => closed.reject state state.previous _

/-- Tokens are passed over freely once something has been reported. -/
theorem obeysFrom_whilst_skip (closed : Closed landmark R) (test : Test) :
    ObeysFrom (fun state => state.reports ≠ []) R (whilst test skip) := by
  intro state reported
  apply closed.whilst_of_reached
  intro middle reached _
  exact closed.move (.skip middle (closed.reports_ne_nil reached reported))

end Closed

end CobolCheck
