import CobolCheck.Proofs.Statement.Further

/-!
# How deep statements are nested

The counter of open sequences is raised where a nested sequence begins and lowered where
it ends, and nothing else touches it. So every analysis leaves it as it was.

How deep statements may be nested is decided by the room that is left, which decreases with
each sequence. A program that has nothing but the counter to go by must decide by the
counter, and `guardedSequence` does so. It does the same, as room and counter add up to the
limit: a statement that is nested in others is begun only below the limit, and so the number of
statements that are being read at once has a bound.
-/

namespace CobolCheck

open Analysis

namespace State

@[simp]
theorem nesting_skip (state : State) : state.skip.nesting = state.nesting := by
  unfold skip
  split <;> rfl

@[simp]
theorem deepest_skip (state : State) : state.skip.deepest = state.deepest := by
  unfold skip
  split <;> rfl

/-- Whether as many sequences are open as before, and no depth that was noted is forgotten. -/
structure Balanced (before after : State) : Prop where
  nesting_eq : after.nesting = before.nesting
  deepest_le : before.deepest ≤ after.deepest

/-- Whether two runs are in the same state, in which so many sequences are open, and what is
to hold of the most that were ever open does hold. -/
structure Level (depth : Nat) (kept : Nat → Prop) (first second : State) : Prop where
  eq : first = second
  nesting_eq : first.nesting = depth
  deepest : kept first.deepest

variable {depth : Nat} {kept : Nat → Prop} {first second : State}

/-- A state that differs from another one in nothing that is about nesting. -/
theorem Level.map (level : Level depth kept first second) (change : State → State)
    (nesting : (change first).nesting = first.nesting)
    (deepest : (change first).deepest = first.deepest) :
    Level depth kept (change first) (change second) where
  eq := congrArg change level.eq
  nesting_eq := nesting.trans level.nesting_eq
  deepest := deepest ▸ level.deepest

/-- Two runs in the same state see the same tokens, and nothing but the nesting of statements
is counted. -/
theorem abreast_level (depth : Nat) (kept : Nat → Prop) :
    Abreast 2 Eq (fun _ => True) (Level depth kept) where
  alike := by rintro token _ rfl; exact ⟨rfl, rfl, rfl⟩
  recast := by rintro token _ value category context rfl; rfl
  refl _ _ := rfl
  alive _ _ := trivial
  cursor level := congrArg current level.eq
  text level _ := by rw [level.eq]
  beyond level _ _ := by rw [level.eq]
  reading _ level _ := by rw [level.eq]
  moved before after := by rw [before.eq, after.eq]
  skip level _ _ := level.map skip (nesting_skip _) (deepest_skip _)
  accepted level _ :=
    level.map (fun state => (state.emit state.current).skip) (nesting_skip _) (deepest_skip _)
  designate category level _ := by
    refine ⟨by rw [level.eq], level.map (designate category) ?_ ?_⟩
    · exact (nesting_skip _).trans (nesting_skip _)
    · exact (deepest_skip _).trans (deepest_skip _)
  report cause level same _ := by
    subst same
    exact level.map (report _ cause) rfl rfl
  reportedBefore cause level _ :=
    level.map (fun state => state.report state.previous cause) rfl rfl
  rejected cause level _ :=
    level.map (fun state => (state.report state.current cause).skip) (nesting_skip _)
      (deepest_skip _)
  rejectedBefore cause level _ :=
    level.map (fun state => (state.report state.previous cause).skip) (nesting_skip _)
      (deepest_skip _)

/-- Where another sequence may be opened its depth may be noted. -/
theorem Level.enter {limit : Nat}
    (grows : ∀ peak opened, opened ≤ limit → kept peak → kept (max peak opened))
    (level : Level depth kept first second) (room : depth < limit) :
    Level (depth + 1) kept (enter first).2 (enter second).2 where
  eq := by rw [level.eq]
  nesting_eq := congrArg (· + 1) level.nesting_eq
  deepest := grows _ _ (by rw [level.nesting_eq]; exact room) level.deepest

theorem Level.leave (level : Level (depth + 1) kept first second) :
    Level depth kept (leave first).2 (leave second).2 where
  eq := by rw [level.eq]
  nesting_eq := congrArg (· - 1) level.nesting_eq
  deepest := level.deepest

end State

open State

namespace Analysis

variable {depth limit : Nat} {kept : Nat → Prop} {α : Type}

/-! ## Forms -/

theorem level_acceptAs (category : Category) :
    Tracks (fun _ => True) (Level depth kept) Eq (acceptAs category) (acceptAs category) :=
  tracks_modify (fun _ _ => trivial) fun level _ =>
    level.map (fun state => (state.emit (state.current.retag category)).skip) (nesting_skip _)
      (deepest_skip _)

/-- No matcher opens a sequence. -/
theorem level_matcher {analysis : Analysis α} (matcher : Matcher analysis) :
    Tracks (fun _ => True) (Level depth kept) Eq analysis analysis := by
  have abreast := abreast_level depth kept
  have asked (test : Test) :
      Tracks (fun _ => True) (Level depth kept) Eq (ask test) (ask test) :=
    tracks_view fun level => by rw [level.eq]
  cases matcher with
  | look view => exact tracks_view fun level => by rw [level.eq]
  | skip => exact abreast.tracks_skip
  | accept => exact abreast.tracks_accept
  | acceptAs category => exact level_acceptAs category
  | acceptMany count => exact abreast.tracks_acceptMany count
  | report token cause => exact abreast.tracks_report rfl cause
  | reportHere cause => exact abreast.tracks_reportHere cause
  | reportBefore problem => exact abreast.tracks_reportBefore problem
  | acceptIf test cause =>
      refine tracks_then (asked test) fun _ => tracks_ite _ ?_ ?_
      · exact tracks_then abreast.tracks_accept fun _ => tracks_same true
      · rw [← bind_assoc]
        exact tracks_then (abreast.tracks_reject cause) fun _ => tracks_same false
  | expect literal => exact abreast.tracks_expect literal
  | expectOr literal problem => exact abreast.tracks_expectOr literal problem
  | optional literal => exact abreast.tracks_optional literal
  | choose literals category =>
      refine abreast.tracks_choice rfl ?_ (abreast.tracks_reject _)
      cases category with
      | none => exact abreast.tracks_accept
      | some category => exact level_acceptAs category
  | operand categories description => exact abreast.tracks_operand categories description
  | number => exact abreast.tracks_number

/-- A form opens no sequence but those of the statements nested in it. -/
theorem level_run {inner other : Analysis Unit}
    (nested : Tracks (fun _ => True) (Level depth kept) Eq inner other) (form : Form) :
    Tracks (fun _ => True) (Level depth kept) Eq (form.run inner) (form.run other) := by
  have abreast := abreast_level depth kept
  have asked (test : Test) :
      Tracks (fun _ => True) (Level depth kept) Eq (ask test) (ask test) :=
    level_matcher (.look test.holds)
  induction form with
  | done => exact tracks_same ()
  | seq first second ihFirst ihSecond => exact tracks_then ihFirst fun _ => ihSecond
  | branch test yes no ihYes ihNo => exact tracks_then (asked test) fun _ => tracks_ite _ ihYes ihNo
  | many test body ih => exact abreast.inStep.tracks_whilst (asked test) ih
  | accept => exact level_matcher .accept
  | skip => exact level_matcher .skip
  | expect literal => exact level_matcher (.expect literal)
  | choose literals category => exact level_matcher (.choose literals category)
  | operand categories description =>
      exact tracks_discard (level_matcher (.operand categories description))
  | report cause => exact level_matcher (.reportHere cause)
  | condition delimiter => exact abreast.tracks_condition delimiter
  | arithmetic => exact tracks_discard abreast.tracks_arithmetic
  | nested => exact nested
  | phrases phrase positive negative marker ihPositive ihNegative =>
      apply tracks_then
      · refine abreast.tracks_loop_same (abreast.tracks_phraseRound phrase fun polarity => ?_) {}
        cases polarity with
        | positive => exact ihPositive
        | negative => exact ihNegative
      · intro seen
        cases marker with
        | none => exact tracks_same ()
        | some marker => exact abreast.tracks_endMarker _ marker

theorem level_statement {inner other : Analysis Unit}
    (nested : Tracks (fun _ => True) (Level depth kept) Eq inner other) :
    Tracks (fun _ => True) (Level depth kept) Eq (statement inner) (statement other) :=
  tracks_then (abreast_level depth kept).tracks_word fun _ => level_run nested _

/-! ## Statements by the counter -/

/-- How many sequences are open. -/
def openSequences : Analysis Nat := fun state =>
  (state.nesting, state)

/-- Reads a nested sequence of statements, unless as many are open as the limit says; `each`
reads one of its statements. -/
def guardedSequence (limit : Nat) (each : Analysis Unit) : Analysis Unit := do
  if limit ≤ (← openSequences) then
    reportHere (.general .nestedTooDeeply)
    skipScope
  else
    enter
    whilst .statement each
    leave

/-- Reads one statement, where no more than so many statements may be read at once, this one
and those that are nested in it. With one more than that something else happens. -/
def framedStatement (limit : Nat) (beyond : Analysis Unit) : Nat → Analysis Unit
  | 0 => beyond
  | frames + 1 => statement (guardedSequence limit (framedStatement limit beyond frames))

theorem run_guardedSequence_of_le {state : State} (full : limit ≤ state.nesting)
    (each : Analysis Unit) :
    guardedSequence limit each state =
      (do
        reportHere (.general .nestedTooDeeply)
        skipScope : Analysis Unit) state := by
  rw [guardedSequence, run_bind, run_ite]
  exact if_pos full

theorem run_guardedSequence_of_lt {state : State} (room : state.nesting < limit)
    (each : Analysis Unit) :
    guardedSequence limit each state = leave (whilst .statement each (enter state).2).2 := by
  rw [guardedSequence, run_bind, run_ite]
  exact if_neg (Nat.not_le_of_lt room)

variable {beyond : Analysis Unit} {room frames : Nat}

/-- Room for further sequences is left as long as the counter is below the limit. With a frame
for each of them nothing else happens. -/
theorem level_nestedStatements
    (grows : ∀ peak opened, opened ≤ limit → kept peak → kept (max peak opened))
    (total : depth + room = limit) (enough : room ≤ frames) :
    Tracks (fun _ => True) (Level depth kept) Eq (nestedStatements room)
      (guardedSequence limit (framedStatement limit beyond frames)) := by
  induction room generalizing depth frames with
  | zero =>
      have abreast := abreast_level depth kept
      have refused : Tracks (fun _ => True) (Level depth kept) Eq (nestedStatements 0)
          (nestedStatements 0) :=
        tracks_then (abreast.tracks_reportHere _) fun _ => abreast.tracks_skipScope
      refine ⟨fun _ => trivial, fun {first second} level _ => ?_⟩
      have full : limit ≤ second.nesting := by
        rw [← level.eq, level.nesting_eq]
        exact Nat.le_of_eq total.symm
      rw [run_guardedSequence_of_le full]
      exact refused.tracks level trivial
  | succ room ih =>
      obtain ⟨frames, rfl⟩ := Nat.exists_eq_succ_of_ne_zero (Nat.ne_zero_of_lt enough)
      have inside : depth < limit := by omega
      have nested : Tracks (fun _ => True) (Level (depth + 1) kept) Eq (nestedStatements room)
          (guardedSequence limit (framedStatement limit beyond frames)) :=
        ih (by omega) (Nat.le_of_succ_le_succ enough)
      have sequence : Tracks (fun _ => True) (Level (depth + 1) kept) Eq (whilst .statement _)
          (whilst .statement _) :=
        (abreast_level (depth + 1) kept).tracks_whilst rfl (level_statement nested)
      refine ⟨fun _ => trivial, fun {first second} level _ => ?_⟩
      have below : second.nesting < limit := by
        rw [← level.eq, level.nesting_eq]
        exact inside
      have opened := level.enter grows inside
      rw [run_guardedSequence_of_lt below]
      exact ⟨rfl, (sequence.tracks opened trivial).2.leave⟩

/-- A statement is read alike by the room that is left and by the counter. -/
theorem level_framedStatement
    (grows : ∀ peak opened, opened ≤ limit → kept peak → kept (max peak opened))
    (total : depth + room = limit) (enough : room < frames) :
    Tracks (fun _ => True) (Level depth kept) Eq (statement (nestedStatements room))
      (framedStatement limit beyond frames) := by
  obtain ⟨frames, rfl⟩ := Nat.exists_eq_succ_of_ne_zero (Nat.ne_zero_of_lt enough)
  exact level_statement (level_nestedStatements grows total (Nat.le_of_lt_succ enough))

/-- What stays in step with another analysis stays in step with itself. -/
theorem level_self {analysis other : Analysis α}
    (tracked : Tracks (fun _ => True) (Level depth kept) Eq analysis other) :
    Tracks (fun _ => True) (Level depth kept) Eq analysis analysis := by
  refine ⟨fun _ => trivial, fun {first second} level _ => ?_⟩
  have ⟨_, after⟩ := tracked.tracks level trivial
  rw [← level.eq]
  exact ⟨rfl, rfl, after.nesting_eq, after.deepest⟩

theorem level_sequence
    (grows : ∀ peak opened, opened ≤ limit → kept peak → kept (max peak opened))
    (total : depth + room = limit) :
    Tracks (fun _ => True) (Level depth kept) Eq (nestedStatements room)
      (nestedStatements room) := by
  have framed : Tracks (fun _ => True) (Level depth kept) Eq (nestedStatements room)
      (guardedSequence limit (framedStatement limit (pure ()) room)) :=
    level_nestedStatements grows total (Nat.le_refl room)
  exact level_self framed

theorem level_sentencePart
    (grows : ∀ peak opened, opened ≤ depth + room → kept peak → kept (max peak opened)) :
    Tracks (fun _ => True) (Level depth kept) Eq (sentencePart room) (sentencePart room) :=
  (abreast_level depth kept).tracks_sentencePart (level_statement (level_sequence grows rfl))

theorem level_sentences
    (grows : ∀ peak opened, opened ≤ depth + room → kept peak → kept (max peak opened)) :
    Tracks (fun _ => True) (Level depth kept) Eq (sentences room) (sentences room) :=
  (abreast_level depth kept).tracks_whilst rfl (level_sentencePart grows)

/-! ## Routines -/

theorem balanced_of_tracks {analysis : Analysis α} {related : α → α → Prop}
    (tracked : ∀ {depth floor : Nat},
      Tracks (fun _ => True) (Level depth (floor ≤ ·)) related analysis analysis) :
    Obeys Balanced analysis := by
  intro state
  have begun : Level state.nesting (state.deepest ≤ ·) state state :=
    ⟨rfl, rfl, Nat.le_refl state.deepest⟩
  have level := (tracked.tracks begun trivial).2
  exact ⟨level.nesting_eq, level.deepest⟩

/-- What was noted is not forgotten when another depth is. -/
theorem le_max_of_le {limit floor : Nat} (peak opened : Nat) (_ : opened ≤ limit)
    (reached : floor ≤ peak) : floor ≤ max peak opened :=
  Nat.le_trans reached (Nat.le_max_left _ _)

/-- Every analysis of statements leaves as many sequences open as there were, but for the two
by which a sequence is opened and closed. -/
theorem StatementRoutine.balanced {analysis : Analysis α}
    (routine : StatementRoutine limit analysis) :
    Obeys Balanced analysis ∨ (∀ state, (analysis state).2 = (Analysis.enter state).2) ∨
      ∀ state, (analysis state).2 = (Analysis.leave state).2 := by
  have nested (room : Nat) {depth floor : Nat} :
      Tracks (fun _ => True) (Level depth (floor ≤ ·)) Eq (Analysis.nestedStatements room)
        (Analysis.nestedStatements room) :=
    level_sequence le_max_of_le rfl
  have terms (terms : List Term) : List.Forall₂ (Term.Same Eq) terms terms :=
    List.forall₂_same.mpr fun _ _ => ⟨rfl, rfl⟩
  have scans : ∀ scan, ArithmeticScan.Same Eq scan scan := .refl fun _ => rfl
  have abreast {depth floor : Nat} := abreast_level depth (floor ≤ ·)
  cases routine with
  | enter => exact .inr (.inl fun _ => rfl)
  | leave => exact .inr (.inr fun _ => rfl)
  | readTerm delimiter read =>
      exact .inl (balanced_of_tracks (abreast.tracks_readTerm delimiter (terms read)))
  | judgeCondition first read =>
      exact .inl (balanced_of_tracks (abreast.tracks_judgeCondition rfl (terms read)))
  | condition delimiter => exact .inl (balanced_of_tracks (abreast.tracks_condition delimiter))
  | complain token problem scan =>
      exact .inl (balanced_of_tracks (abreast.tracks_complain rfl problem (scans scan)))
  | complainOfTrailing scan =>
      exact .inl (balanced_of_tracks (abreast.tracks_complainOfTrailing (scans scan)))
  | closeParenthesis token scan =>
      exact .inl (balanced_of_tracks (abreast.tracks_closeParenthesis rfl (scans scan)))
  | readOperator token scan =>
      exact .inl (balanced_of_tracks (abreast.tracks_readOperator rfl (scans scan)))
  | readArithmetic scan =>
      exact .inl (balanced_of_tracks (abreast.tracks_readArithmetic (scans scan)))
  | arithmetic => exact .inl (balanced_of_tracks abreast.tracks_arithmetic)
  | phraseAhead phrase => exact .inl (balanced_of_tracks (abreast.tracks_phraseAhead phrase))
  | endMarker required marker =>
      exact .inl (balanced_of_tracks (abreast.tracks_endMarker required marker))
  | form form room => exact .inl (balanced_of_tracks (level_run (nested room) form))
  | statement room => exact .inl (balanced_of_tracks (level_statement (nested room)))
  | skipScope => exact .inl (balanced_of_tracks abreast.tracks_skipScope)
  | nestedStatements room => exact .inl (balanced_of_tracks (nested room))
  | resumeAfterSentence => exact .inl (balanced_of_tracks abreast.tracks_resumeAfterSentence)
  | sentencePart => exact .inl (balanced_of_tracks (level_sentencePart le_max_of_le))
  | sentences => exact .inl (balanced_of_tracks (level_sentences le_max_of_le))

end Analysis

end CobolCheck
