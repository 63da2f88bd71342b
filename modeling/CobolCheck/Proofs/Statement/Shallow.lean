import CobolCheck.Proofs.Statement.Parallel
import CobolCheck.Proofs.Statement.Skipped

/-!
# Runs with a lower limit

Of two runs over the same source text one may nest statements further down than
the other. If the deeper one has nothing to report and IF is the only statement
with END markers in the text, then the shallower one has nothing to report but
the limit: the scopes that it passes over end where the deeper run has read the
same tokens as statements.

The two runs are not side by side inside such a scope, but they are again at the
next branch of the IF statement around it. That is all an IF statement needs of
the statements nested in it.
-/

namespace CobolCheck

open Analysis

namespace State

/-- Whether the state of a run without a report and that of a run that has reported
no more than the limit are at the same place of a source text. -/
structure Shallow (source : String) (deep shallow : State) : Prop where
  tokens_eq : deep.tokens = Source.tokenize source
  sentinel : Landmark.endOfInput.Marks deep.sentinel
  quiet : deep.Quiet
  behind_eq : deep.behind = shallow.behind
  ahead_eq : deep.ahead = shallow.ahead
  sentinel_eq : deep.sentinel = shallow.sentinel
  unit_eq : deep.unit = shallow.unit
  table_eq : deep.table = shallow.table
  overflow : ∀ report ∈ shallow.reports, report.cause = .general .nestedTooDeeply

variable {source : String} {deep shallow : State}

namespace Shallow

theorem lookahead_eq (shallows : Shallow source deep shallow) (offset : Nat) :
    deep.lookahead offset = shallow.lookahead offset := by
  rw [lookahead, lookahead, shallows.ahead_eq, shallows.sentinel_eq]

theorem skip (shallows : Shallow source deep shallow) : Shallow source deep.skip shallow.skip := by
  cases next : deep.ahead with
  | nil =>
      rw [skip_of_ahead_nil next, skip_of_ahead_nil (shallows.ahead_eq ▸ next)]
      exact shallows
  | cons token rest =>
      have tokens_eq := (tokens_skip deep).trans shallows.tokens_eq
      rw [skip_of_ahead_cons next] at tokens_eq ⊢
      rw [skip_of_ahead_cons (shallows.ahead_eq ▸ next)]
      exact { shallows with
        tokens_eq
        behind_eq := congrArg (token :: ·) shallows.behind_eq
        ahead_eq := rfl }

end Shallow

end State

open State

/-! ## Statements that cannot be cut short -/

variable {source : String}

section Phrases

variable {phrase : Phrase} {body other : Polarity → Analysis Unit} {seen : SeenForms}
  {state : State}

/-- Where no phrase begins there are none. -/
theorem run_loop_phraseRound (none_ahead : (Form.phraseAhead phrase state).1 = none) :
    loop (Form.phraseRound phrase body) seen state = (seen, state) := by
  have round : Form.phraseRound phrase body seen state = (none, state) := by
    rw [Form.phraseRound, run_bind, none_ahead, Form.run_phraseAhead]
    rfl
  rw [loop_eq, round]

theorem seen_of_phraseRound {next : SeenForms} {after : State}
    (ran : Form.phraseRound phrase body seen state = (some next, after)) :
    (next.positive || next.negative) = true := by
  have inserted (polarity : Polarity) :
      ((seen.insert polarity).positive || (seen.insert polarity).negative) = true := by
    cases polarity <;> simp [SeenForms.insert]
  rw [Form.phraseRound, run_bind] at ran
  cases found : (Form.phraseAhead phrase state).1 with
  | none =>
      rw [found] at ran
      cases ran
  | some polarity =>
      rw [found] at ran
      dsimp only at ran
      split at ran
      · cases ran
        exact inserted polarity
      · cases ran
        exact inserted polarity

/-- Where a phrase begins one is seen. -/
theorem seen_of_loop {polarity : Polarity}
    (ahead : (Form.phraseAhead phrase state).1 = some polarity) :
    ((loop (Form.phraseRound phrase body) seen state).1.positive ||
      (loop (Form.phraseRound phrase body) seen state).1.negative) = true := by
  rw [loop_eq]
  rcases ran : Form.phraseRound phrase body seen state with ⟨_ | next, after⟩
  · rw [Form.phraseRound, run_bind, ahead] at ran
    dsimp only at ran
    split at ran <;> cases ran
  · have begun := seen_of_phraseRound ran
    dsimp only
    split
    · refine loop_induction (fun seen _ => (seen.positive || seen.negative) = true) ?_ ?_ next after
        begun
      · exact fun _ _ _ held _ => held
      · exact fun _ _ _ _ _ ran => seen_of_phraseRound ran
    · exact begun

/-- A marker that a statement must have is at the cursor if nothing is reported. -/
theorem value_of_endMarker {marker : String} (quiet : (Form.endMarker true marker state).2.Quiet) :
    state.current.value = marker := by
  refine Classical.byContradiction fun missing => ?_
  rw [← Test.holds_is_iff] at missing
  rw [Form.endMarker, run_bind, Analysis.optional, run_bind, run_ask, run_ite,
    if_neg missing] at quiet
  exact absurd quiet (List.cons_ne_nil _ _)

end Phrases

/-! ## Statements -/

variable {inner other : Analysis Unit}

/-- Whether the cursor is where a branch of an IF statement ends. -/
def State.AtBranchEnd (state : State) : Prop :=
  state.current.value = "ELSE" ∨ state.current.value = "END-IF"

/-- Whether nested statements that two runs read are side by side where the branch
that they make up ends. -/
structure Branches (source : String) (inner other : Analysis Unit) : Prop where
  later : Obeys Later inner
  still : Obeys Still inner
  tracks {deep shallow : State} : Shallow source deep shallow → (inner deep).2.Quiet →
    (inner deep).2.AtBranchEnd → Shallow source (inner deep).2 (other shallow).2

/-- What follows a branch shows that it has come to its end. -/
theorem Branches.tracks_then (branches : Branches source inner other) {rest next : Analysis Unit}
    (ends : ∀ state, (rest state).2.Quiet → state.AtBranchEnd)
    (tracked : Tracks Quiet (Shallow source) Eq rest next) :
    Tracks Quiet (Shallow source) Eq (inner >>= fun _ => rest) (other >>= fun _ => next) where
  alive quiet := (branches.later _).quiet (tracked.alive quiet)
  tracks {deep shallow} := by
    intro shallows quiet
    rw [run_bind] at quiet ⊢
    rw [run_bind]
    have between : (inner deep).2.Quiet := tracked.alive quiet
    exact tracked.tracks (branches.tracks shallows between (ends _ quiet)) quiet

theorem value_of_close {marker : String} {state : State}
    (quiet : ((Form.close marker).run inner state).2.Quiet) : state.current.value = marker := by
  refine Classical.byContradiction fun missing => ?_
  rw [← Test.holds_is_iff] at missing
  rw [Form.close, Form.run, run_bind, run_ask, run_ite, if_neg missing] at quiet
  exact absurd quiet (List.cons_ne_nil _ _)

end CobolCheck
