import CobolCheck.Proofs.Statement.Forked
import CobolCheck.Proofs.Statement.Resumed

/-!
# Statements that lack their END marker

Two texts part at the END marker of a statement: one of them has it, the other one goes on
with the period that follows it. The statement is read alike up to there, and what is nested
in it ends there, since no statement but its own may end at that marker. Then the second run
reports the marker where the period stands, and both runs are at the period.
-/

namespace CobolCheck

open Analysis State

namespace State

variable {before after first second : State} {tail rest : List Token} {stop other : Token}

/-- How many tokens are left tells where in the text an analysis has come. -/
theorem Further.ahead_eq {count : Nat} (further : Further count before after)
    (ends : tail <:+ before.ahead) (left : after.ahead.length = tail.length) :
    after.ahead = tail := by
  have inside := ends.trans before.ahead_isSuffix
  rw [← further.tokens_eq] at inside
  exact (List.suffix_of_suffix_length_le after.ahead_isSuffix inside left.le).eq_of_length left

theorem Parted.isSuffix {graft : List Token} (parted : Parted stop other tail graft first second) :
    stop :: tail <:+ first.ahead := by
  obtain ⟨common, forks⟩ := parted
  rw [forks.first_ahead]
  exact List.suffix_append _ _

/-- Whether two states are behind a statement that has its END marker in one text and lacks it
in the other one, where that is reported at the token that comes next. -/
structure Misses (stop other : Token) (rest : List Token) (first second : State) : Prop where
  first_ahead : first.ahead = other :: rest
  second_ahead : second.ahead = other :: rest
  sentinel : second.sentinel = first.sentinel
  output : first.output = stop :: second.output
  reports : second.reports = ⟨other, .expectedLiteral stop.value⟩ :: first.reports
  unit : second.unit = first.unit
  table : second.table = first.table

end State

/-- A marker that a statement always has is read like one that its phrases call for. -/
theorem Form.run_close_eq_endMarker (inner : Analysis Unit) (marker : String) :
    (close marker).run inner = endMarker true marker := by
  funext state
  rw [run_endMarker, close, run_branch]
  rfl

/-! ## Up to the marker -/

section Unclosed

variable {stop other : Token} {rest : List Token} {first second : State}

/-- A marker that both runs come to is accepted in one text and reported in the other one. -/
theorem misses_endMarker {α : Type} {opened : Analysis α} {marker : String}
    (closes : stop.value = marker) (differs : other.value ≠ marker)
    (further : Obeys (Further 0) opened)
    (concurs : Concurs stop other (other :: rest) rest opened)
    (parted : Parted stop other (other :: rest) rest first second)
    (quiet : (Form.endMarker true marker (opened first).2).2.Quiet)
    (ends : (Form.endMarker true marker (opened first).2).2.ahead = other :: rest) :
    Misses stop other rest (Form.endMarker true marker (opened first).2).2
      (Form.endMarker true marker (opened second).2).2 := by
  have found : (Test.is marker).holds (opened first).2 = true :=
    (Test.holds_is_iff _ _).mpr (value_of_endMarker quiet)
  rw [run_endMarker, if_pos found] at quiet ends ⊢
  have begun : (opened first).2.Quiet := reports_eq_nil (later_emit_skip _ _).reports quiet
  have stands : (opened first).2.ahead = stop :: other :: rest := by
    refine (further first).ahead_eq parted.isSuffix ?_
    rw [ahead_skip, ahead_emit] at ends
    have left := congrArg List.length ends
    rw [List.length_tail, List.length_cons] at left
    rw [List.length_cons, List.length_cons]
    omega
  obtain ⟨-, common, forks⟩ := concurs.tracks parted ⟨begun, stands ▸ List.suffix_rfl⟩
  have empty : common = [] := by
    have ahead := forks.first_ahead
    rw [stands] at ahead
    exact List.self_eq_append_left.mp ahead
  subst empty
  have here : (opened second).2.current = other := current_of_ahead_cons forks.second_ahead
  have missing : ¬ (Test.is marker).holds (opened second).2 = true := by
    rwa [Test.holds_is_iff, here]
  rw [run_endMarker, if_neg missing, if_pos rfl, here, current_of_ahead_cons stands,
    skip_of_ahead_cons ((ahead_emit _ _).trans stands)]
  exact {
    first_ahead := rfl
    second_ahead := forks.second_ahead
    sentinel := forks.sentinel
    output := congrArg (stop :: ·) forks.output.symm
    reports := by
      rw [closes]
      exact congrArg (_ :: ·) forks.reports
    unit := forks.unit
    table := forks.table }

variable {period : Token} {landmark word : Landmark} {inner : Analysis Unit} {form : Form}

/-! ## IF statements -/

/-- An IF statement is always closed by its END marker. -/
theorem misses_ifElse (marks : Landmark.endIf.Marks stop) (ends : Landmark.period.Marks period)
    (further : Obeys (Further 0) inner)
    (nested : Concurs stop period (period :: rest) rest inner)
    (parted : Parted stop period (period :: rest) rest first second)
    (quiet : (Form.ifElse.run inner first).2.Quiet)
    (stands : (Form.ifElse.run inner first).2.ahead = period :: rest) :
    Misses stop period rest (Form.ifElse.run inner first).2 (Form.ifElse.run inner second).2 := by
  rw [Form.run_ifElse_openIf, Form.run_close_eq_endMarker, run_bind] at quiet stands ⊢
  rw [run_bind]
  refine misses_endMarker marks.1 ?_ (further_zero (further_run further .openIf)) ?_ parted quiet
    stands
  · rw [ends.1]
    decide
  · exact concurs_run marks ends further nested rfl

end Unclosed

/-! ## Statements with conditional phrases -/

namespace Form

/-- Whether a form is nothing. -/
def idle : Form → Bool
  | done => true
  | _ => false

theorem eq_done_of_idle {form : Form} (idle : form.idle = true) : form = done := by
  cases form with
  | done => rfl
  | _ => cases idle

/-- Whether a form ends with conditional phrases, behind which it has a landmark as its END
marker, and accepts no token of another landmark before them. What comes before them has no
nested statements and does not tell the END marker from what may stand in its place. -/
def closedBy (landmark other word : Landmark) (notes : Notes) : Form → Bool
  | seq first second =>
      second.idle && first.closedBy landmark other word notes ||
        first.flat && first.permitted word notes &&
          second.closedBy landmark other word (first.leave notes)
  | branch test yes no =>
      test.blind landmark other &&
        (yes.closedBy landmark other word (notes.learn word test) &&
          no.closedBy landmark other word notes)
  | phrases _ _ _ (some marker) => marker == landmark.word
  | _ => false

end Form

section Phrases

variable {landmark otherLandmark word : Landmark} {stop other token : Token}
  {between rest : List Token} {inner : Analysis Unit} {first second : State}

theorem remaining_endMarker (required : Bool) (marker : String) (state : State) :
    remaining state ≤ remaining (Form.endMarker required marker state).2 + 1 := by
  rw [run_endMarker]
  split
  · rw [remaining, remaining, ahead_skip, ahead_emit, List.length_tail]
    omega
  · split <;> exact Nat.le_succ _

/-- Phrases are closed by the marker. There is a phrase if more than the marker comes before
the end of the statement. -/
theorem misses_phrases (marks : landmark.Marks stop) (otherMarks : otherLandmark.Marks other)
    {marker : String} (closes : stop.value = marker) (differs : other.value ≠ marker) (further : Obeys (Further 0) inner)
    (nested : Concurs stop other (other :: rest) rest inner)
    {phrase : Phrase} {positive negative : Form}
    (blind : (Form.phrases phrase positive negative (some marker)).blind landmark otherLandmark
      = true)
    (parted : Parted stop other (other :: rest) rest first second)
    (far : (stop :: other :: rest).length < remaining first)
    (quiet : ((Form.phrases phrase positive negative (some marker)).run inner first).2.Quiet)
    (ends : ((Form.phrases phrase positive negative (some marker)).run inner first).2.ahead =
      other :: rest) :
    Misses stop other rest
      ((Form.phrases phrase positive negative (some marker)).run inner first).2
      ((Form.phrases phrase positive negative (some marker)).run inner second).2 := by
  obtain ⟨begins, bodies, -⟩ := Form.blind_phrases blind
  have each (polarity : Polarity) : Concurs stop other (other :: rest) rest
      (Form.phraseBody inner positive negative polarity) := by
    cases polarity with
    | positive => exact concurs_run marks otherMarks further nested bodies.1
    | negative => exact concurs_run marks otherMarks further nested bodies.2
  have loops := concurs_phraseLoop marks otherMarks begins each
  have kept : Obeys (Further 0)
      (loop (Form.phraseRound phrase (Form.phraseBody inner positive negative)) {}) := by
    refine chained_further.obeys_loop (further_phraseRound phrase fun polarity => ?_) {}
    cases polarity <;> exact further_zero (further_run further _)
  have begun : first.Quiet := reports_eq_nil (further_run further _ first).reports quiet
  have looked : (Form.phraseAhead phrase first).1 = (Form.phraseAhead phrase second).1 := by
    refine ((concurs_phraseAhead marks otherMarks begins).tracks parted ?_).1
    rw [Form.run_phraseAhead]
    exact ⟨begun, parted.isSuffix⟩
  rw [Form.run, run_bind] at quiet ends ⊢
  rw [run_bind]
  cases ahead : (Form.phraseAhead phrase first).1 with
  | none =>
      -- without a phrase nothing but the marker could be passed
      rw [run_loop_phraseRound ahead] at ends
      have passed := remaining_endMarker (SeenForms.positive {} || SeenForms.negative {}) marker first
      have left : remaining (Form.endMarker (SeenForms.positive {} || SeenForms.negative {}) marker
          first).2 = (other :: rest).length := congrArg List.length ends
      rw [List.length_cons] at far
      omega
  | some polarity =>
      dsimp only at quiet ends ⊢
      rw [seen_of_loop ahead] at quiet ends ⊢
      rw [seen_of_loop (looked ▸ ahead)]
      exact misses_endMarker closes differs kept loops parted quiet ends

/-- A statement that ends with phrases is closed by its END marker, if a token is ahead that
only a phrase can accept. -/
theorem misses_run_of_closedBy (marks : landmark.Marks stop)
    (otherMarks : otherLandmark.Marks other) (wordMarks : word.Marks token)
    (differs : other.value ≠ landmark.word) (further : Obeys (Further 0) inner)
    (nested : Concurs stop other (other :: rest) rest inner) {form : Form} {notes : Notes}
    (closedBy : form.closedBy landmark otherLandmark word notes = true)
    (blind : form.blind landmark otherLandmark = true)
    (parted : Parted stop other (other :: rest) rest first second)
    (hold : notes.Hold word first)
    (owed : token :: (between ++ stop :: other :: rest) <:+ first.ahead)
    (quiet : (form.run inner first).2.Quiet)
    (ends : (form.run inner first).2.ahead = other :: rest) :
    Misses stop other rest (form.run inner first).2 (form.run inner second).2 := by
  induction form generalizing notes first second with
  | seq early late ihEarly ihLate =>
      rw [Form.closedBy, Bool.or_eq_true, Bool.and_eq_true, Bool.and_eq_true, Bool.and_eq_true]
        at closedBy
      rw [Form.blind, Bool.and_eq_true] at blind
      rcases closedBy with ⟨idle, closes⟩ | ⟨⟨flat, permitted⟩, closes⟩
      · obtain rfl := Form.eq_done_of_idle idle
        exact ihEarly closes blind.1 parted hold owed quiet ends
      · -- what comes before the phrases does not pass the token that is owed
        obtain ⟨kept, known⟩ := (closed_upto wordMarks first.tokens
          (between ++ stop :: other :: rest)).run_of_flat flat permitted hold
        have halfway : (early.run inner first).2.Quiet :=
          reports_eq_nil (further_run further late _).reports quiet
        have still := (kept.kept (fun _ => ⟨rfl, owed⟩) halfway).2
        have awaits : Awaits (stop :: other :: rest) (early.run inner first).2 :=
          ⟨halfway, (List.suffix_append _ _).trans ((List.suffix_cons _ _).trans still)⟩
        have next := ((concurs_run marks otherMarks further nested blind.1).tracks parted awaits).2
        exact ihLate closes blind.2 next known still quiet ends
  | branch test yes no ihYes ihNo =>
      rw [Form.closedBy, Bool.and_eq_true, Bool.and_eq_true] at closedBy
      rw [Form.blind, Bool.and_eq_true, Bool.and_eq_true (yes.blind _ _)] at blind
      obtain ⟨_, forks⟩ := parted
      have held := forks.holds_eq marks otherMarks (Test.agrees_of_blind closedBy.1 _)
      rw [Form.run_branch] at quiet ends ⊢
      rw [Form.run_branch, ← held]
      split at quiet
      · next holds =>
        rw [if_pos holds] at ends ⊢
        rw [if_pos holds]
        exact ihYes closedBy.2.1 blind.2.1 forks.parted (hold.learn holds) owed quiet ends
      · next fails =>
        rw [if_neg fails] at ends ⊢
        rw [if_neg fails]
        exact ihNo closedBy.2.2 blind.2.2 forks.parted hold owed quiet ends
  | phrases phrase positive negative marker =>
      cases marker with
      | none => cases closedBy
      | some marker =>
          rw [Form.closedBy, beq_iff_eq] at closedBy
          subst closedBy
          refine misses_phrases marks otherMarks marks.1 differs further nested blind parted ?_ quiet
            ends
          have long := owed.length_le
          rw [List.length_cons, List.length_append] at long
          exact Nat.lt_of_lt_of_le (by omega) long
  | _ => cases closedBy

end Phrases

/-! ## Statements -/

/-- The statements that have conditional phrases and an END marker behind these. -/
def phrasedStatements : List String :=
  ["COMPUTE", "ADD", "SUBTRACT", "MULTIPLY", "DIVIDE", "DELETE", "REWRITE", "RETURN"]

/-- The statements that an END marker closes. -/
def closedStatements : List String :=
  "IF" :: phrasedStatements

/-- Words that only the conditional phrases of statements have, and that each of them has. -/
def phraseWords : List String :=
  ["SIZE", "INVALID", "EXCEPTION", "END"]

namespace Landmark

/-- The word that begins a statement. -/
def beginning (keyword : String) : Landmark :=
  ⟨keyword, .reserved, .statement⟩

/-- A reserved word that begins neither a statement nor a clause. -/
def particle (word : String) : Landmark :=
  ⟨word, .reserved, .plain⟩

/-- The END marker of a statement. -/
def endOf (keyword : String) : Landmark :=
  particle ("END-" ++ keyword)

theorem period_ne_endOf {keyword : String} (closed : keyword ∈ closedStatements) :
    "." ≠ (endOf keyword).word := by
  revert keyword
  decide

end Landmark

theorem Form.closedBy_ofKeyword : ∀ keyword ∈ phrasedStatements, ∀ word ∈ phraseWords,
    (ofKeyword keyword).closedBy (.endOf keyword) .period (.particle word) {} = true := by
  decide +kernel

theorem Form.blind_ofKeyword : ∀ keyword ∈ phrasedStatements,
    (ofKeyword keyword).blind (.endOf keyword) .period = true := by
  decide +kernel

/-- No statement tells an END marker from a period, but for the statements that it closes. -/
theorem Landmark.blinds_endOf {keyword : String} (closed : keyword ∈ closedStatements) :
    (endOf keyword).Blinds period where
  begins := rfl
  each other := by
    have blind : (∀ keyword ∈ closedStatements,
        (Form.ofKeyword other).blind (endOf keyword) .period = true) ∨
          Form.ofKeyword other = .unsupported other := by
      unfold Form.ofKeyword
      split
      case h_34 => exact .inr rfl
      all_goals exact .inl (by decide +kernel)
    exact blind.imp (· keyword closed) id

/-- No statement looks beyond the word that begins another one. -/
theorem Landmark.blinds_beginning {keyword : String} (closed : keyword ∈ closedStatements) :
    (beginning keyword).Blinds (beginning keyword) where
  begins := rfl
  each other := by
    have blind : (∀ keyword ∈ closedStatements,
        (Form.ofKeyword other).blind (beginning keyword) (beginning keyword) = true) ∨
          Form.ofKeyword other = .unsupported other := by
      unfold Form.ofKeyword
      split
      case h_34 => exact .inr rfl
      all_goals exact .inl (by decide +kernel)
    exact blind.imp (· keyword closed) id

section Statement

variable {keyword stop period : Token} {body rest : List Token} {first second : State}

/-- A statement that its END marker closes before a period is reported without the marker, once
and at the period. -/
theorem misses_statement (closed : keyword.value ∈ closedStatements)
    (marks : (Landmark.endOf keyword.value).Marks stop) (ends : Landmark.period.Marks period)
    (phrased : keyword.value = "IF" ∨
      ∃ token ∈ body, ∃ word ∈ phraseWords, (Landmark.particle word).Marks token)
    (forks : Forks (keyword :: body) (stop :: period :: rest) (period :: rest) first second)
    {limit : Nat} (quiet : (statement (nestedStatements limit) first).2.Quiet)
    (stands : (statement (nestedStatements limit) first).2.ahead = period :: rest) :
    Misses stop period rest (statement (nestedStatements limit) first).2
      (statement (nestedStatements limit) second).2 := by
  have further : Obeys (Further 0) (nestedStatements limit) := further_nestedStatements limit
  have blinds := Landmark.blinds_endOf closed
  have nested : Concurs stop period (period :: rest) rest (nestedStatements limit) :=
    concurs_nestedStatements marks ends blinds limit
  have here : first.current = keyword := current_of_ahead_cons forks.first_ahead
  rw [statement, run_bind, run_word, here] at quiet stands ⊢
  rw [run_bind, run_word, forks.current, here]
  rcases List.mem_cons.mp closed with isIf | listed
  · have form : Form.ofKeyword keyword.value = .ifElse := by
      rw [isIf]
      rfl
    have marker : Landmark.endOf keyword.value = .endIf := by
      rw [isIf]
      decide
    rw [form] at quiet stands ⊢
    exact misses_ifElse (marker ▸ marks) ends further nested forks.parted quiet stands
  · have other : keyword.value ≠ "IF" := by
      intro isIf
      rw [isIf] at listed
      exact absurd listed (by decide)
    obtain ⟨token, member, word, known, wordMarks⟩ := phrased.resolve_left other
    obtain ⟨before, after, split⟩ := List.append_of_mem member
    have owed : token :: (after ++ stop :: period :: rest) <:+ first.ahead := by
      rw [forks.first_ahead, split]
      exact ⟨keyword :: before, by simp⟩
    have differs : period.value ≠ (Landmark.endOf keyword.value).word := by
      rw [ends.1]
      exact Landmark.period_ne_endOf closed
    exact misses_run_of_closedBy marks ends wordMarks differs further nested
      (Form.closedBy_ofKeyword _ listed word known) (Form.blind_ofKeyword _ listed) forks.parted
      (.nothing _ first) owed quiet stands

end Statement

/-! ## The end of the sentence -/

/-- The period ends the sentence all the same, and both runs go on behind it. -/
theorem State.Misses.resumes_sentenceEnd {stop period : Token} {rest : List Token}
    {first second : State} (misses : Misses stop period rest first second)
    (ends : Landmark.period.Marks period) (quiet : first.Quiet) :
    Resumes ⟨⟨period, .expectedLiteral stop.value⟩, period :: stop :: second.output,
      period :: second.output⟩ rest.length (sentenceEnd first).2 (sentenceEnd second).2 := by
  rw [run_sentenceEnd_of_period ends misses.first_ahead,
    run_sentenceEnd_of_period ends misses.second_ahead,
    skip_of_ahead_cons ((ahead_emit period first).trans misses.first_ahead),
    skip_of_ahead_cons ((ahead_emit period second).trans misses.second_ahead)]
  exact {
    ahead := rfl
    sentinel := misses.sentinel
    previous := rfl
    output := ⟨[], congrArg (period :: ·) misses.output, rfl⟩
    reports := by
      change second.reports = first.reports ++ [_]
      rw [misses.reports, quiet]
      rfl
    unit := misses.unit
    table := misses.table
    remaining_le := Nat.le_refl _ }

end CobolCheck
