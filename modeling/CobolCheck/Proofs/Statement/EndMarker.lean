import CobolCheck.Proofs.Statement.Reach

/-!
# Statements stop before the END marker of their unit

A statement that is read without a report ends before the END marker of the
source unit. Most statements cannot accept the word END at all. Only two can: in
an IF statement the word may be an operand of the condition, and in a RETURN
statement it may belong to the phrase AT END. Both then miss their own END
marker, since neither finds anything to read in the marker of the unit.
-/

namespace CobolCheck

/-- The END marker of a source unit, as a source text gives it. -/
structure EndMarker where
  word : Token
  kind : Token
  name : Token
  period : Token
  word_marks : Landmark.unitEnd.Marks word
  kind_value : kind.value = "PROGRAM" ∨ kind.value = "FUNCTION"
  kind_category : kind.category = .reserved
  kind_context : kind.context = .plain
  name_category : name.category = .identifier
  name_context : name.context = .plain
  name_value : name.value ∉ ["THEN", "ELSE", "END-IF", "NEXT"]
  period_value : period.value = "."
  period_context : period.context = .plain

/-- The tokens of an END marker. -/
def EndMarker.tokens (marker : EndMarker) : List Token :=
  [marker.word, marker.kind, marker.name, marker.period]

namespace Form

/-- The branches of an IF statement, without its END marker. -/
def branches : Form :=
  all [optional "THEN", branchBody, optionally "ELSE" [branchBody]]

/-- A phrase that says what to do at the end of a file, and its statements. -/
def atEndPhrase : Polarity → Form
  | .positive => all [introduction .atEnd, nested]
  | .negative => all [expect "NOT", introduction .atEnd, nested]

end Form

/-! ## Staying before a token -/

namespace State

/-- Where nothing is reported in the end nothing was reported before. -/
theorem reports_eq_nil {before after : State} (kept : before.reports <:+ after.reports)
    (unreported : after.reports = []) : before.reports = [] := by
  rw [unreported] at kept
  exact List.suffix_nil.mp kept

/-- Whether nothing but a report can have brought the cursor past the beginning
of `tail`, in a text of the tokens `all`. -/
def Upto (all tail : List Token) (state : State) : Prop :=
  state.reports = [] → state.tokens = all ∧ tail <:+ state.ahead

theorem Upto.shorten {all tail shorter : List Token} {state : State} (upto : state.Upto all tail)
    (ends : shorter <:+ tail) : state.Upto all shorter :=
  fun unreported => ⟨(upto unreported).1, ends.trans (upto unreported).2⟩

/-- What lies ahead is what ends the text. -/
theorem ahead_isSuffix (state : State) : state.ahead <:+ state.tokens :=
  List.suffix_append _ _

/-- A token that is not the first of `tail` may be passed over. -/
theorem isSuffix_skip {token : Token} {tail : List Token} {state : State}
    (ends : token :: tail <:+ state.ahead) (differs : state.current ≠ token) :
    token :: tail <:+ state.skip.ahead := by
  cases next : state.ahead with
  | nil =>
      rw [next] at ends
      cases List.suffix_nil.mp ends
  | cons first rest =>
      rw [current_of_ahead_cons next] at differs
      rw [next] at ends
      rw [ahead_skip, next, List.tail_cons]
      rcases List.suffix_cons_iff.mp ends with whole | later
      · cases whole
        exact absurd rfl differs
      · exact later

theorem ne_of_not_marks {landmark : Landmark} {first token : Token}
    (clear : ¬ landmark.Marks first) (marks : landmark.Marks token) : first ≠ token := by
  rintro rfl
  exact clear marks

theorem Upto.move {landmark : Landmark} {all tail : List Token} {token : Token}
    (marks : landmark.Marks token) {before after : State} (move : before.Move landmark after)
    (upto : before.Upto all (token :: tail)) : after.Upto all (token :: tail) := by
  intro unreported
  have still := move.still
  have begun := reports_eq_nil still.reports unreported
  obtain ⟨tokens_eq, ends⟩ := upto begun
  constructor
  · exact still.tokens_eq.trans tokens_eq
  · cases move with
    | accept clear => exact isSuffix_skip ends (ne_of_not_marks clear marks)
    | acceptDevice last clear => exact isSuffix_skip ends (ne_of_not_marks clear marks)
    | recover reported => exact absurd begun reported
    | report token cause => exact absurd unreported (List.cons_ne_nil _ _)
    | skip reported => exact absurd begun reported
    | nest => exact ends

/-- Whether nothing but a report can have moved the cursor away from `rest`. -/
def At (rest : List Token) (state : State) : Prop :=
  state.reports = [] → state.ahead = rest

theorem At.move {landmark : Landmark} {token : Token} {rest : List Token}
    (marks : landmark.Marks token) {before after : State} (move : before.Move landmark after)
    (stands : before.At (token :: rest)) : after.At (token :: rest) := by
  intro unreported
  have begun := reports_eq_nil move.still.reports unreported
  have next := stands begun
  have here := current_of_ahead_cons next
  cases move with
  | accept clear => exact absurd here (ne_of_not_marks clear marks)
  | acceptDevice last clear => exact absurd here (ne_of_not_marks clear marks)
  | recover reported => exact absurd begun reported
  | report token cause => exact absurd unreported (List.cons_ne_nil _ _)
  | skip reported => exact absurd begun reported
  | nest => exact next

end State

open Analysis

theorem closed_upto {landmark : Landmark} {token : Token} (marks : landmark.Marks token)
    (all tail : List Token) : Closed landmark (Keeps (State.Upto all (token :: tail))) :=
  closed_keeps (State.Upto.move marks)

theorem closed_at {landmark : Landmark} {token : Token} (marks : landmark.Marks token)
    (rest : List Token) : Closed landmark (Keeps (State.At (token :: rest))) :=
  closed_keeps (State.At.move marks)

namespace Analysis

/-! ## Nothing to read -/

/-- Where no statement begins, a nested sequence is empty. -/
theorem nestedStatements_of_not_statement (room : Nat) {state : State}
    (plain : Test.statement.holds state = false) :
    (nestedStatements room state).2.reports ≠ [] ∨
      (nestedStatements room state).2.ahead = state.ahead := by
  cases room with
  | zero =>
      left
      have closed := closed_still .endOfInput
      have reported := closed.obeysFrom_skipScope
        (state.report state.current (.general .nestedTooDeeply)) (List.cons_ne_nil _ _)
      exact closed.reports_ne_nil reported (List.cons_ne_nil _ _)
  | succ room =>
      right
      have begun : Test.statement.holds (enter state).2 = false := plain
      rw [nestedStatements, run_bind, run_bind, whilst_eq, begun]
      rfl

/-- A nested sequence stays at a token that begins no statement. -/
theorem obeys_nestedStatements_at {token : Token} (plain : token.context ≠ .statement)
    (rest : List Token) (room : Nat) :
    Obeys (Keeps (State.At (token :: rest))) (nestedStatements room) := by
  intro state
  have still := (closed_still .endOfInput).obeys_all_nestedStatements room state
  constructor
  · exact still.reports
  · intro stands unreported
    have begun := State.reports_eq_nil still.reports unreported
    have next := stands begun
    have ended : Test.statement.holds state = false := by
      rw [Test.statement, Test.holds, State.current_of_ahead_cons next, beq_eq_false_iff_ne]
      exact plain
    rcases nestedStatements_of_not_statement room ended with reported | same
    · exact absurd unreported reported
    · exact same.trans next

/-! ## The IF statement -/

theorem remaining_acceptMany (count : Nat) (state : State) :
    remaining (acceptMany count state).2 = remaining state - count := by
  induction count generalizing state with
  | zero => rfl
  | succ count ih =>
      have accepted : remaining (accept state).2 = remaining state - 1 := by
        change (state.emit state.current).skip.ahead.length = state.ahead.length - 1
        rw [State.ahead_skip, List.length_tail, State.ahead_emit]
      rw [acceptMany, run_bind, ih, accepted]
      omega

/-- A term of a condition that goes on takes up at least one word. -/
theorem exists_readTerm (delimiter : String) (terms : List Term) {state : State}
    (goesOn : (conditionEnd delimiter).holds state = false) :
    ∃ more count, 1 ≤ count ∧
      readTerm delimiter terms state = (some more, (acceptMany count state).2) := by
  rw [readTerm, run_bind, run_ask, goesOn]
  exact ⟨_, _, Reading.one_le_count _ _ _, rfl⟩

/-- A condition goes on to where it has to end, or to the end of the tokens. -/
theorem conditionEnd_of_conditionTerms (delimiter : String) (state : State) :
    (conditionEnd delimiter).holds (conditionTerms delimiter state).2 = true ∨
      (conditionTerms delimiter state).2.ahead = [] := by
  obtain ⟨terms, before, same, ended⟩ := exists_last_round (readTerm delimiter) [] state
  change _ = (conditionTerms delimiter state).2 at same
  change _ ∨ _ ≤ remaining (conditionTerms delimiter state).2 at ended
  cases held : (conditionEnd delimiter).holds before with
  | true =>
      rw [readTerm, run_bind, run_ask, held] at same
      rw [← same]
      exact .inl held
  | false =>
      right
      obtain ⟨more, count, positive, read⟩ := exists_readTerm delimiter terms held
      rw [read] at same ended
      have stuck := ended.resolve_left (by simp)
      rw [← same, remaining_acceptMany] at stuck
      apply List.eq_nil_of_length_eq_zero
      change remaining _ = 0
      rw [← same, remaining_acceptMany]
      omega

/-- Judging a condition does not move the cursor. -/
theorem judgeCondition_still (first : Token) (terms : List Term) (state : State) :
    (judgeCondition first terms state).2.ahead = state.ahead ∧
      (judgeCondition first terms state).2.sentinel = state.sentinel := by
  unfold judgeCondition
  cases terms.isEmpty with
  | true => exact ⟨rfl, rfl⟩
  | false =>
      cases Term.balanced terms <;> cases Term.fault? (Term.postorder terms) <;> exact ⟨rfl, rfl⟩

/-- A condition ends at no word of an END marker but its period. -/
theorem value_of_conditionEnd {state : State} {token : Token} {rest : List Token}
    (next : state.ahead = token :: rest) (ended : (conditionEnd "THEN").holds state = true)
    (inside : token.category ≠ .eof) (plain : token.context = .plain)
    (other : token.value ∉ ["THEN", "ELSE", "END-IF", "NEXT"]) : token.value = "." := by
  have here : state.lookahead 0 = token := State.current_of_ahead_cons next
  simp only [List.mem_cons, not_or] at other
  simpa [conditionEnd, Test.isAny, Test.eof, Test.has, Test.statement, Test.nextSentence, Test.is,
    Test.holds, State.current, here, inside, plain, other] using ended

variable {all : List Token} {marker : EndMarker} {last : Token}

/-- Without a report a condition ends before the END marker or at a period. -/
theorem condition_upto {state : State} (upto : state.Upto all (marker.tokens ++ [last]))
    (unreported : (condition "THEN" state).2.reports = []) :
    (condition "THEN" state).2.tokens = all ∧
      (marker.tokens ++ [last] <:+ (condition "THEN" state).2.ahead ∨
        ∃ token rest, (condition "THEN" state).2.ahead = token :: rest ∧
          token.value = "." ∧ token.context = .plain) := by
  have marks : (⟨".", marker.period.category, .plain⟩ : Landmark).Marks marker.period :=
    ⟨marker.period_value, rfl, marker.period_context⟩
  have ends : (⟨".", marker.period.category, .plain⟩ : Landmark).endsCondition "THEN" = true := rfl
  have keeps := (closed_upto marks all [last]).obeys_condition ends state
  have period : [marker.period, last] <:+ marker.tokens ++ [last] :=
    ⟨[marker.word, marker.kind, marker.name], rfl⟩
  obtain ⟨tokens_eq, before⟩ := upto (State.reports_eq_nil keeps.reports unreported)
  obtain ⟨same, ahead⟩ := keeps.kept (upto.shorten period) unreported
  constructor
  · exact same
  · have still := judgeCondition_still state.current (conditionTerms "THEN" state).1
      (conditionTerms "THEN" state).2
    change (condition "THEN" state).2.ahead = _ ∧ (condition "THEN" state).2.sentinel = _ at still
    have ended := (conditionEnd_of_conditionTerms "THEN" state).symm
    rw [← still.1, ← Test.holds_congr still.1 still.2] at ended
    have inside := (condition "THEN" state).2.ahead_isSuffix
    rw [same, ← tokens_eq] at inside
    rcases List.suffix_or_suffix_of_suffix (before.trans state.ahead_isSuffix) inside with
      earlier | later
    · exact .inl earlier
    cases next : (condition "THEN" state).2.ahead with
    | nil =>
        rw [next] at ahead
        cases List.suffix_nil.mp ahead
    | cons token rest =>
        rw [next] at ended ahead later
        have held := ended.resolve_left (List.cons_ne_nil _ _)
        rcases List.suffix_cons_iff.mp later with whole | later
        · exact .inl (whole ▸ List.suffix_rfl)
        right
        refine ⟨token, rest, rfl, ?_⟩
        rcases List.suffix_cons_iff.mp later with whole | later
        · cases whole
          have other : marker.kind.value ∉ ["THEN", "ELSE", "END-IF", "NEXT"] := by
            rcases marker.kind_value with value | value <;> rw [value] <;> decide
          have inside : marker.kind.category ≠ .eof := by simp [marker.kind_category]
          exact ⟨value_of_conditionEnd next held inside marker.kind_context other,
            marker.kind_context⟩
        rcases List.suffix_cons_iff.mp later with whole | later
        · cases whole
          have inside : marker.name.category ≠ .eof := by simp [marker.name_category]
          exact ⟨value_of_conditionEnd next held inside marker.name_context marker.name_value,
            marker.name_context⟩
        rcases List.suffix_cons_iff.mp later with whole | later
        · cases whole
          exact ⟨marker.period_value, marker.period_context⟩
        · -- the period itself would be passed
          have short : (token :: rest).length ≤ 1 := later.length_le
          have long : 2 ≤ (token :: rest).length := ahead.length_le
          omega

theorem run_ifElse (inner : Analysis Unit) :
    Form.ifElse.run inner = (do
      expect "IF"
      condition "THEN"
      Form.branches.run inner
      (Form.close "END-IF").run inner) := by
  simp only [Form.ifElse, Form.branches, Form.run_all_cons, Form.run_all_nil, bind_assoc,
    bind_pure_unit]
  rfl

/-- Branches that begin at a period are empty, and their statement misses its END marker. -/
theorem reports_branches_of_period {token : Token} {rest : List Token} {state : State}
    (next : state.ahead = token :: rest) (value : token.value = ".")
    (plain : token.context = .plain) (room : Nat) :
    ((Form.close "END-IF").run (nestedStatements room)
      (Form.branches.run (nestedStatements room) state).2).2.reports ≠ [] := by
  have marks : (⟨".", token.category, .plain⟩ : Landmark).Marks token := ⟨value, rfl, plain⟩
  have nested := obeys_nestedStatements_at (by simp [plain] : token.context ≠ .statement) rest room
  have permitted : Form.branches.permitted ⟨".", token.category, .plain⟩ {} = true := rfl
  have keeps := (closed_at marks rest).obeys_run_of_permitted nested _ permitted state
  generalize (Form.branches.run (nestedStatements room) state).2 = after at keeps
  intro unreported
  have closes := (closed_at marks rest).obeys_run_of_permitted nested (.close "END-IF") rfl after
  have here := keeps.kept (fun _ => next) (State.reports_eq_nil closes.reports unreported)
  have absent : (Test.is "END-IF").holds after = false := by
    rw [← Bool.not_eq_true, Test.holds_is_iff, State.current_of_ahead_cons here, value]
    decide
  rw [Form.close, Form.run, run_bind, run_ask, absent] at unreported
  cases unreported

/-- An IF statement stays before the END marker of its unit. -/
theorem obeys_ifElse {room : Nat}
    (nested : Obeys (Keeps (State.Upto all (marker.tokens ++ [last]))) (nestedStatements room)) :
    Obeys (Keeps (State.Upto all (marker.tokens ++ [last])))
      (Form.ifElse.run (nestedStatements room)) := by
  have closed := closed_upto marker.word_marks all [marker.kind, marker.name, marker.period, last]
  rw [run_ifElse]
  apply closed.obeys_bind (closed.obeys_expect (by decide))
  intro _ state
  have judged : state.Still (condition "THEN" state).2 :=
    (closed_still .endOfInput).obeys_condition rfl state
  have read := closed.obeys_run_of_permitted nested Form.branches rfl (condition "THEN" state).2
  have closes := closed.obeys_run_of_permitted nested (.close "END-IF") rfl
    (Form.branches.run (nestedStatements room) (condition "THEN" state).2).2
  have rest := closed.trans read closes
  rw [run_bind, run_bind]
  constructor
  · exact judged.reports.trans rest.reports
  · intro upto unreported
    obtain ⟨same, before | ⟨token, others, next, value, plain⟩⟩ :=
      condition_upto upto (State.reports_eq_nil rest.reports unreported)
    · exact rest.kept (fun _ => ⟨same, before⟩) unreported
    · exact absurd unreported (reports_branches_of_period next value plain room)

/-! ## The RETURN statement -/

/-- Whether the cursor is at most behind the word END of the END marker, unless
something was reported. -/
def UptoKind (all : List Token) (marker : EndMarker) (last : Token) (state : State) : Prop :=
  state.reports = [] →
    state.tokens = all ∧
      (marker.tokens ++ [last] <:+ state.ahead ∨
        state.ahead = [marker.kind, marker.name, marker.period, last])

theorem uptoKind_expect_end {state : State} (upto : state.Upto all (marker.tokens ++ [last])) :
    UptoKind all marker last (expect "END" state).2 := by
  intro unreported
  have still : state.Still (expect "END" state).2 :=
    (closed_still .endOfInput).obeys_expect (by decide) state
  obtain ⟨tokens_eq, before⟩ := upto (State.reports_eq_nil still.reports unreported)
  constructor
  · exact still.tokens_eq.trans tokens_eq
  · rw [expect, run_discard, run_acceptIf] at unreported ⊢
    split at unreported
    · next held =>
      rw [if_pos held, State.ahead_skip, State.ahead_emit]
      cases next : state.ahead with
      | nil =>
          rw [next] at before
          cases List.suffix_nil.mp before
      | cons token rest =>
          rw [next] at before
          rcases List.suffix_cons_iff.mp before with whole | later
          · cases whole
            exact .inr rfl
          · exact .inl later
    · cases State.reports_eq_nil (State.still_skip _).reports unreported

theorem uptoKind_nestedStatements {room : Nat}
    (nested : Obeys (Keeps (State.Upto all (marker.tokens ++ [last]))) (nestedStatements room))
    {state : State} (upto : UptoKind all marker last state) :
    UptoKind all marker last (nestedStatements room state).2 := by
  intro unreported
  have stays := obeys_nestedStatements_at (by simp [marker.kind_context] :
    marker.kind.context ≠ .statement) [marker.name, marker.period, last] room state
  obtain ⟨tokens_eq, before | behind⟩ := upto (State.reports_eq_nil stays.reports unreported)
  · have kept := (nested state).kept (fun _ => ⟨tokens_eq, before⟩) unreported
    exact ⟨kept.1, .inl kept.2⟩
  · have still := (closed_still .endOfInput).obeys_all_nestedStatements room state
    exact ⟨still.tokens_eq.trans tokens_eq, .inr (stays.kept (fun _ => behind) unreported)⟩

theorem run_atEndPhrase (inner : Analysis Unit) :
    (Form.atEndPhrase .positive).run inner = (do
      (Form.optional "AT").run inner
      expect "END"
      inner) := by
  simp only [Form.atEndPhrase, Form.introduction, Form.run_all_cons, Form.run_all_nil, bind_assoc,
    bind_pure_unit]
  rfl

/-- A phrase of a RETURN statement may take the word END of the marker for its own. -/
theorem uptoKind_atEndPhrase {room : Nat}
    (nested : Obeys (Keeps (State.Upto all (marker.tokens ++ [last]))) (nestedStatements room))
    (polarity : Polarity) {state : State} (upto : state.Upto all (marker.tokens ++ [last])) :
    UptoKind all marker last
      ((Form.atEndPhrase polarity).run (nestedStatements room) state).2 := by
  have closed := closed_upto marker.word_marks all [marker.kind, marker.name, marker.period, last]
  have positive {state : State} (upto : state.Upto all (marker.tokens ++ [last])) :
      UptoKind all marker last
        ((Form.atEndPhrase .positive).run (nestedStatements room) state).2 := by
    have word := closed.obeys_run_of_permitted nested (.optional "AT") rfl state
    rw [run_atEndPhrase, run_bind, run_bind]
    exact uptoKind_nestedStatements nested (uptoKind_expect_end (word.kept upto))
  cases polarity with
  | positive => exact positive upto
  | negative =>
      have split : (Form.atEndPhrase .negative).run (nestedStatements room) =
          expect "NOT" >>= fun _ => (Form.atEndPhrase .positive).run (nestedStatements room) := rfl
      rw [split, run_bind]
      exact positive ((closed.obeys_expect (by decide) state).kept upto)

/-- The END marker of the unit begins no phrase of a RETURN statement behind its first word. -/
theorem phraseAhead_at_kind {state : State}
    (behind : state.ahead = [marker.kind, marker.name, marker.period, last])
    (polarity : Polarity) : (Phrase.atEnd.ahead polarity).holds state = false := by
  have here : state.lookahead 0 = marker.kind := State.current_of_ahead_cons behind
  have other : marker.kind.value ∉ ["AT", "END", "NOT"] := by
    rcases marker.kind_value with value | value <;> rw [value] <;> decide
  simp only [List.mem_cons, not_or] at other
  cases polarity <;>
    simp [Phrase.ahead, Phrase.positiveAt, Test.is, Test.holds, here, other]

/-- A round without a phrase changes nothing. -/
theorem phraseRound_of_none {phrase : Phrase} (body : Polarity → Analysis Unit) (seen : SeenForms)
    {state : State} (absent : ∀ polarity, (phrase.ahead polarity).holds state = false) :
    Form.phraseRound phrase body seen state = (none, state) := by
  rw [Form.phraseRound, run_bind, Form.run_phraseAhead, absent, absent]
  rfl

/-- A round with a phrase reads it, and reports it first if it is a repeated one. -/
theorem exists_phraseRound {phrase : Phrase} (body : Polarity → Analysis Unit) (seen : SeenForms)
    {state : State} (present : ∃ polarity, (phrase.ahead polarity).holds state = true) :
    ∃ polarity begun, (begun = state ∨ begun.reports ≠ []) ∧
      Form.phraseRound phrase body seen state =
        (some (seen.insert polarity), (body polarity begun).2) := by
  have read (polarity : Polarity) (found : (Form.phraseAhead phrase state).1 = some polarity) :
      ∃ begun, (begun = state ∨ begun.reports ≠ []) ∧
        Form.phraseRound phrase body seen state =
          (some (seen.insert polarity), (body polarity begun).2) := by
    have still : (Form.phraseAhead phrase state).2 = state := by rw [Form.run_phraseAhead]
    rw [Form.phraseRound, run_bind, found, still]
    dsimp only
    split
    · exact ⟨_, .inr (List.cons_ne_nil _ _), rfl⟩
    · exact ⟨state, .inl rfl, rfl⟩
  rw [Form.run_phraseAhead] at read
  cases positive : (phrase.ahead .positive).holds state with
  | true => exact ⟨.positive, read .positive (by rw [positive]; rfl)⟩
  | false =>
      obtain ⟨polarity, held⟩ := present
      cases polarity with
      | positive =>
          rw [positive] at held
          cases held
      | negative => exact ⟨.negative, read .negative (by rw [positive, held]; rfl)⟩

/-- Behind the first word of the END marker a RETURN statement has had a phrase. -/
theorem uptoKind_phrases {room : Nat}
    (nested : Obeys (Keeps (State.Upto all (marker.tokens ++ [last]))) (nestedStatements room))
    {state after : State} {seen : SeenForms} (upto : state.Upto all (marker.tokens ++ [last]))
    (ran : loop (Form.phraseRound .atEnd fun polarity =>
      (Form.atEndPhrase polarity).run (nestedStatements room)) {} state = (seen, after)) :
    UptoKind all marker last after ∧
      (after.reports = [] → after.ahead = [marker.kind, marker.name, marker.period, last] →
        (seen.positive || seen.negative) = true) := by
  have kept := @loop_induction _
    (Form.phraseRound .atEnd fun polarity =>
      (Form.atEndPhrase polarity).run (nestedStatements room))
    (fun seen after => UptoKind all marker last after ∧
      (after.reports = [] → after.ahead = [marker.kind, marker.name, marker.period, last] →
        (seen.positive || seen.negative) = true)) ?_ ?_ {} state ?_
  · rw [ran] at kept
    exact kept
  · intro seen before after invariant ended
    by_cases present : ∃ polarity, (Phrase.atEnd.ahead polarity).holds before = true
    · obtain ⟨polarity, begun, _, read⟩ := exists_phraseRound
        (fun polarity => (Form.atEndPhrase polarity).run (nestedStatements room)) seen present
      rw [read] at ended
      cases ended
    · simp only [not_exists, Bool.not_eq_true] at present
      rw [phraseRound_of_none _ _ present] at ended
      cases ended
      exact invariant
  · intro seen before next after invariant went
    by_cases present : ∃ polarity, (Phrase.atEnd.ahead polarity).holds before = true
    · obtain ⟨polarity, begun, unrepeated, read⟩ := exists_phraseRound
        (fun polarity => (Form.atEndPhrase polarity).run (nestedStatements room)) seen present
      rw [read] at went
      cases went
      have begun_upto : begun.Upto all (marker.tokens ++ [last]) := by
        intro unreported
        obtain rfl := unrepeated.resolve_right fun reported => reported unreported
        obtain ⟨tokens_eq, ahead | behind⟩ := invariant.1 unreported
        · exact ⟨tokens_eq, ahead⟩
        · -- behind the first word of the marker no phrase begins
          obtain ⟨polarity, held⟩ := present
          rw [phraseAhead_at_kind behind] at held
          cases held
      constructor
      · exact uptoKind_atEndPhrase nested polarity begun_upto
      · intro _ _
        cases polarity <;> simp [SeenForms.insert]
    · simp only [not_exists, Bool.not_eq_true] at present
      rw [phraseRound_of_none _ _ present] at went
      cases went
  · refine ⟨fun unreported => ⟨(upto unreported).1, .inl (upto unreported).2⟩, ?_⟩
    intro unreported behind
    have long := (upto unreported).2.length_le
    rw [behind] at long
    exact absurd long (by simp [EndMarker.tokens])

theorem run_conditional_atEnd (inner : Analysis Unit) (word : String) :
    (Form.conditional .atEnd word).run inner = (do
      let seen ← loop (Form.phraseRound .atEnd fun polarity =>
        (Form.atEndPhrase polarity).run inner) {}
      Form.endMarker (seen.positive || seen.negative) word) := by
  have same : (fun polarity => (Form.atEndPhrase polarity).run inner) =
      fun
      | .positive => (Form.all [Form.introduction .atEnd, .nested]).run inner
      | .negative => (Form.all [.expect "NOT", Form.introduction .atEnd, .nested]).run inner := by
    funext polarity
    cases polarity <;> rfl
  exact congrArg (fun body => loop (Form.phraseRound .atEnd body) {} >>= fun seen =>
    Form.endMarker (seen.positive || seen.negative) word) same.symm

/-- A RETURN statement that took the word END for its own misses its END marker. -/
theorem obeys_conditional_atEnd {room : Nat}
    (nested : Obeys (Keeps (State.Upto all (marker.tokens ++ [last]))) (nestedStatements room)) :
    Obeys (Keeps (State.Upto all (marker.tokens ++ [last])))
      ((Form.conditional .atEnd "END-RETURN").run (nestedStatements room)) := by
  have closed := closed_upto marker.word_marks all [marker.kind, marker.name, marker.period, last]
  have quiet := closed_still .endOfInput
  intro state
  have still := quiet.obeys_run_of_permitted (quiet.obeys_all_nestedStatements room)
    (.conditional .atEnd "END-RETURN") rfl state
  refine ⟨still.reports, fun upto unreported => ?_⟩
  rw [run_conditional_atEnd, run_bind] at unreported ⊢
  rcases ran : loop (Form.phraseRound .atEnd fun polarity =>
    (Form.atEndPhrase polarity).run (nestedStatements room)) {} state with ⟨seen, after⟩
  rw [ran] at unreported
  obtain ⟨reached, required⟩ := uptoKind_phrases nested upto ran
  have differs : "END-RETURN" ≠ Landmark.unitEnd.word := by decide
  have closes := closed.obeys_endMarker differs (seen.positive || seen.negative) after
  have begun := State.reports_eq_nil closes.reports unreported
  obtain ⟨tokens_eq, before | behind⟩ := reached begun
  · exact closes.kept (fun _ => ⟨tokens_eq, before⟩) unreported
  · have absent : (Test.is "END-RETURN").holds after = false := by
      rw [← Bool.not_eq_true, Test.holds_is_iff, State.current_of_ahead_cons behind]
      rcases marker.kind_value with value | value <;> rw [value] <;> decide
    rw [required begun behind, Form.endMarker, run_bind, optional, run_bind, run_ask,
      absent] at unreported
    cases unreported

/-- A RETURN statement stays before the END marker of its unit. -/
theorem obeys_returnRecord {room : Nat}
    (nested : Obeys (Keeps (State.Upto all (marker.tokens ++ [last]))) (nestedStatements room)) :
    Obeys (Keeps (State.Upto all (marker.tokens ++ [last])))
      (Form.returnRecord.run (nestedStatements room)) := by
  have closed := closed_upto marker.word_marks all [marker.kind, marker.name, marker.period, last]
  have phrases : Obeys (Keeps (State.Upto all (marker.tokens ++ [last])))
      ((Form.all [.conditional .atEnd "END-RETURN"]).run (nestedStatements room)) := by
    rw [Form.run_all_cons, Form.run_all_nil, bind_pure_unit]
    exact obeys_conditional_atEnd nested
  have whole := closed.obeys_bind (closed.obeys_run_of_permitted nested (Form.all
    [.expect "RETURN", .identifier, .optional "RECORD", .optionally "INTO" [.identifier],
      .optionalRetry]) rfl) fun _ => phrases
  rw [← Form.run_all_append] at whole
  exact whole

/-- Sentences stay before the END marker of their unit. -/
theorem obeys_sentences_upto (all : List Token) (marker : EndMarker) (last : Token) (limit : Nat) :
    Obeys (Keeps (State.Upto all (marker.tokens ++ [last]))) (sentences limit) := by
  have closed := closed_upto marker.word_marks all [marker.kind, marker.name, marker.period, last]
  refine closed.obeys_sentences (by decide) (fun room nested keyword => ?_) limit
  by_cases plain : keyword ∈ ["IF", "RETURN"]
  · simp only [List.mem_cons, List.not_mem_nil, or_false] at plain
    rcases plain with rfl | rfl
    · exact obeys_ifElse nested
    · exact obeys_returnRecord nested
  · exact closed.obeys_run_of_permitted nested _ (Form.permitted_ofKeyword_unitEnd plain)

end Analysis

end CobolCheck
