import CobolCheck.Proofs.Analysis.Parallel
import CobolCheck.Proofs.Analysis.Written
import CobolCheck.Proofs.Expression.Reach

/-!
# Reading an output again

The output of an analysis is itself a list of tokens. Beside the run that has
written it, consider a run that reads it: where the first run is at a token, the
second one is at the token that the first one is going to write there. So the
state of the second run is known from that of the first, and from the whole
output, which is the future of the first.

The two runs see the same words, but there are two differences. A word that names a
device has another category in the output, so the token at the cursor must not be one
of these unless the next step is to accept it as a device. And the output ends
earlier: behind its end there is nothing to be seen, so the first run must not
look there.

Both are known from the end of the first run only, so they are handed on from each
state to the one before it: what is written later was still to be written, and where
a word is accepted as it is, its category was that of the output.
-/

namespace CobolCheck

open Analysis

/-- No words belong to a period. -/
theorem Reading.ofWords_period (afterOperand : Bool) (following : List String) :
    ofWords afterOperand "." following = ⟨some .operand, ".", 1⟩ := by
  simp [ofWords, Role.isNoiseWord, relation?, Role.ofWord, Role.isClassWord]

namespace State

/-! ## Tokens at their places -/

/-- The token at a place of a list, which the end of the input follows. -/
def tokenAt (tokens : List Token) (index : Nat) : Token :=
  tokens[index]?.getD (sentinelAfter tokens)

theorem lookahead_eq_tokenAt {tokens : List Token} {state : State}
    (tokens_eq : state.tokens = tokens) (sentinel_eq : state.sentinel = sentinelAfter tokens)
    (offset : Nat) : state.lookahead offset = tokenAt tokens (state.behind.length + offset) := by
  rw [lookahead, tokenAt, sentinel_eq, ← tokens_eq, State.tokens,
    List.getElem?_append_right (by simp), List.length_reverse, Nat.add_sub_cancel_left]

/-- The state of the run that reads an output when the run that writes it is in a state. -/
def retold (output : List Token) (state : State) : State :=
  { state with
    behind := state.output
    ahead := output.drop state.output.length
    sentinel := sentinelAfter output }

theorem lookahead_retold (output : List Token) (state : State) (offset : Nat) :
    (state.retold output).lookahead offset = tokenAt output (state.output.length + offset) := by
  rw [lookahead, tokenAt, retold, List.getElem?_drop]

/-- The second run accepts the token that the first one has written. -/
theorem retold_emit_skip {output : List Token} {state : State} {token : Token}
    (found : output[state.output.length]? = some token) :
    ((state.retold output).emit token).skip = ((state.emit token).skip).retold output := by
  obtain ⟨inside, rfl⟩ := List.getElem?_eq_some_iff.mp found
  have next : ((state.retold output).emit output[state.output.length]).ahead =
      output[state.output.length] :: output.drop (state.output.length + 1) :=
    List.drop_eq_getElem_cons inside
  rw [skip_of_ahead_cons next]
  generalize output[state.output.length] = token
  cases ahead : state.ahead with
  | nil =>
      have last : (state.emit token).ahead = [] := ahead
      rw [skip_of_ahead_nil last]
      rfl
  | cons other rest =>
      have next : (state.emit token).ahead = other :: rest := ahead
      rw [skip_of_ahead_cons next]
      rfl

theorem output_emit_skip (token : Token) (state : State) :
    (state.emit token).skip.output = token :: state.output :=
  output_skip _

end State

open State

/-- Whether an output retells the words of some tokens up to an end of the input. The last
of the words is a period, and the end of the input is in the output as it is in the tokens. -/
structure Retells (words : List String) (tokens output : List Token) : Prop where
  tokens_eq : ∃ rest, tokens.map Token.value = words ++ rest
  output_eq : ∃ last, output.map Token.value = words ++ [last]
  last_eq : tokenAt tokens words.length = tokenAt output words.length
  period : words = [] ∨ ∃ front, words = front ++ ["."]

namespace Retells

variable {words : List String} {tokens output : List Token}

theorem length_le (retells : Retells words tokens output) : words.length ≤ tokens.length := by
  obtain ⟨rest, tokens_eq⟩ := retells.tokens_eq
  have lengths := congrArg List.length tokens_eq
  rw [List.length_map, List.length_append] at lengths
  omega

theorem length_output (retells : Retells words tokens output) :
    output.length = words.length + 1 := by
  obtain ⟨last, output_eq⟩ := retells.output_eq
  have lengths := congrArg List.length output_eq
  rwa [List.length_map, List.length_append, List.length_singleton] at lengths

theorem value_tokenAt {list : List Token} {rest : List String}
    (list_eq : list.map Token.value = words ++ rest) {index : Nat} (inside : index < words.length) :
    (tokenAt list index).value = words[index] := by
  have place := congrArg (·[index]?) list_eq
  simp only [List.getElem?_map, List.getElem?_append_left inside,
    List.getElem?_eq_getElem inside] at place
  obtain ⟨token, found, value_eq⟩ := Option.map_eq_some_iff.mp place
  rw [tokenAt, found, Option.getD_some, value_eq]

/-- Up to the end both are made of the same words. -/
theorem value_eq (retells : Retells words tokens output) {index : Nat}
    (inside : index ≤ words.length) :
    (tokenAt tokens index).value = (tokenAt output index).value := by
  rcases Nat.lt_or_eq_of_le inside with inside | rfl
  · obtain ⟨rest, tokens_eq⟩ := retells.tokens_eq
    obtain ⟨last, output_eq⟩ := retells.output_eq
    rw [value_tokenAt tokens_eq inside, value_tokenAt output_eq inside]
  · rw [retells.last_eq]

/-- The token before the end is a period. -/
theorem value_period (retells : Retells words tokens output) {index : Nat}
    (last : index + 1 = words.length) : (tokenAt output index).value = "." := by
  obtain ⟨latest, output_eq⟩ := retells.output_eq
  rcases retells.period with rfl | ⟨front, rfl⟩
  · exact absurd last (Nat.succ_ne_zero index)
  · have index_eq : index = front.length := by simpa using last
    subst index_eq
    rw [value_tokenAt output_eq (by simp)]
    simp

end Retells

namespace State

/-! ## States on the way to an output -/

/-- Whether a state without a report has written a part of an output, where `slack` more
words are left to write or more. -/
structure Partway (words : List String) (tokens output : List Token) (slack : Nat)
    (state : State) : Prop where
  tokens_eq : state.tokens = tokens
  sentinel_eq : state.sentinel = sentinelAfter tokens
  reports_eq : state.reports = []
  output_eq : state.output.reverse = output.take state.output.length
  behind_le : state.behind.length ≤ state.output.length
  slack_le : state.output.length + slack ≤ words.length

/-- Whether moreover the token at the cursor is to be written as it is. -/
structure Onward (words : List String) (tokens output : List Token) (slack : Nat)
    (state : State) : Prop extends Partway words tokens output slack state where
  current_eq : state.behind.length = state.output.length →
    state.current = tokenAt output state.output.length

/-- Whether the second of two states is that of a run that reads the output which the
first one writes. -/
structure Rereads (words : List String) (tokens output : List Token) (slack : Nat)
    (first second : State) : Prop extends Onward words tokens output slack first where
  behind_eq : first.behind.length = first.output.length
  second_eq : second = first.retold output

variable {words : List String} {tokens output : List Token} {slack : Nat}
  {state first second : State} {token : Token}

namespace Partway

theorem mono {less : Nat} (partway : Partway words tokens output slack state)
    (enough : less ≤ slack) : Partway words tokens output less state :=
  { partway with slack_le := Nat.le_trans (Nat.add_le_add_left enough _) partway.slack_le }

/-- What was written last is in its place. -/
theorem getElem?_output (partway : Partway words tokens output slack (state.emit token).skip) :
    output[state.output.length]? = some token := by
  have written := partway.output_eq
  rw [output_emit_skip, List.reverse_cons, List.length_cons] at written
  have place := congrArg (·[state.output.length]?) written
  rw [← List.length_reverse] at place
  simpa using place.symm

theorem of_emit_skip (retells : Retells words tokens output)
    (partway : Partway words tokens output slack (state.emit token).skip)
    (value_eq : token.value = state.current.value) :
    Partway words tokens output (slack + 1) state := by
  have tokens_eq : state.tokens = tokens := by
    rw [← partway.tokens_eq, tokens_skip, tokens_emit]
  have sentinel_eq : state.sentinel = sentinelAfter tokens := by
    rw [← partway.sentinel_eq, (still_emit_skip token state).sentinel_eq]
  have slack_le := partway.slack_le
  rw [output_emit_skip, List.length_cons] at slack_le
  refine ⟨tokens_eq, sentinel_eq, ?_, ?_, ?_, by omega⟩
  · rw [← partway.reports_eq, reports_skip]
    rfl
  · have written := partway.output_eq
    rw [output_emit_skip, List.reverse_cons, List.length_cons] at written
    have front := congrArg (·.take state.output.length) written
    simpa [List.take_append_of_le_length, List.take_take] using front
  · have behind_le := partway.behind_le
    rw [output_emit_skip, List.length_cons] at behind_le
    cases ahead : state.ahead with
    | cons next rest =>
        have next : (state.emit token).ahead = next :: rest := ahead
        rw [skip_of_ahead_cons next] at behind_le
        exact Nat.le_of_succ_le_succ behind_le
    | nil =>
        -- the end of the input would be written where the period is
        have finished : (state.emit token).ahead = [] := ahead
        rw [skip_of_ahead_nil finished] at behind_le
        have behind_le : state.behind.length ≤ state.output.length + 1 := behind_le
        have whole := congrArg List.length tokens_eq
        rw [State.tokens, ahead, List.append_nil, List.length_reverse] at whole
        have length_le := retells.length_le
        by_cases last : state.output.length + 1 = words.length
        · have period := retells.value_period last
          rw [tokenAt, partway.getElem?_output, Option.getD_some, value_eq,
            current_of_ahead_nil ahead, sentinel_eq, (marks_sentinelAfter tokens).1] at period
          exact absurd period (by decide)
        · omega

end Partway

namespace Onward

theorem of_accept (retells : Retells words tokens output)
    (onward : Onward words tokens output slack (state.emit state.current).skip) :
    Onward words tokens output (slack + 1) state where
  toPartway := onward.toPartway.of_emit_skip retells rfl
  current_eq _ := by
    rw [tokenAt, onward.toPartway.getElem?_output, Option.getD_some]

theorem mono {less : Nat} (onward : Onward words tokens output slack state)
    (enough : less ≤ slack) : Onward words tokens output less state :=
  ⟨onward.toPartway.mono enough, onward.current_eq⟩

/-- Every step comes after a state that was on the way already. -/
theorem of_step (retells : Retells words tokens output) {before after : State}
    (step : before.Step after) (onward : Onward words tokens output slack after) :
    Onward words tokens output slack before := by
  cases step with
  | skip =>
      cases ahead : before.ahead with
      | nil => rwa [skip_of_ahead_nil ahead] at onward
      | cons token rest =>
          have tokens_eq := (tokens_skip before).symm.trans onward.tokens_eq
          have behind_le := onward.behind_le
          rw [skip_of_ahead_cons ahead] at onward behind_le
          have behind_lt : before.behind.length < before.output.length := behind_le
          have partway : Partway words tokens output slack before :=
            ⟨tokens_eq, onward.sentinel_eq, onward.reports_eq, onward.output_eq,
              Nat.le_of_lt behind_lt, onward.slack_le⟩
          exact ⟨partway, fun same => absurd same (Nat.ne_of_lt behind_lt)⟩
  | accept => exact (onward.of_accept retells).mono (Nat.le_succ slack)
  | designate category =>
      have next := onward.toPartway.of_emit_skip retells rfl
      have first := next.of_emit_skip retells rfl
      refine ⟨first.mono (by omega), fun _ => ?_⟩
      rw [tokenAt, next.getElem?_output, Option.getD_some]
  | report => exact absurd onward.reports_eq (List.cons_ne_nil _ _)
  | note => exact { onward with }

end Onward

/-! ## Both runs -/

theorem remaining_emit_skip (token : Token) (state : State) :
    remaining (state.emit token).skip = remaining state - 1 := by
  rw [remaining, ahead_skip, ahead_emit, List.length_tail, remaining]

theorem length_behind_emit_skip (token : Token) (inside : 0 < remaining state) :
    (state.emit token).skip.behind.length = state.behind.length + 1 := by
  cases ahead : state.ahead with
  | nil => simp [remaining, ahead] at inside
  | cons other rest =>
      have next : (state.emit token).ahead = other :: rest := ahead
      rw [skip_of_ahead_cons next]
      rfl

namespace Rereads

theorem lookahead_first (rereads : Rereads words tokens output slack first second)
    (offset : Nat) : first.lookahead offset = tokenAt tokens (first.output.length + offset) := by
  rw [lookahead_eq_tokenAt rereads.tokens_eq rereads.sentinel_eq, rereads.behind_eq]

theorem lookahead_second (rereads : Rereads words tokens output slack first second)
    (offset : Nat) : second.lookahead offset = tokenAt output (first.output.length + offset) := by
  rw [rereads.second_eq, lookahead_retold]

/-- The runs see the same token at the cursor. -/
theorem current_eq' (rereads : Rereads words tokens output slack first second) :
    first.current = second.current := by
  rw [rereads.current_eq rereads.behind_eq]
  exact (rereads.lookahead_second 0).symm

/-- They see the same words up to the end of the output. -/
theorem value_lookahead (retells : Retells words tokens output)
    (rereads : Rereads words tokens output slack first second) {offset : Nat}
    (inside : first.output.length + offset ≤ words.length) :
    (first.lookahead offset).value = (second.lookahead offset).value := by
  rw [rereads.lookahead_first, rereads.lookahead_second]
  exact retells.value_eq inside

/-- Behind the output the second run sees nothing but the end of the input. -/
theorem le_length_of_second (retells : Retells words tokens output)
    (rereads : Rereads words tokens output slack first second) {offset : Nat}
    (inside : (second.lookahead offset).value ≠ "EOF") :
    first.output.length + offset ≤ words.length := by
  by_contra beyond
  have length_eq := retells.length_output
  rw [rereads.lookahead_second, tokenAt, List.getElem?_eq_none (by omega), Option.getD_none,
    (marks_sentinelAfter output).1] at inside
  exact inside rfl

/-- Where only one more word is left, that word is a period. -/
theorem value_current_of_last (retells : Retells words tokens output)
    (rereads : Rereads words tokens output slack first second)
    (last : first.output.length + 1 = words.length) : first.current.value = "." := by
  rw [rereads.current_eq rereads.behind_eq]
  exact retells.value_period last

theorem remaining_eq (retells : Retells words tokens output)
    (rereads : Rereads words tokens output slack first second) :
    remaining first + first.output.length = tokens.length ∧
      remaining second + first.output.length = output.length := by
  have whole := congrArg List.length rereads.tokens_eq
  rw [State.tokens, List.length_append, List.length_reverse, rereads.behind_eq] at whole
  have inside := rereads.slack_le
  have length_eq := retells.length_output
  rw [rereads.second_eq, remaining, remaining, retold, List.length_drop]
  omega

theorem accept (retells : Retells words tokens output)
    (rereads : Rereads words tokens output slack first second)
    (onward : Onward words tokens output slack (first.emit first.current).skip) :
    Rereads words tokens output slack (first.emit first.current).skip
      (second.emit second.current).skip := by
  have inside := (onward.of_accept retells).slack_le
  have left := (rereads.remaining_eq retells).1
  have enough := retells.length_le
  refine ⟨onward, ?_, ?_⟩
  · rw [length_behind_emit_skip _ (by omega), output_emit_skip, List.length_cons,
      rereads.behind_eq]
  · rw [← rereads.current_eq', rereads.second_eq]
    exact retold_emit_skip onward.toPartway.getElem?_output

/-- Where the first run accepts a word under another category, the second one finds it
under that category. -/
theorem designate (retells : Retells words tokens output)
    (rereads : Rereads words tokens output slack first second) {category : Category}
    (onward : Onward words tokens output slack (first.designate category)) :
    (first.lookahead 1).value = (second.lookahead 1).value ∧
      Rereads words tokens output slack (first.designate category)
        (second.designate category) := by
  have next := onward.toPartway.of_emit_skip retells rfl
  have inside := (next.of_emit_skip retells rfl).slack_le
  have left := (rereads.remaining_eq retells).1
  have enough := retells.length_le
  have first_eq : (second.emit second.current).skip =
      ((first.emit first.current).skip).retold output := by
    rw [← rereads.current_eq', rereads.second_eq]
    exact retold_emit_skip next.getElem?_output
  constructor
  · exact rereads.value_lookahead retells (by omega)
  refine ⟨onward, ?_, ?_⟩
  · unfold State.designate
    dsimp only
    have more : 0 < remaining (first.emit first.current).skip := by
      rw [remaining_emit_skip]
      omega
    rw [length_behind_emit_skip _ more, length_behind_emit_skip _ (by omega), output_emit_skip,
      output_emit_skip, List.length_cons, List.length_cons, rereads.behind_eq]
  · have found := onward.toPartway.getElem?_output
    have current_eq : (((first.emit first.current).skip).retold output).current =
        (first.emit first.current).skip.current.retag category := by
      rw [State.current, lookahead_retold, Nat.add_zero, tokenAt, found, Option.getD_some]
    unfold State.designate
    dsimp only
    rw [first_eq, current_eq, Token.retag_retag]
    exact retold_emit_skip found

end Rereads

/-! ## Parallel runs -/

theorem map_value_ahead (tokens_eq : state.tokens = tokens) :
    state.ahead.map Token.value = (tokens.map Token.value).drop state.behind.length := by
  rw [← tokens_eq, State.tokens, ← List.map_drop, List.drop_left' List.length_reverse]

/-- What is read in a condition ends before the last period. -/
theorem Rereads.reading (retells : Retells words tokens output)
    (rereads : Rereads words tokens output (slack + 1) first second) (afterOperand : Bool) :
    (Analysis.reading afterOperand first).1 = (Analysis.reading afterOperand second).1 := by
  obtain ⟨rest, tokens_eq⟩ := retells.tokens_eq
  obtain ⟨last, output_eq⟩ := retells.output_eq
  have inside := rereads.slack_le
  have firstWords := map_value_ahead rereads.tokens_eq
  have secondWords : second.ahead.map Token.value =
      (output.map Token.value).drop first.output.length := by
    rw [rereads.second_eq, retold, List.map_drop]
  rw [rereads.behind_eq, tokens_eq] at firstWords
  rw [output_eq] at secondWords
  simp only [Analysis.reading, ← rereads.current_eq', List.map_take, List.map_drop, firstWords,
    secondWords, List.drop_drop]
  rcases retells.period with rfl | ⟨front, rfl⟩
  · exact absurd inside (by simp)
  rw [List.length_append, List.length_singleton] at inside
  by_cases more : first.output.length + 1 ≤ front.length
  · rw [List.append_assoc, List.append_assoc, List.drop_append_of_le_length more,
      List.drop_append_of_le_length more]
    exact (Reading.ofWords_take_append_stop (by decide) _ _ _ _ _).trans
      (Reading.ofWords_take_append_stop (by decide) _ _ _ _ _).symm
  · have period := rereads.value_current_of_last retells (by simp; omega)
    rw [period, Reading.ofWords_period, Reading.ofWords_period]

/-- The cursor moves in both runs or in none. -/
theorem Rereads.moved (retells : Retells words tokens output) {third fourth : State}
    (rereads : Rereads words tokens output slack first second)
    (further : Rereads words tokens output slack third fourth) :
    remaining third < remaining first ↔ remaining fourth < remaining second := by
  have before := rereads.remaining_eq retells
  have after := further.remaining_eq retells
  have inside := rereads.slack_le
  have also := further.slack_le
  have length_eq := retells.length_output
  have enough := retells.length_le
  omega

/-- A token that is passed over is not written any more. -/
theorem Rereads.not_onward_skip (retells : Retells words tokens output)
    (rereads : Rereads words tokens output slack first second) (positive : 0 < slack) :
    ¬Onward words tokens output slack first.skip := by
  intro onward
  have left := (rereads.remaining_eq retells).1
  have enough := retells.length_le
  have behind_le := onward.behind_le
  have slack_le := onward.slack_le
  have aligned := rereads.behind_eq
  cases ahead : first.ahead with
  | nil =>
      rw [remaining, ahead, List.length_nil] at left
      rw [skip_of_ahead_nil ahead] at slack_le
      omega
  | cons token rest =>
      rw [skip_of_ahead_cons ahead] at behind_le
      have behind_lt : first.behind.length < first.output.length := behind_le
      omega

theorem parallel_rereads (retells : Retells words tokens output) {reach : Nat}
    (inside : reach ≤ slack) (far : 2 ≤ reach → reach < slack) :
    Parallel reach Eq (Onward words tokens output slack) (Rereads words tokens output slack) where
  alike := by
    rintro token _ rfl
    exact ⟨rfl, rfl, rfl⟩
  recast := by
    rintro token _ value category context rfl
    rfl
  refl _ _ := rfl
  alive step onward := onward.of_step retells step
  cursor rereads := rereads.current_eq'
  text rereads less := by
    have slack_le := rereads.slack_le
    exact rereads.value_lookahead retells (by omega)
  beyond {first second offset} rereads other less := by
    have slack_le := rereads.slack_le
    refine rereads.value_lookahead retells ?_
    by_cases last : first.output.length + 1 = words.length
    · exact absurd (rereads.value_current_of_last retells last) other
    · cases reach with
      | zero =>
          have less : offset ≤ 0 := less
          omega
      | succ reach =>
          have less : offset ≤ reach + 2 := less
          omega
  reading afterOperand rereads positive := by
    obtain ⟨less, rfl⟩ : ∃ less, slack = less + 1 := ⟨slack - 1, by omega⟩
    exact rereads.reading retells afterOperand
  moved rereads further := rereads.moved retells further
  skip rereads positive onward :=
    absurd onward (rereads.not_onward_skip retells (Nat.le_trans positive inside))
  accepted rereads onward := rereads.accept retells onward
  designate category rereads onward := rereads.designate retells onward
  report _ _ _ onward := absurd onward.reports_eq (List.cons_ne_nil _ _)
  reportedBefore _ _ onward := absurd onward.reports_eq (List.cons_ne_nil _ _)
  rejected _ _ onward := absurd onward.reports_eq (by simp [State.report])
  rejectedBefore _ _ onward := absurd onward.reports_eq (by simp [State.report])
  nest nesting deepest rereads := by
    obtain ⟨onward, behind_eq, rfl⟩ := rereads
    exact ⟨{ onward with }, behind_eq, rfl⟩

/-- Where nothing beyond the cursor is looked at, the output may end right behind it. -/
theorem parallel_here (retells : Retells words tokens output) :
    Parallel 0 Eq (Onward words tokens output 0) (Rereads words tokens output 0) :=
  parallel_rereads retells (Nat.le_refl 0) (by decide)

/-- Whatever is beside a run, it was on the way before every step if it is afterwards. -/
theorem parallel_onward (retells : Retells words tokens output) :
    Parallel 2 Eq (Onward words tokens output slack) (fun _ _ => False) where
  alike := by
    rintro token _ rfl
    exact ⟨rfl, rfl, rfl⟩
  recast := by
    rintro token _ value category context rfl
    rfl
  refl _ _ := rfl
  alive step onward := onward.of_step retells step
  cursor := False.elim
  text := False.elim
  beyond := False.elim
  reading _ := False.elim
  moved := False.elim
  skip := False.elim
  accepted := False.elim
  designate _ := False.elim
  report _ := False.elim
  reportedBefore _ := False.elim
  rejected _ := False.elim
  rejectedBefore _ := False.elim
  nest _ _ := id

/-! ## Looking further -/

/-- Before something is written there was more left to write. -/
theorem Onward.of_writes {count : Nat} {before after : State}
    (onward : Onward words tokens output slack before)
    (ends : Onward words tokens output slack after) (writes : Writes count before after) :
    Onward words tokens output (slack + count) before :=
  { onward with
    slack_le := by
      have count_le := writes.count_le ends.reports_eq
      have slack_le := ends.slack_le
      omega }

theorem Rereads.of_onward {more : Nat} (rereads : Rereads words tokens output slack first second)
    (onward : Onward words tokens output more first) :
    Rereads words tokens output more first second :=
  ⟨onward, rereads.behind_eq, rereads.second_eq⟩

/-- Whether the run that reads an output does in an analysis what the run that writes it
does, if there are still so many words to write after the analysis. -/
abbrev Repeats {α : Type} (words : List String) (tokens output : List Token) (slack : Nat)
    (analysis : Analysis α) : Prop :=
  Tracks (Onward words tokens output slack) (Rereads words tokens output slack) Eq analysis
    analysis

variable {α β : Type}

/-- What looks further ahead comes before what writes as many words. -/
theorem repeats_bind {analysis : Analysis α} {next : α → Analysis β}
    (first : Repeats words tokens output slack analysis)
    (rest : ∀ value, Repeats words tokens output 0 (next value))
    (writes : ∀ value, Obeys (Writes slack) (next value)) :
    Repeats words tokens output 0 (analysis >>= next) := by
  have between {state : State}
      (alive : Onward words tokens output 0 ((analysis >>= next) state).2) :
      Onward words tokens output slack (analysis state).2 := by
    have middle := (rest _).alive alive
    simpa using middle.of_writes alive (writes _ _)
  constructor
  · intro state alive
    exact (first.alive (between alive)).mono (Nat.zero_le slack)
  · intro state partner side alive
    have further := between alive
    obtain ⟨results, states⟩ := first.tracks (side.of_onward (first.alive further)) further
    rw [run_bind, run_bind, ← results]
    exact (rest _).tracks (states.of_onward (further.mono (Nat.zero_le slack))) alive

/-- A choice by a word further ahead, up to which everything is accepted if it is there. -/
theorem repeats_choice (retells : Retells words tokens output) {test : Test} (offset : Nat)
    (looks : test.looks offset offset = true)
    (inside : ∀ {state : State}, test.holds state = true →
      (state.lookahead offset).value ≠ "EOF")
    {yes no : Analysis α}
    (accepts : ∀ {state : State}, Onward words tokens output 0 (yes state).2 →
      Onward words tokens output offset state)
    (first : Repeats words tokens output 0 yes) (second : Repeats words tokens output 0 no) :
    Repeats words tokens output 0 (do if ← ask test then yes else no) := by
  have run (state : State) : (do if ← ask test then yes else no : Analysis α) state =
      if test.holds state then yes state else no state :=
    run_ite _ yes no state
  constructor
  · intro state alive
    rw [run] at alive
    split at alive
    · exact first.alive alive
    · exact second.alive alive
  · intro state partner side alive
    have holds_eq (near : state.output.length + offset ≤ words.length) :
        test.holds state = test.holds partner := by
      have texts (place : Nat) (less : place ≤ offset) :
          (state.lookahead place).value = (partner.lookahead place).value :=
        side.value_lookahead retells (Nat.le_trans (Nat.add_le_add_left less _) near)
      have same := side.current_eq'
      exact Test.holds_eq_of_looks (congrArg Token.category same) (congrArg Token.context same)
        (fun _ => texts) looks texts
    rw [run] at alive ⊢
    rw [run]
    by_cases held : test.holds state
    · rw [if_pos held] at alive ⊢
      have near := (accepts alive).slack_le
      rw [if_pos (holds_eq near ▸ held)]
      exact first.tracks side alive
    · rw [if_neg held] at alive ⊢
      have unheld : ¬test.holds partner := by
        intro found
        have near := side.le_length_of_second retells (inside found)
        exact held (holds_eq near ▸ found)
      rw [if_neg unheld]
      exact second.tracks side alive

end State

end CobolCheck
