import CobolCheck.Check
import CobolCheck.Proofs.Division.Reach
import CobolCheck.Proofs.Source.Lexed

/-!
# The canonical output

The output of an accepted source is the source: every token up to the end of
the input, once and in order. Only the category of a word may differ, where the
analysis found that it names a device. The invariant is `State.Faithful`: as
long as nothing has been reported, the output mirrors the tokens behind the
cursor.
-/

namespace CobolCheck

/-! ## Mirrors -/

/-- Whether an output mirrors the tokens that were read. Both lists have their
latest element first. The end of the input is not among them. -/
inductive Mirrors : List Token → List Token → Prop
  | nil : Mirrors [] []
  | same {token : Token} {behind output : List Token} (inside : ¬ Landmark.endOfInput.Marks token)
      (earlier : Mirrors behind output) : Mirrors (token :: behind) (token :: output)
  | device {token last : Token} {behind output : List Token}
      (inside : ¬ Landmark.endOfInput.Marks token)
      (named : token.value ∈ deviceWords last.value)
      (earlier : Mirrors (last :: behind) output) :
      Mirrors (token :: last :: behind) (token.retag .device :: output)

/-- Whether a token of the output stands for the token at the same place of the
input: it is that token, or names the device that the word before it asks for. -/
def StandsFor (tokens : List Token) (index : Nat) (found : Token) : Prop :=
  tokens[index]? = some found ∨
    ∃ last token, 0 < index ∧ tokens[index - 1]? = some last ∧ tokens[index]? = some token ∧
      token.value ∈ deviceWords last.value ∧ found = token.retag .device

namespace Mirrors

variable {behind output : List Token}

theorem length_eq (mirrors : Mirrors behind output) : output.length = behind.length := by
  induction mirrors with
  | nil => rfl
  | same _ _ ih => rw [List.length_cons, List.length_cons, ih]
  | device _ _ _ ih => rw [List.length_cons, List.length_cons, ih]

/-- Both lists are made of the same words. -/
theorem map_value_eq (mirrors : Mirrors behind output) :
    behind.map Token.value = output.map Token.value := by
  induction mirrors with
  | nil => rfl
  | same _ _ ih => rw [List.map_cons, List.map_cons, ih]
  | device _ _ _ ih =>
      rw [List.map_cons, ih]
      rfl

/-- The latest tokens of both lists are the same word. -/
theorem exists_of_head? {last : Token} (mirrors : Mirrors behind output)
    (latest : output.head? = some last) :
    ∃ token rest, behind = token :: rest ∧ token.value = last.value := by
  cases mirrors with
  | nil => cases latest
  | same => exact ⟨_, _, rfl, congrArg Token.value (Option.some.inj latest)⟩
  | device =>
      obtain rfl := Option.some.inj latest
      exact ⟨_, _, rfl, rfl⟩

theorem not_marks (mirrors : Mirrors behind output) :
    ∀ token ∈ behind, ¬ Landmark.endOfInput.Marks token := by
  induction mirrors with
  | nil => simp
  | same inside _ ih => exact List.forall_mem_cons.mpr ⟨inside, ih⟩
  | device inside _ _ ih => exact List.forall_mem_cons.mpr ⟨inside, ih⟩

/-- A place among tokens of which another one follows is one of theirs or its own. -/
theorem place_of_concat {earlier : List Token} {token found : Token} {index : Nat}
    (place : (earlier ++ [token])[index]? = some found) :
    earlier[index]? = some found ∨ index = earlier.length ∧ found = token := by
  by_cases before : index < earlier.length
  · rw [List.getElem?_append_left before] at place
    exact .inl place
  · have bound := (List.getElem?_eq_some_iff.mp place).1
    rw [List.length_append, List.length_singleton] at bound
    obtain rfl : index = earlier.length := by omega
    rw [List.getElem?_concat_length] at place
    exact .inr ⟨rfl, (Option.some.inj place).symm⟩

/-- Every token of the output stands for the token at its place, whatever follows. -/
theorem standsFor (mirrors : Mirrors behind output) (rest : List Token) {index : Nat}
    {found : Token} (place : output.reverse[index]? = some found) :
    StandsFor (behind.reverse ++ rest) index found := by
  induction mirrors generalizing rest with
  | nil => simp at place
  | @same token behind output _ earlier ih =>
      rw [List.reverse_cons, List.append_assoc]
      rw [List.reverse_cons] at place
      rcases place_of_concat place with before | ⟨rfl, rfl⟩
      · exact ih _ before
      · left
        rw [List.length_reverse, earlier.length_eq, ← List.length_reverse]
        simp
  | @device token last behind output _ named earlier ih =>
      rw [List.reverse_cons, List.append_assoc]
      rw [List.reverse_cons] at place
      rcases place_of_concat place with before | ⟨rfl, rfl⟩
      · exact ih _ before
      · right
        rw [List.length_reverse, earlier.length_eq]
        refine ⟨last, token, Nat.succ_pos _, ?_, ?_, named, rfl⟩
        · simp
        · simp

end Mirrors

namespace State

/-- Whether nothing of the tokens was lost: as long as nothing has been
reported, the output mirrors those behind the cursor. -/
structure Faithful (tokens : List Token) (state : State) : Prop where
  tokens_eq : state.tokens = tokens
  sentinel_eq : state.sentinel = sentinelAfter tokens
  mirrors : state.reports = [] → Mirrors state.behind state.output

theorem faithful_initial (tokens : List Token) (table : SymbolTable) :
    (initial tokens table).Faithful tokens :=
  ⟨rfl, rfl, fun _ => .nil⟩

/-- A token that is not the end of the input is one of the tokens ahead. -/
theorem Faithful.ahead_eq {tokens : List Token} {state : State} (faithful : state.Faithful tokens)
    (inside : ¬ Landmark.endOfInput.Marks state.current) :
    ∃ rest, state.ahead = state.current :: rest := by
  cases next : state.ahead with
  | nil =>
      rw [current_of_ahead_nil next, faithful.sentinel_eq] at inside
      exact absurd (marks_sentinelAfter tokens) inside
  | cons token rest => exact ⟨rest, by rw [current_of_ahead_cons next]⟩

/-- Once something has been reported, moving on is always faithful. -/
theorem Faithful.of_reports {tokens : List Token} {before after : State}
    (faithful : before.Faithful tokens) (still : before.Still after)
    (reported : after.reports ≠ []) : after.Faithful tokens where
  tokens_eq := still.tokens_eq.trans faithful.tokens_eq
  sentinel_eq := still.sentinel_eq.trans faithful.sentinel_eq
  mirrors unreported := absurd unreported reported

/-- Every move is faithful. -/
theorem Faithful.move {tokens : List Token} {before after : State}
    (move : before.Move .endOfInput after) (faithful : before.Faithful tokens) :
    after.Faithful tokens := by
  have still := move.still
  cases move with
  | accept inside =>
      obtain ⟨rest, next⟩ := faithful.ahead_eq inside
      refine ⟨still.tokens_eq.trans faithful.tokens_eq,
        still.sentinel_eq.trans faithful.sentinel_eq, fun unreported => ?_⟩
      have same : (before.emit before.current).ahead = before.current :: rest := next
      rw [skip_of_ahead_cons same] at unreported ⊢
      exact .same inside (faithful.mirrors unreported)
  | acceptDevice last inside accepted named =>
      obtain ⟨rest, next⟩ := faithful.ahead_eq inside
      refine ⟨still.tokens_eq.trans faithful.tokens_eq,
        still.sentinel_eq.trans faithful.sentinel_eq, fun unreported => ?_⟩
      have device : (before.emit (before.current.retag .device)).ahead = before.current :: rest :=
        next
      rw [skip_of_ahead_cons device] at unreported ⊢
      have mirrors := faithful.mirrors unreported
      obtain ⟨token, earlier, behind_eq, value_eq⟩ := mirrors.exists_of_head? accepted
      rw [← value_eq] at named
      rw [behind_eq] at mirrors
      dsimp only [emit]
      rw [behind_eq]
      exact .device inside named mirrors
  | recover reported => exact faithful.of_reports still (by simpa [emit] using reported)
  | report token cause => exact faithful.of_reports still (List.cons_ne_nil _ _)
  | skip reported => exact faithful.of_reports still (by simpa using reported)
  | nest => exact ⟨faithful.1, faithful.2, faithful.3⟩

theorem closed_faithful (tokens : List Token) : Closed .endOfInput (Keeps (Faithful tokens)) :=
  closed_keeps Faithful.move

theorem units_faithful (tokens : List Token) :
    ClosedUnits .endOfInput (Keeps (Faithful tokens)) :=
  (closed_faithful tokens).units
    (fun _ _ => ⟨List.suffix_rfl, fun faithful => ⟨faithful.1, faithful.2, faithful.3⟩⟩)
    (fun _ _ => ⟨List.suffix_rfl, fun faithful => ⟨faithful.1, faithful.2, faithful.3⟩⟩)

end State

/-! ## Accepted sources -/

open Analysis

/-- At the end of the input nothing is left over. -/
theorem leftover_of_eof {state : State} (ended : state.current.category = .eof) :
    (leftover state).2 = state := by
  rw [leftover, run_bind, run_ask, run_ite, if_pos ((Test.holds_eof_iff state).mpr ended)]
  rfl

/-- Without a report nothing is left over, and the cursor is at the end of the input. -/
theorem leftover_of_unreported {state : State} (unreported : (leftover state).2.reports = []) :
    (leftover state).2 = state ∧ state.current.category = .eof := by
  rw [leftover, run_bind, run_ask, run_ite] at unreported ⊢
  split at unreported
  · next ended =>
    rw [if_pos ended]
    exact ⟨rfl, (Test.holds_eof_iff state).mp ended⟩
  · have closed := State.closed_faithful state.tokens
    have reached := closed.obeysFrom_whilst_skip (.not .eof)
      (state.report state.current (.general .leftoverTokens)) (List.cons_ne_nil _ _)
    exact absurd unreported (closed.reports_ne_nil reached (List.cons_ne_nil _ _))

/-- The end of the input is accepted after all source units and what is left of them. -/
theorem run_sourceText (limit : Nat) (state : State) :
    sourceText limit state =
      ((), (leftover (sourceUnits limit state).2).2.emit
        (leftover (sourceUnits limit state).2).2.current) :=
  rfl

/-- An accepted source is one whose source units are read without a report up to
an end of input. -/
theorem sourceUnits_of_accepted {file : String} {tokens : List Token} {table : SymbolTable}
    {output : List Token} {state : State}
    (accepted : (analyze file tokens table).result = .ok output)
    (units : (sourceUnits maxNesting (.initial tokens table)).2 = state) :
    state.reports = [] ∧ state.current.category = .eof ∧
      output = state.output.reverse ++ [state.current] ∧
      (analyze file tokens table).table = state.table := by
  rw [Outcome.result_eq_ok_iff] at accepted
  obtain ⟨unreported, rfl⟩ := accepted
  rw [analyze, analyzeWithin, run_sourceText, units] at unreported
  simp only [State.outcome, List.map_eq_nil_iff, List.reverse_eq_nil_iff] at unreported
  obtain ⟨still, ended⟩ := leftover_of_unreported unreported
  rw [analyze, analyzeWithin, run_sourceText, units, still]
  refine ⟨?_, ended, List.reverse_cons, rfl⟩
  rw [← still]
  exact unreported

/-- A source whose units are read without a report up to an end of input is accepted. -/
theorem accepted_of_sourceUnits (file : String) {tokens : List Token} {table : SymbolTable}
    {state : State} (units : (sourceUnits maxNesting (.initial tokens table)).2 = state)
    (unreported : state.reports = []) (ended : state.current.category = .eof) :
    (analyze file tokens table).result = .ok (state.output.reverse ++ [state.current]) ∧
      (analyze file tokens table).table = state.table := by
  rw [Outcome.result_eq_ok_iff, analyze, analyzeWithin, run_sourceText, units,
    leftover_of_eof ended]
  refine ⟨⟨?_, List.reverse_cons⟩, rfl⟩
  have reports_eq : (state.emit state.current).reports = [] := unreported
  rw [State.outcome, reports_eq]
  rfl

/-- What is known of an accepted source when nothing is left of it. -/
theorem exists_faithful_of_accepted {file : String} {tokens : List Token} {table : SymbolTable}
    {output : List Token} (accepted : (analyze file tokens table).result = .ok output) :
    ∃ state : State, state.Faithful tokens ∧ state.reports = [] ∧
      state.current.category = .eof ∧ output = state.output.reverse ++ [state.current] := by
  have stays := (State.units_faithful tokens).obeys_sourceUnits (by decide) maxNesting
    (.initial tokens table)
  obtain ⟨unreported, ended, output_eq, _⟩ := sourceUnits_of_accepted accepted rfl
  exact ⟨_, stays.kept (State.faithful_initial tokens table), unreported, ended, output_eq⟩

/-- Of a source text only the end of the input is left when the cursor is at an
end of input. -/
theorem Mirrors.length_ahead_of_tokenize {source : String} {state : State}
    (mirrors : Mirrors state.behind state.output)
    (tokens_eq : Source.tokenize source = state.behind.reverse ++ state.ahead)
    (ended : state.current.category = .eof) : state.ahead.length = 1 := by
  obtain ⟨front, line, column, source_eq, lexed⟩ := Source.exists_lexed_append source
  rw [source_eq, List.append_eq_append_iff] at tokens_eq
  rcases tokens_eq with ⟨more, behind_eq, ahead_eq⟩ | ⟨more, front_eq, ahead_eq⟩
  · cases more with
    | nil => rw [← List.nil_append state.ahead, ← ahead_eq, List.length_singleton]
    | cons token more =>
        -- the end of the input would lie behind the cursor
        simp only [List.cons_append, List.cons.injEq] at ahead_eq
        have behind : token ∈ state.behind := by
          rw [← List.mem_reverse, behind_eq]
          exact List.mem_append_right _ List.mem_cons_self
        rw [← ahead_eq.1] at behind
        exact absurd (Landmark.endOfInput_marks line column) (mirrors.not_marks _ behind)
  · cases more with
    | nil => rw [ahead_eq, List.nil_append, List.length_singleton]
    | cons token more =>
        rw [State.current_of_ahead_cons ahead_eq] at ended
        have inside : token ∈ front := by
          rw [front_eq]
          exact List.mem_append_right _ List.mem_cons_self
        exact absurd ended (lexed token inside).category_ne_eof

/-- The output of an accepted source is its tokens up to an end of input. A
source text is accepted as a whole. -/
theorem exists_standsFor_of_accepted {file : String} {tokens : List Token} {table : SymbolTable}
    {output : List Token} (accepted : (analyze file tokens table).result = .ok output) :
    ∃ count ≤ tokens.length, output.length = count + 1 ∧
      (∀ index < count, ∃ found, output[index]? = some found ∧ StandsFor tokens index found) ∧
      (∃ last, output[count]? = some last ∧ last.category = .eof ∧
        last = (tokens[count]?).getD (State.sentinelAfter tokens)) ∧
      ∀ source, tokens = Source.tokenize source → count + 1 = tokens.length := by
  obtain ⟨state, faithful, unreported, ended, rfl⟩ := exists_faithful_of_accepted accepted
  have mirrors := faithful.mirrors unreported
  have tokens_eq : tokens = state.behind.reverse ++ state.ahead := faithful.tokens_eq.symm
  have length_eq : state.output.reverse.length = state.behind.length := by
    rw [List.length_reverse, mirrors.length_eq]
  have last_eq : state.current = (tokens[state.behind.length]?).getD (State.sentinelAfter tokens) := by
    rw [tokens_eq, List.getElem?_append_right (by simp), List.length_reverse, Nat.sub_self,
      ← tokens_eq, ← faithful.sentinel_eq]
    rfl
  refine ⟨state.behind.length, ?_, ?_, ?_, ⟨state.current, ?_, ended, last_eq⟩, ?_⟩
  · rw [tokens_eq]
    simp
  · rw [List.length_append, length_eq, List.length_singleton]
  · intro index less
    rw [← length_eq] at less
    refine ⟨state.output.reverse[index], ?_, ?_⟩
    · rw [List.getElem?_append_left less, List.getElem?_eq_getElem less]
    · rw [tokens_eq]
      exact mirrors.standsFor state.ahead (List.getElem?_eq_getElem less)
  · rw [← length_eq]
    exact List.getElem?_concat_length
  · rintro source rfl
    rw [← mirrors.length_ahead_of_tokenize tokens_eq ended, tokens_eq]
    simp

/-- A program that displays an item on a device. -/
def displayProgram : String :=
  "PROGRAM-ID. A. PROCEDURE DIVISION. DISPLAY X UPON STANDARD-OUTPUT."

/-- The program is accepted as a whole, and one word of it is found to name a device. -/
theorem standsFor_displayProgram :
    ∃ (count : Nat) (output : List Token),
      (Source.tokenize displayProgram).length = count + 1 ∧
      output[10]? = ((Source.tokenize displayProgram)[10]?).map (·.retag .device) ∧
      ∀ index < count, ∃ found, output[index]? = some found ∧
        StandsFor (Source.tokenize displayProgram) index found := by
  have accepted : (analyze "a.cob" (Source.tokenize displayProgram) .empty).result =
      .ok ((Source.tokenize displayProgram).modify 10 (·.retag .device)) := by
    rw [Outcome.result_eq_ok_iff]
    decide +kernel
  obtain ⟨count, _, _, standing, _, whole⟩ := exists_standsFor_of_accepted accepted
  exact ⟨count, _, (whole _ rfl).symm, by decide +kernel, standing⟩

end CobolCheck
