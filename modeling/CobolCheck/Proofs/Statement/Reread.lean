import CobolCheck.Proofs.Analysis.Reread
import CobolCheck.Proofs.Statement.Parallel
import CobolCheck.Proofs.Statement.Reach

/-!
# Reading sentences again

A sentence may be the last one of an output, but what is looked at while its statements
are read comes before the end of the output: behind a statement there is either another
one, or the period that closes the sentence. So the two runs see the same as long as
a statement is read, and behind a sentence they are where they are to be.
-/

namespace CobolCheck

open Analysis State

/-! ## What sentences write -/

/-- A statement writes its keyword. -/
theorem writes_statement (limit : Nat) :
    Obeys (Writes 1) (statement (nestedStatements limit)) := by
  intro state
  have still := (closed_still .endOfInput).obeys_all_nestedStatements limit
  change Writes 1 state ((Form.ofKeyword state.current.value).run (nestedStatements limit) state).2
  rcases Form.exists_run_ofKeyword state.current.value with other | ⟨listed, rest, permitted, run⟩
  · have obeyed := (closed_still .endOfInput).obeys_run_of_permitted still _
      (Form.permitted_ofKeyword state.current.value) state
    rw [other] at obeyed ⊢
    exact .of_reported obeyed (Form.reports_unsupported_ne_nil still _ state)
  · have inside : state.current.value ≠ "EOF" := by
      intro ended
      rw [ended] at listed
      exact absurd listed (by decide)
    have further : Obeys (Writes 0) (rest.run (nestedStatements limit)) :=
      closed_writes.obeys_run_of_permitted (closed_writes.obeys_all_nestedStatements limit) rest
        permitted
    rw [run]
    exact writes_bind (writes_expect inside) (fun _ => further) state

/-- What comes after a statement of a sentence: its period, if the sentence ends there. -/
def sentenceEnd : Analysis Unit := do
  unless ← ask .statement do
    unless ← optional "." do
      reportHere (.expectedLiteral ".")
      resumeAfterSentence

theorem sentencePart_eq (limit : Nat) :
    sentencePart limit = (statement (nestedStatements limit) >>= fun _ => sentenceEnd) :=
  rfl

/-- A sentence without a period is reported. -/
theorem reports_resumed_ne_nil (state : State) :
    ((reportHere (.expectedLiteral ".") >>= fun _ => resumeAfterSentence) state).2.reports ≠
      [] := by
  have reported : (state.report state.current (.expectedLiteral ".")).reports ≠ [] :=
    List.cons_ne_nil _ _
  have closed := closed_still .endOfInput
  exact closed.reports_ne_nil (closed.obeysFrom_resumeAfterSentence _ reported) reported

/-- After a statement comes another one, or a period is accepted. -/
theorem sentenceEnd_cases (state : State) :
    Test.statement.holds state = true ∧ (sentenceEnd state).2 = state ∨
      (Test.is ".").holds state = true ∧
        (sentenceEnd state).2 = (state.emit state.current).skip ∨
      (sentenceEnd state).2.reports ≠ [] ∧ state.Still (sentenceEnd state).2 := by
  rw [sentenceEnd, run_bind, run_ask, run_ite]
  split
  · next begins => exact .inl ⟨begins, rfl⟩
  rw [run_bind, Analysis.optional, run_bind, run_ask, run_ite]
  split
  · next ends => exact .inr (.inl ⟨ends, rfl⟩)
  · have closed := closed_still .endOfInput
    exact .inr (.inr ⟨reports_resumed_ne_nil state,
      closed.obeys_reportHere_bind _ closed.obeysFrom_resumeAfterSentence state⟩)

theorem writes_sentenceEnd : Obeys (Writes 0) sentenceEnd := by
  intro state
  rcases sentenceEnd_cases state with ⟨-, same⟩ | ⟨ends, same⟩ | ⟨reported, still⟩
  · rw [same]
    exact .refl state
  · rw [same]
    have inside := not_marks_of_holds_is (by decide) ends
    exact (writes_emit_skip _ _ inside).mono (Nat.zero_le 1)
  · exact .of_reported still reported

theorem writes_sentencePart (limit : Nat) : Obeys (Writes 1) (sentencePart limit) :=
  writes_bind (writes_statement limit) fun _ => writes_sentenceEnd

/-- Sentences are read until no statement follows. -/
theorem rounds_sentences (limit : Nat) (state : State)
    (ended : state.Ended)
    (unreported : (sentences limit state).2.reports = []) :
    Rounds .statement (sentencePart limit) state (sentences limit state).2 :=
  rounds_of_unreported (fun state _ => writes_sentencePart limit state) state ended unreported

/-- Between a statement and the end of its sentences something is written. -/
theorem writes_of_rounds {limit : Nat} {state final : State}
    (rounds : Rounds .statement (sentencePart limit) (sentenceEnd state).2 final) :
    Writes 1 state final := by
  have rest (before : State) : Writes 0 before (sentences limit before).2 :=
    closed_writes.obeys_all_sentences limit before
  have all := rest (sentenceEnd state).2
  rw [sentences, rounds.run_eq] at all
  rcases sentenceEnd_cases state with ⟨begins, same⟩ | ⟨ends, same⟩ | ⟨reported, still⟩
  · rw [same] at rounds
    cases rounds with
    | done ends => exact absurd begins (Bool.eq_false_iff.mp ends)
    | next _ _ further =>
        have later := rest (sentencePart limit state).2
        rw [sentences, further.run_eq] at later
        exact (writes_sentencePart limit state).trans later
  · rw [same] at all
    exact (writes_emit_skip _ _ (not_marks_of_holds_is (by decide) ends)).trans all
  · exact (Writes.of_reported still reported).trans all

namespace State

variable {words : List String} {tokens output : List Token}

/-! ## Both runs -/

theorem repeats_sentenceEnd (retells : Retells words tokens output) :
    Repeats words tokens output 0 sentenceEnd := by
  have parallel := parallel_here retells
  have missing : Repeats words tokens output 0
      (reportHere (.expectedLiteral ".") >>= fun _ => resumeAfterSentence) := by
    have dead (state : State) : ¬Onward words tokens output 0
        ((reportHere (.expectedLiteral ".") >>= fun _ => resumeAfterSentence) state).2 :=
      fun onward => reports_resumed_ne_nil state onward.reports_eq
    exact ⟨fun onward => absurd onward (dead _), fun _ onward => absurd onward (dead _)⟩
  apply parallel.tracks_choice rfl (tracks_same ())
  exact tracks_then (parallel.tracks_optional ".") fun ended =>
    tracks_ite _ (tracks_same ()) missing

/-- The second run reads the same sentences as the first. -/
theorem exists_rounds_of_rereads (retells : Retells words tokens output) {limit : Nat}
    {first second final : State} (rounds : Rounds .statement (sentencePart limit) first final)
    (side : Rereads words tokens output 0 first second)
    (onward : Onward words tokens output 0 final) :
    ∃ last, Rounds .statement (sentencePart limit) second last ∧
      Rereads words tokens output 0 final last := by
  have near := parallel_here retells
  have far : Parallel 1 Eq (Onward words tokens output 1) (Rereads words tokens output 1) :=
    parallel_rereads retells (Nat.le_refl 1) (by decide)
  have statements : Repeats words tokens output 1 (statement (nestedStatements limit)) :=
    far.tracks_statement (far.tracks_nestedStatements limit)
  induction rounds generalizing second with
  | done ends =>
      have same : Test.statement.holds _ = _ := near.holds_eq rfl side
      exact ⟨second, .done (same.symm.trans ends), side⟩
  | @next state final begins moved rest ih =>
      have after : Onward words tokens output 0 (sentencePart limit state).2 := by
        apply ((parallel_onward retells).tracks_sentences limit).alive
        rwa [sentences, rest.run_eq]
      -- the statement ends before a word that is still to be written
      have between : Onward words tokens output 1 (statement (nestedStatements limit) state).2 :=
        ((repeats_sentenceEnd retells).alive after).of_writes onward (writes_of_rounds rest)
      have begun := side.of_onward (statements.alive between)
      have middle := (statements.tracks begun between).2
      have further := middle.of_onward (between.mono (Nat.zero_le 1))
      have kept := ((repeats_sentenceEnd retells).tracks further after).2
      obtain ⟨last, again, ends⟩ := ih kept onward
      have same : Test.statement.holds _ = _ := near.holds_eq rfl side
      have also := (near.moved side kept).mp moved
      exact ⟨last, .next (same.symm.trans begins) also again, ends⟩

theorem repeats_sentences (retells : Retells words tokens output) (limit : Nat) :
    Repeats words tokens output 0 (sentences limit) where
  alive := ((parallel_onward retells).tracks_sentences limit).alive
  tracks {state partner} side onward := by
    have ended : state.Ended := by
      rw [Ended, side.sentinel_eq]
      exact marks_sentinelAfter tokens
    have rounds := rounds_sentences limit state ended onward.reports_eq
    obtain ⟨last, again, further⟩ := exists_rounds_of_rereads retells rounds side onward
    rw [sentences, again.run_eq, ← sentences]
    exact ⟨rfl, further⟩

end State

end CobolCheck
