import CobolCheck.Proofs.Division.Units

/-!
# Complete units

An accepted source text that is not empty is a row of one or more source units, each
of which has all of its parts: its headers, the item that a function returns, and the
END marker of every unit that is a function or that another unit follows. The END
marker of a unit is the only one in it, so it cannot be that of another unit.
-/

namespace CobolCheck

open Analysis Shape

/-- Tokens among which neither an ID paragraph nor an END marker begins. -/
structure Shape.Uninterrupted (read : List Token) : Prop where
  body : Body read
  unended : Unended read

theorem Source.value_ne_end {source : String} {token : Token} (member : token ∈ tokenize source)
    (free : ¬Landmark.unitEnd.Marks token) : token.value ≠ "END" := by
  have absent : token.value ∉ ["END"] :=
    value_notMem_of_free (by decide) (by decide) member (List.forall_mem_singleton.mpr free)
  simpa using absent

namespace State

variable {source : String} {before after : State}

/-! ## Bodies without END markers -/

theorem admits_unended (source : String) : Admits source [.unitEnd] Unended where
  nonempty := by simp
  free inside free := .of_forall fun token member =>
    Source.value_ne_end (inside token member) (free _ List.mem_cons_self token member)
  append := .append

/-- What a statement reads first is the word that begins it. -/
theorem spells_statement_begun (limit : Nat) :
    Obeys (Spells source fun read => ∀ word ∈ read.head?, word.value ∈ Word.statementWords)
      (statement (nestedStatements limit)) := by
  intro state
  have still := (closed_still .endOfInput).obeys_all_nestedStatements limit
  have free := closed_free source .endOfInput
  change Spells source _ state
    ((Form.ofKeyword state.current.value).run (nestedStatements limit) state).2
  rcases Form.exists_run_ofKeyword state.current.value with other | ⟨listed, rest, permitted, run⟩
  · have obeyed := (closed_still .endOfInput).obeys_run_of_permitted still _
      (Form.permitted_ofKeyword state.current.value) state
    rw [other] at obeyed ⊢
    exact spells_of_reported obeyed (Form.reports_unsupported_ne_nil still _ state)
  · have inside : state.current.value ≠ "EOF" := by
      intro ended
      rw [ended] at listed
      exact absurd listed (by decide)
    have further := free.obeys_run_of_permitted (free.obeys_all_nestedStatements limit) rest
      permitted (expect state.current.value state).2
    rw [run, run_bind]
    refine (spells_expect inside state).append further ?_
    rintro _ others ⟨token, rfl, value_eq⟩ - word found
    cases found
    rwa [value_eq]

theorem spells_statement_unended (limit : Nat) :
    Obeys (Spells source Unended) (statement (nestedStatements limit)) := by
  intro state
  have unbroken : Obeys (Spells source Unbroken) (statement (nestedStatements limit)) :=
    spells_statement_unbroken (spells_nestedStatements_unbroken limit)
  refine ((unbroken state).and (spells_statement_begun limit state)).mono ?_
  rintro read ⟨unbroken, begun⟩
  refine .of_forall_ne unbroken.inside fun word found ends => ?_
  have listed := begun word found
  rw [ends] at listed
  exact absurd listed (by decide)

theorem spells_procedureBody_unended (limit : Nat) :
    Obeys (Spells source Unended) (procedureBody limit) := by
  have admits := admits_unended source
  apply admits.chained.obeys_procedureBody
  · apply spells_sentences_of admits.chained (spells_statement_unended limit)
    intro state
    refine (spells_optional (by decide) state).mono ?_
    rintro read (rfl | ⟨token, rfl, value_eq⟩)
    · exact .of_forall (by simp)
    · exact .of_forall (by simp [value_eq])
  · apply admits.obeys
    intro landmark listed
    rw [List.mem_singleton] at listed
    subst listed
    exact (closed_free source .unitEnd).obeys_paragraphHeader (by decide) (by decide)

theorem spells_procedureBody_uninterrupted (limit : Nat) :
    Obeys (Spells source Uninterrupted) (procedureBody limit) :=
  fun state => ((spells_procedureBody limit state).and
    (spells_procedureBody_unended limit state)).mono fun _ ⟨body, unended⟩ => ⟨body, unended⟩

/-! ## Units in a row -/

/-- Tokens of complete units in a row, of which those of a kind have END markers. -/
def CompleteUnits (closing : List UnitText → List UnitText) (read : List Token) : Prop :=
  ∃ units, Row (UnitText.ShapesAround Uninterrupted) units read ∧
    (∀ unit ∈ units, unit.FunctionComplete) ∧ ∀ unit ∈ closing units, unit.closed = true

/-- A unit after units with END markers. -/
theorem CompleteUnits.concat {front rest : List Token} {unit : UnitText}
    (units : CompleteUnits id front) (last : unit.ShapesAround Uninterrupted rest)
    (complete : unit.FunctionComplete) : CompleteUnits List.dropLast (front ++ rest) := by
  obtain ⟨units, row, functions, closed⟩ := units
  refine ⟨units ++ [unit], row.append (.single last), ?_, ?_⟩
  · rw [List.forall_mem_append, List.forall_mem_singleton]
    exact ⟨functions, complete⟩
  · rwa [List.dropLast_concat]

theorem chained_completeUnits (source : String) :
    Chained (Spells source (CompleteUnits id)) := by
  apply chained_spells
  · exact ⟨[], .nil, by simp, by simp⟩
  · rintro front rest ⟨units, row, functions, closed⟩ ⟨others, further, more, ends⟩
    exact ⟨units ++ others, row.append further, List.forall_mem_append.mpr ⟨functions, more⟩,
      List.forall_mem_append.mpr ⟨closed, ends⟩⟩

/-- One unit, if there is one, and whether another one begins behind it. -/
def unitRound (limit : Nat) : Analysis (Option Unit) := do
  if ← ask .eof then return none
  else
    sourceUnit limit
    if ← ask .unitStart then return some () else return none

theorem run_unitRound_of_eof {limit : Nat} {state : State} (ended : Test.eof.holds state = true) :
    unitRound limit state = (none, state) := by
  rw [unitRound, run_bind, run_ask, run_ite, if_pos ended]
  rfl

theorem run_unitRound_of_not_eof {limit : Nat} {state : State}
    (unended : ¬Test.eof.holds state = true) :
    unitRound limit state =
      if Test.unitStart.holds (sourceUnit limit state).2 then
        (some (), (sourceUnit limit state).2)
      else (none, (sourceUnit limit state).2) := by
  rw [unitRound, run_bind, run_ask, run_ite, if_neg unended, run_bind, run_bind, run_ask, run_ite]
  rfl

/-- A unit behind which another one begins has an END marker. -/
theorem spells_unitRound_of_some {limit : Nat} {next : Unit}
    (round : unitRound limit before = (some next, after)) :
    Spells source (CompleteUnits id) before after := by
  by_cases ended : Test.eof.holds before = true
  · rw [run_unitRound_of_eof ended] at round
    cases round
  have read : Told source _ before (sourceUnit limit before).2 :=
    told_sourceUnit (spells_procedureBody_uninterrupted limit) before
  rw [run_unitRound_of_not_eof ended] at round
  generalize (sourceUnit limit before).2 = middle at read round
  split at round
  · next begins =>
    cases round
    refine Spells.mono read ?_
    rintro read ⟨unit, around, -, -, complete, closed | none⟩
    · exact ⟨[unit], .single around, by simpa using complete, by simpa using closed⟩
    · rw [none] at begins
      exact absurd begins Bool.false_ne_true
  · cases round

/-- All units but the last one have END markers. -/
theorem spells_sourceUnits_complete (limit : Nat) :
    Obeys (Spells source (CompleteUnits List.dropLast)) (sourceUnits limit) := by
  intro state
  obtain ⟨_, before, reached, ends⟩ := (chained_completeUnits source).exists_before_last_round
    (fun round => spells_unitRound_of_some round) () state
  change Spells source _ state (loop (fun _ => unitRound limit) () state).2
  rw [← ends]
  by_cases ended : Test.eof.holds before = true
  · rw [run_unitRound_of_eof ended]
    refine reached.mono ?_
    rintro read ⟨units, row, functions, closed⟩
    exact ⟨units, row, functions, fun unit member => closed unit (List.dropLast_subset _ member)⟩
  · have last : Told source _ before (sourceUnit limit before).2 :=
      told_sourceUnit (spells_procedureBody_uninterrupted limit) before
    have joined :
        Spells source (CompleteUnits List.dropLast) state (sourceUnit limit before).2 := by
      refine reached.append last ?_
      rintro front rest units ⟨unit, around, -, -, complete, -⟩
      exact units.concat around complete
    rw [run_unitRound_of_not_eof ended]
    split <;> exact joined

end State

/-- An accepted source text with a token before the end of the input is a row of one or
more source units: `[IDENTIFICATION DIVISION.] (PROGRAM-ID | FUNCTION-ID). name.`, the
environment and data divisions that it has, and `PROCEDURE DIVISION [RETURNING name].
body [END kind name.]`. Each function returns an item and has an END marker, and so has
every unit but the last one. Neither an ID paragraph nor an END marker begins in the body
of a unit, so the END marker of a unit, which is of its kind and under its name, is the
only one that it has. -/
theorem exists_complete_units_of_accepted {file source : String} {output : List Token}
    (accepted : (checkSource file source).result = .ok output)
    (nonempty : 1 < (Source.tokenize source).length) :
    ∃ units read line column, Source.tokenize source = read ++ [Token.endOfInput line column] ∧
      units ≠ [] ∧ Row (UnitText.ShapesAround Uninterrupted) units read ∧
      (∀ unit ∈ units, unit.FunctionComplete) ∧ ∀ unit ∈ units.dropLast, unit.closed = true := by
  obtain ⟨read, line, column, tokens_eq, units, row, functions, closed⟩ :=
    exists_read_of_spells accepted rfl (State.spells_sourceUnits_complete maxNesting _)
  refine ⟨units, read, line, column, tokens_eq, ?_, row, functions, closed⟩
  rintro rfl
  cases row
  rw [tokens_eq] at nonempty
  exact absurd nonempty (by simp)

/-- A function and a program after it that has no END marker. -/
def functionProgram : String :=
  "FUNCTION-ID. F. DATA DIVISION. LINKAGE SECTION. 01 X PIC 9(4). " ++
  "PROCEDURE DIVISION RETURNING X. ADD 1 TO X. END FUNCTION F. " ++
  "IDENTIFICATION DIVISION. PROGRAM-ID. P. PROCEDURE DIVISION. DISPLAY X. STOP RUN."

theorem complete_units_functionProgram :
    1 < (Source.tokenize functionProgram).length ∧
      ∃ units read line column,
        Source.tokenize functionProgram = read ++ [Token.endOfInput line column] ∧
        units ≠ [] ∧ Row (UnitText.ShapesAround Uninterrupted) units read ∧
        (∀ unit ∈ units, unit.FunctionComplete) ∧
        ∀ unit ∈ units.dropLast, unit.closed = true := by
  have accepted : (checkSource "a.cob" functionProgram).result =
      .ok (Source.tokenize functionProgram) := by
    rw [Outcome.result_eq_ok_iff]
    decide +kernel
  have nonempty : 1 < (Source.tokenize functionProgram).length := by
    decide +kernel
  exact ⟨nonempty, exists_complete_units_of_accepted accepted nonempty⟩

end CobolCheck
