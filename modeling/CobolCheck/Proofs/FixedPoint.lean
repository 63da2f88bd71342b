import CobolCheck.Proofs.Division.Stopped
import CobolCheck.Proofs.Output

/-!
# The output is a fixed point

The output of an accepted source is accepted as it is: its own output is the same, and
so is the symbol table. The run that reads the output does at every step what the run
that has written it did.
-/

namespace CobolCheck

open Analysis State

variable {tokens : List Token} {state : State}

/-- The output retells the words of the tokens that were read. -/
theorem retells_output (faithful : state.Faithful tokens) (unreported : state.reports = [])
    (ended : state.output = [] ∨ state.Stopped) :
    Retells (state.output.reverse.map Token.value) tokens
      (state.output.reverse ++ [state.current]) := by
  have mirrors := faithful.mirrors unreported
  constructor
  · refine ⟨state.ahead.map Token.value, ?_⟩
    rw [← faithful.tokens_eq, State.tokens, List.map_append, List.map_reverse, List.map_reverse,
      mirrors.map_value_eq]
  · refine ⟨state.current.value, ?_⟩
    rw [List.map_append, List.map_singleton]
  · have here : state.current = tokenAt tokens state.behind.length :=
      lookahead_eq_tokenAt faithful.tokens_eq faithful.sentinel_eq 0
    rw [List.length_map, List.length_reverse, mirrors.length_eq, ← here, tokenAt,
      ← mirrors.length_eq, ← List.length_reverse, List.getElem?_concat_length, Option.getD_some]
  · rcases ended with nothing | ⟨last, found, period⟩
    · left
      rw [nothing]
      rfl
    · right
      obtain ⟨rest, output_eq⟩ := List.head?_eq_some_iff.mp found
      refine ⟨rest.reverse.map Token.value, ?_⟩
      rw [output_eq, List.reverse_cons, List.map_append, List.map_singleton, period]

/-- At the end of the input the whole output was written. -/
theorem onward_output (faithful : state.Faithful tokens) (unreported : state.reports = []) :
    Onward (state.output.reverse.map Token.value) tokens
      (state.output.reverse ++ [state.current]) 0 state where
  tokens_eq := faithful.tokens_eq
  sentinel_eq := faithful.sentinel_eq
  reports_eq := unreported
  output_eq := by rw [← List.length_reverse, List.take_left]
  behind_le := Nat.le_of_eq (faithful.mirrors unreported).length_eq.symm
  slack_le := by rw [List.length_map, List.length_reverse]; exact Nat.le_refl _
  current_eq _ := by
    rw [tokenAt, ← List.length_reverse, List.getElem?_concat_length, Option.getD_some]

/-- The output of an accepted source is accepted from the same table. It is its own output,
and leads to the same table. -/
theorem analyze_output {file : String} {table : SymbolTable} {output : List Token}
    (accepted : (analyze file tokens table).result = .ok output) :
    (analyze file output table).result = .ok output ∧
      (analyze file output table).table = (analyze file tokens table).table := by
  obtain ⟨unreported, ended, output_eq, table_eq⟩ := sourceUnits_of_accepted accepted rfl
  have stopped := stopped_sourceUnits tokens table unreported
  have faithful := ((units_faithful tokens).obeys_sourceUnits (by decide) maxNesting _).kept
    (faithful_initial tokens table)
  have rereads := rereads_sourceUnits (retells_output faithful unreported stopped) rfl
    (onward_output faithful unreported)
  rw [← output_eq] at rereads
  generalize (sourceUnits maxNesting (.initial tokens table)).2 = state at *
  have second_eq := rereads.second_eq
  have current_eq : (state.retold output).current = state.current := by
    rw [← second_eq]
    exact rereads.current_eq'.symm
  have ended_again : (state.retold output).current.category = .eof := by rwa [current_eq]
  obtain ⟨result, same⟩ := accepted_of_sourceUnits file second_eq unreported ended_again
  rw [current_eq] at result
  exact ⟨result.trans (congrArg Except.ok output_eq.symm), same.trans table_eq.symm⟩

/-- The check of a source that passes gives tokens with which it passes again: they are
their own canonical tokens, and the table is the same. -/
theorem checkTokens_output (file : String) (tokens output : List Token)
    (accepted : (checkTokens file tokens).result = .ok output) :
    (checkTokens file output).result = .ok output ∧
      (checkTokens file output).table = (checkTokens file tokens).table :=
  analyze_output accepted

/-- A program that displays its own item on a device. -/
def displayItemProgram : String :=
  "PROGRAM-ID. A. DATA DIVISION. WORKING-STORAGE SECTION. 77 X PIC 9(3). " ++
    "PROCEDURE DIVISION. DISPLAY X UPON STANDARD-OUTPUT."

/-- The canonical tokens of the program are not the tokens that were read: a word is found
to name a device, and what comes after the first end of the input is left out. -/
theorem checkTokens_displayItemProgram :
    ∃ output : List Token,
      output = (Source.tokenize displayItemProgram).modify 24 (·.retag .device) ∧
      output ≠ Source.tokenize displayItemProgram ∧
      (checkTokens "a.cob" (Source.tokenize displayItemProgram ++
        Source.tokenize displayItemProgram)).result = .ok output ∧
      (checkTokens "a.cob" output).result = .ok output ∧
      (checkTokens "a.cob" output).table = (checkTokens "a.cob"
        (Source.tokenize displayItemProgram ++ Source.tokenize displayItemProgram)).table := by
  have accepted : (checkTokens "a.cob" (Source.tokenize displayItemProgram ++
      Source.tokenize displayItemProgram)).result =
      .ok ((Source.tokenize displayItemProgram).modify 24 (·.retag .device)) := by
    rw [Outcome.result_eq_ok_iff]
    decide +kernel
  have again := checkTokens_output "a.cob" _ _ accepted
  exact ⟨_, rfl, by decide +kernel, accepted, again⟩

end CobolCheck
