import CobolCheck.Division.SourceText
import CobolCheck.Source.Tokenize

/-!
# Checking programs

The analysis of a token sequence against the grammar, from a symbol table that
it extends. A check succeeds if nothing is reported, and its result is then the
canonical token sequence.
-/

namespace CobolCheck

/-- What an analysis leaves behind. -/
structure Outcome where
  /-- The canonical tokens, of which nothing is missing if nothing was reported. -/
  output : List Token
  /-- What was reported, in order. -/
  diagnostics : List Diagnostic
  /-- The symbol table with the items that were declared. -/
  table : SymbolTable

/-- An analysis failed: something was reported. -/
structure Failure where
  count : Nat
  deriving DecidableEq

namespace Failure

/-- The part of the compilation that failed. -/
def phase : String :=
  "parsing"

/-- The message of a failure. -/
def message (failure : Failure) : String :=
  "Compilation failed during " ++ phase ++ ", with " ++ failure.count.repr ++
    " error(s) reported."

/-- The code of a failure. -/
def code : String :=
  "cobalt::analyzer::parsing_failed"

end Failure

/-- The canonical tokens, unless something was reported. -/
def Outcome.result (outcome : Outcome) : Except Failure (List Token) :=
  if outcome.diagnostics.isEmpty then .ok outcome.output
  else .error ⟨outcome.diagnostics.length⟩

/-- What a final state says of the file that was read. -/
def State.outcome (file : String) (state : State) : Outcome where
  output := state.output.reverse
  diagnostics := state.reports.reverse.map (Report.inFile file)
  table := state.table

/-- Analyzes the tokens of a file, in which statements may be nested down to a limit. -/
def analyzeWithin (limit : Nat) (file : String) (tokens : List Token) (table : SymbolTable) :
    Outcome :=
  (Analysis.sourceText limit (.initial tokens table)).2.outcome file

/-- Analyzes the tokens of a file. The items it declares are added to the table. -/
def analyze (file : String) (tokens : List Token) (table : SymbolTable) : Outcome :=
  analyzeWithin Analysis.maxNesting file tokens table

/-- Analyzes the tokens of a file on its own. -/
def checkTokens (file : String) (tokens : List Token) : Outcome :=
  analyze file tokens .empty

/-- Analyzes a source text on its own. -/
def checkSource (file source : String) : Outcome :=
  checkTokens file (Source.tokenize source)

/-! ## Several files -/

/-- Analyzes files one after the other. Each goes on with the symbol table that
the file before it left behind. -/
def analyzeAll (table : SymbolTable) : List (String × List Token) → List Outcome
  | [] => []
  | (file, tokens) :: rest =>
      let outcome := analyze file tokens table
      outcome :: analyzeAll outcome.table rest

/-- An analysis succeeds exactly if it reports nothing. -/
theorem Outcome.result_eq_ok_iff (outcome : Outcome) (tokens : List Token) :
    outcome.result = .ok tokens ↔ outcome.diagnostics = [] ∧ outcome.output = tokens := by
  unfold Outcome.result
  split <;> simp_all

/-- Every diagnostic of an analysis is about its file. -/
theorem file_of_mem_diagnostics {limit : Nat} {file : String} {tokens : List Token}
    {table : SymbolTable} {diagnostic : Diagnostic}
    (member : diagnostic ∈ (analyzeWithin limit file tokens table).diagnostics) :
    diagnostic.file = file := by
  obtain ⟨report, _, rfl⟩ := List.mem_map.mp member
  rfl

theorem length_analyzeAll (table : SymbolTable) (files : List (String × List Token)) :
    (analyzeAll table files).length = files.length := by
  induction files generalizing table with
  | nil => rfl
  | cons file rest ih => simp [analyzeAll, ih]

end CobolCheck
