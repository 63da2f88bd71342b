import CobolCheck.Proofs.Division.Procedure

/-!
# Accepted programs

Every program of the grammar is accepted as it is: nothing is reported of it, and
its tokens are the output.
-/

namespace CobolCheck

open Grammar Analysis

/-- A program whose procedure division is generated by the grammar, with statements
nested down to the greatest depth, is accepted. -/
theorem analyze_of_body {file name : String} {tokens : List Token} {body : List String}
    {table : SymbolTable} {line column : Nat} (named : IsName name) (grammar : Body 256 body)
    (values : tokens.map Token.value = programWords name [] body)
    (spelled : ∀ token ∈ tokens, token.Spelled) :
    (analyze file (tokens ++ [.endOfInput line column]) table).result =
      .ok (tokens ++ [.endOfInput line column]) := by
  have reads : Reads ({}, table) (sourceUnits maxNesting) (tokens.map Token.value) []
      fun _ _ => True := by
    rw [values]
    exact reads_sourceUnits named (.inl ⟨rfl, trivial⟩) grammar
  exact (analyzeWithin_of_reads line column spelled reads).1

/-- A program with a conditional phrase inside an IF statement. -/
def branchingProgram : String :=
  "PROGRAM-ID. A. PROCEDURE DIVISION. IF NOT X = 9 ADD 1 TO X SIZE ERROR STOP RUN END-ADD END-IF. " ++
    "END PROGRAM A."

/-- The words of its procedure division. -/
def branchingBody : List String :=
  ["IF", "NOT", "X", "=", "9", "ADD", "1", "TO", "X", "SIZE", "ERROR", "STOP", "RUN", "END-ADD",
   "END-IF", "."]

theorem body_branchingBody : Body 256 branchingBody := by
  have x : IsName "X" := by decide +kernel
  have nine : IsOperand operandCategories "9" := by decide +kernel
  have one : IsOperand [.identifier, .numeric] "1" := by decide +kernel
  have test : Condition ["NOT", "X", "=", "9"] :=
    .negation (@Condition.comparison "X" "9" [] [] ["="] (x.mono (by decide)) (by decide)
      (by decide) (by decide) nine)
  have addition : Head .sizeError "END-ADD" ["ADD", "1", "TO", "X"] :=
    @Head.addTo ["1"] _ ⟨by decide, List.forall_mem_singleton.mpr one⟩
      (.direct ⟨by decide, List.forall_mem_singleton.mpr x⟩)
  have stop : Nested 255 .sequence ["STOP", "RUN"] := .cons (.simple .stop) .nil
  have overflow : Nested 255 (.phrases .sizeError {}) ["SIZE", "ERROR", "STOP", "RUN"] :=
    @Nested.phrase _ _ _ .positive ["SIZE", "ERROR"] _ [] rfl (by decide) stop .finished
  have branch : Nested 256 .sequence
      ["ADD", "1", "TO", "X", "SIZE", "ERROR", "STOP", "RUN", "END-ADD"] :=
    .cons (.conditional addition overflow) .nil
  have sentence : Sentence 256 branchingBody :=
    .last (@Nested.choice _ _ [] _ test (by decide) branch)
  exact .sentences (.cons sentence .nil)

theorem analyze_branchingProgram :
    (analyze "a.cob" (Source.tokenize branchingProgram) .empty).result =
      .ok (Source.tokenize branchingProgram) := by
  have named : IsName "A" := by decide +kernel
  obtain ⟨line, column, tokens_eq⟩ := Source.exists_tokenize_eq branchingProgram
  have checked : (Source.tokenize branchingProgram).dropLast.map Token.value =
        programWords "A" [] branchingBody ∧
      ∀ token ∈ (Source.tokenize branchingProgram).dropLast, token.Spelled := by
    decide +kernel
  rw [tokens_eq]
  exact analyze_of_body named body_branchingBody checked.1 checked.2

end CobolCheck
