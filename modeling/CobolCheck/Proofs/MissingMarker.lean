import CobolCheck.Proofs.Division.Approaching
import CobolCheck.Proofs.Recovery
import CobolCheck.Proofs.Statement.Unclosed

/-!
# Missing END markers

In an accepted source text a sentence ends with a statement that its END marker closes. If the
marker is left out, then that is reported once, at the period, where the sentence still ends.
The statement is the same but for the marker, and all later sentences and source units are
analyzed with the same effect.
-/

namespace CobolCheck

open Analysis State

/-! ## The words of the statement -/

namespace Landmark

variable {keyword : String}

theorem known_beginning : ∀ keyword ∈ closedStatements, (beginning keyword).Known := by
  decide

theorem known_endOf : ∀ keyword ∈ closedStatements, (endOf keyword).Known := by
  decide

theorem known_particle : ∀ word ∈ phraseWords, (particle word).Known := by
  decide

/-- No part of a procedure division looks beyond a word that begins a statement. -/
theorem screens_beginning (closed : keyword ∈ closedStatements) : (beginning keyword).Screens where
  toBlinds := blinds_beginning closed
  eof := rfl
  unitStart := by
    revert keyword
    decide
  paragraph := by
    revert keyword
    decide
  unitSection := by
    revert keyword
    decide
  unitEnd kind := by
    revert keyword
    cases kind <;> decide

theorem beginning_notMem_relationWords : ∀ keyword ∈ closedStatements, keyword ∉ relationWords := by
  decide

end Landmark

/-- Without a report an analysis that comes to a statement has accepted all tokens before its
end. -/
theorem length_output_statement {tokens behind : List Token} {table : SymbolTable} {place : State}
    (comes : ComesToStatement maxNesting (.initial tokens table) place)
    (stands : (statement (nestedStatements maxNesting) place).2.ahead = behind)
    (quiet : (statement (nestedStatements maxNesting) place).2.Quiet) :
    (statement (nestedStatements maxNesting) place).2.output.length + behind.length =
      tokens.length := by
  have closed := units_faithful tokens
  have faithful := (closed.trans (comes.obeys closed)
    (closed.obeys_all_statement maxNesting place)).kept (faithful_initial tokens table)
  rw [(faithful.mirrors quiet).length_eq, ← stands, ← faithful.tokens_eq, State.tokens,
    List.length_append, List.length_reverse]

/-- A statement that its END marker closes, at the end of a sentence. -/
structure MarkedStatement where
  keyword : Token
  /-- What comes between the keyword and the END marker. -/
  body : List Token
  marker : Token
  period : Token
  closed : keyword.value ∈ closedStatements
  closes : marker.value = "END-" ++ keyword.value
  ends : period.value = "."
  /-- Only an IF statement has an END marker without a conditional phrase. -/
  phrased : keyword.value = "IF" ∨ ∃ token ∈ body, token.value ∈ phraseWords

namespace MarkedStatement

/-- The tokens of the statement, and the period. -/
def tokens (marked : MarkedStatement) : List Token :=
  marked.keyword :: (marked.body ++ [marked.marker, marked.period])

/-- The tokens of the statement without its END marker, and the period. -/
def unmarked (marked : MarkedStatement) : List Token :=
  marked.keyword :: (marked.body ++ [marked.period])

variable {marked : MarkedStatement} {source file : String} {front rest : List Token}
  {table : SymbolTable}

theorem tokens_append (marked : MarkedStatement) (rest : List Token) :
    marked.tokens ++ rest =
      marked.keyword :: (marked.body ++ marked.marker :: marked.period :: rest) := by
  simp [tokens]

theorem unmarked_append (marked : MarkedStatement) (rest : List Token) :
    marked.unmarked ++ rest = marked.keyword :: (marked.body ++ marked.period :: rest) := by
  simp [unmarked]

/-! ## Both texts -/

/-- Both texts end at the same place. -/
theorem sentinelAfter_eq (marked : MarkedStatement) (front rest : List Token) :
    sentinelAfter (front ++ (marked.unmarked ++ rest)) =
      sentinelAfter (front ++ (marked.tokens ++ rest)) := by
  simp [sentinelAfter, unmarked, tokens, List.getLast?_append, List.getLast?_cons]

/-- Both texts begin alike, up to the statement. -/
theorem parted_initial (marked : MarkedStatement) (front rest : List Token) (table : SymbolTable) :
    Parted marked.keyword marked.keyword (marked.body ++ marked.marker :: marked.period :: rest)
      (marked.body ++ marked.period :: rest) (.initial (front ++ (marked.tokens ++ rest)) table)
      (.initial (front ++ (marked.unmarked ++ rest)) table) :=
  ⟨front, congrArg (front ++ ·) (marked.tokens_append rest),
    congrArg (front ++ ·) (marked.unmarked_append rest), marked.sentinelAfter_eq front rest,
    rfl, rfl, rfl, rfl, rfl⟩

/-- Where both runs are at the statement, their texts part at its END marker. -/
theorem forks_of_parted {place partner : State} (here : place.ahead = marked.tokens ++ rest)
    (parted : Parted marked.keyword marked.keyword
      (marked.body ++ marked.marker :: marked.period :: rest)
      (marked.body ++ marked.period :: rest) place partner) :
    Forks (marked.keyword :: marked.body) (marked.marker :: marked.period :: rest)
      (marked.period :: rest) place partner := by
  obtain ⟨common, forks⟩ := parted
  have ahead := forks.first_ahead
  rw [here, tokens_append] at ahead
  obtain rfl : common = [] := List.self_eq_append_left.mp ahead
  exact { forks with }

/-- What comes of the statement: its END marker is accepted in one text only. -/
def loss (marked : MarkedStatement) (output : List Token) : Loss :=
  ⟨⟨marked.period, .expectedLiteral marked.marker.value⟩,
    marked.period :: marked.marker :: output, marked.period :: output⟩

/-- If nothing is reported of the text with the END marker, then the run over the other one has
the marker to report, and is at the end of its text where the first run is. -/
theorem resumes (read : Source.tokenize source = front ++ (marked.tokens ++ rest))
    (reads : ReadsStatement (front ++ (marked.tokens ++ rest)) table (marked.tokens ++ rest)
      (marked.period :: rest))
    (quiet : (sourceUnits maxNesting (.initial (front ++ (marked.tokens ++ rest)) table)).2.Quiet) :
    ∃ output, output.length = (front ++ marked.keyword :: marked.body).length ∧
      Resumes (marked.loss output) rest.length
        (sourceUnits maxNesting (.initial (front ++ (marked.tokens ++ rest)) table)).2
        (sourceUnits maxNesting (.initial (front ++ (marked.unmarked ++ rest)) table)).2 := by
  obtain ⟨place, comes, here, stands⟩ := reads
  have member {token : Token} (inside : token ∈ marked.tokens) : token ∈ Source.tokenize source := by
    rw [read]
    exact List.mem_append_right _ (List.mem_append_left _ inside)
  have begins : (Landmark.beginning marked.keyword.value).Marks marked.keyword :=
    Source.marks_of_known (member (by simp [tokens])) rfl (Landmark.known_beginning _ marked.closed)
  have marks : (Landmark.endOf marked.keyword.value).Marks marked.marker :=
    Source.marks_of_known (member (by simp [tokens])) marked.closes
      (Landmark.known_endOf _ marked.closed)
  have ends : Landmark.period.Marks marked.period :=
    Source.marks_period (member (by simp [tokens])) marked.ends
  have phrased : marked.keyword.value = "IF" ∨
      ∃ token ∈ marked.body, ∃ word ∈ phraseWords, (Landmark.particle word).Marks token :=
    marked.phrased.imp id fun ⟨token, inside, known⟩ => ⟨token, inside, token.value, known,
      Source.marks_of_known (member (by simp [tokens, inside])) rfl
        (Landmark.known_particle _ known)⟩
  rw [comes.run_sourceUnits (ended_initial _ _)] at quiet ⊢
  have ended : (sentencePart maxNesting place).2.Quiet :=
    reports_eq_nil (further_afterSentence maxNesting _).reports quiet
  have behind : (statement (nestedStatements maxNesting) place).2.Quiet :=
    reports_eq_nil (further_sentenceEnd _).reports ended
  have before : place.Quiet :=
    reports_eq_nil (further_statement (further_nestedStatements maxNesting) place).reports behind
  -- both runs come to the statement, and pass its END marker or report it
  obtain ⟨partner, also, parted⟩ := comes.parted begins (Landmark.screens_beginning marked.closed)
    (Landmark.beginning_notMem_relationWords _ marked.closed)
    ⟨before, here ▸ (tokens_append marked rest).symm ▸ List.suffix_rfl⟩ (marked.parted_initial front rest table)
  have misses := misses_statement marked.closed marks ends phrased (forks_of_parted here parted)
    behind stands
  have resumed : Resumes (marked.loss _) rest.length (sentencePart maxNesting place).2
      (sentencePart maxNesting partner).2 := misses.resumes_sentenceEnd ends behind
  have agreed := ((coupledUnits_resumes _ _).agrees (tracks_afterSentence · maxNesting)).agrees
    resumed (Nat.zero_le _)
  rw [also.run_sourceUnits (ended_initial _ _)]
  refine ⟨_, ?_, agreed.2⟩
  have accepted := length_output_statement comes stands behind
  rw [misses.output, tokens_append] at accepted
  simp only [List.length_append, List.length_cons] at accepted ⊢
  omega

/-- Without its END marker a statement is reported once, at the period. Everything that comes
later is analyzed as it is with the marker: the symbol table is the same, and the canonical
tokens lack the marker only. -/
theorem analyze_of_missing_marker {output : List Token}
    (read : Source.tokenize source = front ++ (marked.tokens ++ rest))
    (accepted : (analyze file (front ++ (marked.tokens ++ rest)) table).result = .ok output)
    (reads : ReadsStatement (front ++ (marked.tokens ++ rest)) table (marked.tokens ++ rest)
      (marked.period :: rest)) :
    let sound := analyze file (front ++ (marked.tokens ++ rest)) table
    let broken := analyze file (front ++ (marked.unmarked ++ rest)) table
    broken.result = .error ⟨1⟩ ∧
      broken.diagnostics =
        [Report.inFile file ⟨marked.period, .expectedLiteral marked.marker.value⟩] ∧
      broken.table = sound.table ∧
      ∃ earlier later, earlier.length = (front ++ marked.keyword :: marked.body).length ∧
        sound.output = earlier ++ marked.marker :: marked.period :: later ∧
        broken.output = earlier ++ marked.period :: later := by
  intro sound broken
  generalize units : (sourceUnits maxNesting
    (.initial (front ++ (marked.tokens ++ rest)) table)).2 = final
  obtain ⟨quiet, ended, output_eq, table_eq⟩ := sourceUnits_of_accepted accepted units
  obtain ⟨earlier, length_eq, resumes⟩ := marked.resumes read reads (units ▸ quiet)
  rw [units] at resumes
  obtain ⟨reported, same_table, later, same_output, broken_output⟩ :=
    @analyze_of_resumes file _ _ _ _ _ resumes quiet ended
  have sound_output := ((Outcome.result_eq_ok_iff sound output).mp accepted).2
  refine ⟨?_, reported, same_table.trans table_eq.symm, earlier.reverse,
    later.reverse ++ [final.current], ?_, ?_, ?_⟩
  · rw [Outcome.result, reported]
    rfl
  · rw [List.length_reverse, length_eq]
  · rw [sound_output, output_eq, same_output]
    simp [loss]
  · rw [broken_output]
    simp [loss]

end MarkedStatement

/-- Two programs, of which the first one has a statement with a conditional phrase in its second
sentence. -/
def sizedProgram : String :=
  "PROGRAM-ID. A. PROCEDURE DIVISION. STOP RUN. COMPUTE X = 1 SIZE ERROR STOP RUN END-COMPUTE. " ++
    "END PROGRAM A. PROGRAM-ID. B. PROCEDURE DIVISION. STOP RUN."

/-- The statement with the conditional phrase. -/
def sizedStatement : MarkedStatement where
  keyword := ⟨"COMPUTE", .reserved, .statement, 1, 46⟩
  body := [⟨"X", .identifier, .plain, 1, 54⟩, ⟨"=", .symbol, .plain, 1, 56⟩,
    ⟨"1", .numeric, .plain, 1, 58⟩, ⟨"SIZE", .reserved, .plain, 1, 60⟩,
    ⟨"ERROR", .reserved, .plain, 1, 65⟩, ⟨"STOP", .reserved, .statement, 1, 71⟩,
    ⟨"RUN", .reserved, .plain, 1, 76⟩]
  marker := ⟨"END-COMPUTE", .reserved, .plain, 1, 80⟩
  period := ⟨".", .symbol, .plain, 1, 91⟩
  closed := by decide
  closes := by decide
  ends := rfl
  phrased := .inr (by decide)

/-- Without its END marker the statement is reported at its period. The second program is analyzed
all the same. -/
theorem analyze_sizedProgram_missing_marker :
    let tokens := Source.tokenize sizedProgram
    let front := tokens.take 10
    let rest := tokens.drop 20
    let sound := analyze "a.cob" (front ++ (sizedStatement.tokens ++ rest)) .empty
    let broken := analyze "a.cob" (front ++ (sizedStatement.unmarked ++ rest)) .empty
    sound.result = .ok tokens ∧ broken.result = .error ⟨1⟩ ∧
      broken.diagnostics =
        [⟨"a.cob", ⟨".", .symbol, .plain, 1, 91⟩, .expectedLiteral "END-COMPUTE"⟩] ∧
      broken.table = sound.table ∧
      ∃ earlier later,
        earlier.length = (front ++ sizedStatement.keyword :: sizedStatement.body).length ∧
          sound.output = earlier ++ sizedStatement.marker :: sizedStatement.period :: later ∧
          broken.output = earlier ++ sizedStatement.period :: later := by
  intro tokens front rest sound
  let opened := (unitOpening (.initial tokens .empty)).2
  let sentence := under .statement (sentencePart maxNesting) () opened
  have facts : tokens = front ++ (sizedStatement.tokens ++ rest) ∧
      ((analyze "a.cob" tokens .empty).diagnostics = [] ∧
        (analyze "a.cob" tokens .empty).output = tokens) ∧
      Test.eof.holds (.initial tokens .empty) = false ∧
      (sentence.1 = some () ∧ remaining sentence.2 < remaining opened) ∧
      Test.statement.holds sentence.2 = true ∧
      sentence.2.ahead = sizedStatement.tokens ++ rest ∧
      (statement (nestedStatements maxNesting) sentence.2).2.ahead =
        sizedStatement.period :: rest := by
    decide +kernel
  obtain ⟨read, accepted, inside, ⟨asks, moved⟩, begins, here, stands⟩ := facts
  have same : sound = analyze "a.cob" tokens .empty :=
    congrArg (analyze "a.cob" · .empty) read.symm
  have passes : sound.result = .ok tokens := by
    rw [same]
    exact (Outcome.result_eq_ok_iff _ _).mpr accepted
  have reads : ReadsStatement (front ++ (sizedStatement.tokens ++ rest)) .empty
      (sizedStatement.tokens ++ rest) (sizedStatement.period :: rest) := by
    rw [← read]
    exact ⟨sentence.2, .intro .refl inside .refl (.single (.of_asks asks moved)) begins, here,
      stands⟩
  exact ⟨passes, MarkedStatement.analyze_of_missing_marker read passes reads⟩

end CobolCheck
