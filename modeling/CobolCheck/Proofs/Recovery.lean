import CobolCheck.Proofs.Division.Forked
import CobolCheck.Proofs.Output

/-!
# Recovery from a broken sentence

In an accepted source text an END-IF that is followed by a period ends a sentence of a
procedure division: in no other place of an accepted text do the two come together. If
unexpected tokens are put between the two, then the first of them is reported, and nothing
else. All later sentences and source units are still analyzed, with the same effect.
-/

namespace CobolCheck

open Analysis State

/-! ## The tokens of the sentence -/

/-- Whether the word lists give a word the category and context of a landmark. -/
structure Landmark.Known (landmark : Landmark) : Prop where
  begun : landmark.word.toList.head?.any Char.isAlpha = true
  inside : landmark.word ≠ "EOF"
  role : Word.classify landmark.word = (landmark.category, landmark.context)

instance (landmark : Landmark) : Decidable landmark.Known :=
  decidable_of_iff (landmark.word.toList.head?.any Char.isAlpha = true ∧
      landmark.word ≠ "EOF" ∧ Word.classify landmark.word = (landmark.category, landmark.context))
    ⟨fun ⟨begun, inside, role⟩ => ⟨begun, inside, role⟩,
      fun ⟨begun, inside, role⟩ => ⟨begun, inside, role⟩⟩

namespace Source

variable {source : String} {token : Token}

/-- A word on one of the word lists marks what it stands for wherever it is. -/
theorem marks_of_known {landmark : Landmark} (member : token ∈ tokenize source)
    (value_eq : token.value = landmark.word) (known : landmark.Known) : landmark.Marks token := by
  have begun : ∃ first ∈ token.value.toList.head?, first.isAlpha = true := by
    rw [value_eq]
    exact (Option.any_eq_true _ _).mp known.begun
  have role := classified member begun (value_eq ▸ known.inside)
  rw [value_eq, known.role] at role
  obtain ⟨category_eq, context_eq⟩ := Prod.mk.inj role
  exact ⟨value_eq, category_eq, context_eq⟩

/-- The word END-IF is always the END marker of an IF statement. -/
theorem marks_endIf (member : token ∈ tokenize source) (closes : token.value = "END-IF") :
    Landmark.endIf.Marks token :=
  marks_of_known member closes (by decide)

theorem marks_period (member : token ∈ tokenize source) (ends : token.value = ".") :
    Landmark.period.Marks token :=
  have ⟨category_eq, context_eq⟩ := symbol_of_period member ends
  ⟨ends, category_eq, context_eq⟩

end Source

/-- Both texts end at the same place. -/
theorem BrokenSentence.sentinelAfter_eq (broken : BrokenSentence) (front : List Token) :
    sentinelAfter (front ++ broken.stop :: broken.graft) =
      sentinelAfter (front ++ broken.stop :: broken.sound) := by
  simp [sentinelAfter, graft, sound, List.getLast?_append, List.getLast?_cons]

/-- Both texts begin alike. -/
theorem BrokenSentence.astride_initial (broken : BrokenSentence) (front : List Token)
    (table : SymbolTable) :
    Astride broken (front ++ broken.stop :: broken.sound)
      (.initial (front ++ broken.stop :: broken.sound) table)
      (.initial (front ++ broken.stop :: broken.graft) table) := by
  refine .before ⟨front, ?_, ?_, broken.sentinelAfter_eq front, rfl, rfl, rfl, rfl, rfl⟩ rfl
  · rw [List.append_assoc]
    rfl
  · rw [List.append_assoc]
    rfl

/-! ## The end of the text -/

/-- A run that has come to the end of the source text has left the broken sentence behind. -/
theorem State.Astride.resumes {source : String} {broken : BrokenSentence} {front : List Token}
    {first second : State}
    (read : Source.tokenize source = front ++ broken.stop :: broken.sound)
    (astride : Astride broken (front ++ broken.stop :: broken.sound) first second)
    (ended : first.current.category = .eof) :
    Resumes broken.loss broken.rest.length first second := by
  cases astride with
  | behind resumes => exact resumes
  | before approaches tokens_eq =>
      obtain ⟨common, forks⟩ := approaches
      obtain ⟨token, others, split⟩ : ∃ token others, common ++ [broken.stop] = token :: others :=
        List.exists_cons_of_ne_nil (by simp)
      have ahead := forks.first_ahead
      rw [split, List.cons_append] at ahead
      rw [← tokens_eq, tokens, ahead, BrokenSentence.sound, ← List.cons_append,
        ← List.append_assoc] at read
      have lexed := Source.lexed_of_append read token
        (List.mem_append_right _ List.mem_cons_self)
      rw [current_of_ahead_cons ahead] at ended
      exact absurd ended lexed.category_ne_eof

/-- Where all source units are read up to the end, nothing but the broken sentence is
reported of the other text. -/
theorem analyze_of_resumes {file : String} {tokens : List Token} {table : SymbolTable}
    {loss : Loss} {bound : Nat} {first : State}
    (resumes : Resumes loss bound first (sourceUnits maxNesting (.initial tokens table)).2)
    (quiet : first.Quiet) (ended : first.current.category = .eof) :
    let broken := analyze file tokens table
    broken.diagnostics = [loss.report.inFile file] ∧ broken.table = first.table ∧
      ∃ later, first.output = later ++ loss.whole ∧
        broken.output = (later ++ loss.broken).reverse ++ [first.current] := by
  intro broken
  have current : (sourceUnits maxNesting (.initial tokens table)).2.current = first.current :=
    resumes.lookahead 0
  have still := leftover_of_eof ((congrArg Token.category current).trans ended)
  have final : broken = ((sourceUnits maxNesting (.initial tokens table)).2.emit
      first.current).outcome file := by
    rw [← current, ← still]
    rfl
  obtain ⟨later, whole, output_eq⟩ := resumes.output
  rw [final]
  refine ⟨?_, resumes.table, later, whole, ?_⟩
  · have reports : (sourceUnits maxNesting (.initial tokens table)).2.reports = [loss.report] := by
      rw [resumes.reports, quiet, List.nil_append]
    change ((sourceUnits maxNesting (.initial tokens table)).2.reports.reverse).map _ = _
    rw [reports]
    rfl
  · change (first.current :: _).reverse = _
    rw [output_eq, List.reverse_cons]

/-- Unexpected tokens between an END-IF and its period are reported once, at the first of
them. Everything that comes later is analyzed as it is without them: the symbol table and
the canonical tokens are the same. -/
theorem analyze_of_unexpected {file source : String} {table : SymbolTable}
    {front rest output : List Token} {stop period unexpected : Token} {more : List Token}
    (read : Source.tokenize source = front ++ stop :: period :: rest)
    (closes : stop.value = "END-IF") (ends : period.value = ".")
    (accepted : (analyze file (front ++ stop :: period :: rest) table).result = .ok output)
    (skipped : Unexpected (unexpected :: more)) :
    let sound := analyze file (front ++ stop :: period :: rest) table
    let broken := analyze file (front ++ stop :: (unexpected :: more ++ period :: rest)) table
    broken.result = .error ⟨1⟩ ∧
      broken.diagnostics = [Report.inFile file ⟨unexpected, .expectedLiteral "."⟩] ∧
      broken.table = sound.table ∧ broken.output = sound.output := by
  intro sound broken
  have stop_marks := Source.marks_endIf (by rw [read]; simp) closes
  have period_marks := Source.marks_period (by rw [read]; simp) ends
  let sentence : BrokenSentence :=
    ⟨stop, unexpected, more, period, rest, stop_marks, period_marks, skipped⟩
  generalize units : (sourceUnits maxNesting
    (.initial (front ++ stop :: period :: rest) table)).2 = middle
  obtain ⟨quiet, ended, output_eq, table_eq⟩ := sourceUnits_of_accepted accepted units
  -- both runs come to the end of their texts, where they are behind the broken sentence
  have astride := (tracks_sourceUnits_astride maxNesting).tracks
    (sentence.astride_initial front table) (units ▸ quiet)
  have resumes := State.Astride.resumes read (units ▸ astride.2) ended
  obtain ⟨reported, same_table, later, same_output, broken_output⟩ :=
    analyze_of_resumes resumes quiet ended
  have sound_output := ((Outcome.result_eq_ok_iff sound output).mp accepted).2
  refine ⟨?_, reported, same_table.trans table_eq.symm, ?_⟩
  · have failed : broken.diagnostics = [Report.inFile file ⟨unexpected, .expectedLiteral "."⟩] :=
      reported
    rw [Outcome.result, failed]
    rfl
  · rw [sound_output, output_eq, same_output]
    exact broken_output

/-- Two programs, of which the first one ends with an IF statement and the second one
declares an item. -/
def guardedProgram : String :=
  "PROGRAM-ID. A. PROCEDURE DIVISION. IF X = 1 STOP RUN END-IF. END PROGRAM A. " ++
    "PROGRAM-ID. B. DATA DIVISION. WORKING-STORAGE SECTION. 01 Y PIC 9(2). " ++
    "PROCEDURE DIVISION. STOP RUN."

/-- Unexpected words before the period of the IF statement cost one diagnostic. The second
program is analyzed all the same. -/
theorem analyze_guardedProgram_unexpected :
    let tokens := Source.tokenize guardedProgram
    let stop : Token := ⟨"END-IF", .reserved, .plain, 1, 54⟩
    let stray : List Token :=
      [⟨"ELSE", .reserved, .plain, 1, 61⟩, ⟨"END", .reserved, .plain, 1, 66⟩]
    let period : Token := ⟨".", .symbol, .plain, 1, 60⟩
    let sound := analyze "a.cob" (tokens.take 13 ++ stop :: period :: tokens.drop 15) .empty
    let broken := analyze "a.cob"
      (tokens.take 13 ++ stop :: (stray ++ period :: tokens.drop 15)) .empty
    sound.result = .ok tokens ∧ broken.result = .error ⟨1⟩ ∧
      broken.diagnostics =
        [⟨"a.cob", ⟨"ELSE", .reserved, .plain, 1, 61⟩, .expectedLiteral "."⟩] ∧
      broken.table = sound.table ∧ broken.output = sound.output := by
  intro tokens stop stray period sound
  have read : tokens = tokens.take 13 ++ stop :: period :: tokens.drop 15 := by
    decide +kernel
  have accepted : sound.result = .ok tokens := by
    rw [Outcome.result_eq_ok_iff]
    decide +kernel
  have skipped : Unexpected stray := ⟨by decide, by decide, by decide, by decide⟩
  exact ⟨accepted, analyze_of_unexpected read rfl rfl accepted skipped⟩

end CobolCheck
