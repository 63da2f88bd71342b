import CobolCheck.Proofs.Statement.Nested
import CobolCheck.Proofs.Output

/-!
# Reading procedure divisions

Sentences, paragraphs and sections of the grammar are read up to the END marker
of their unit, and with the ID paragraph and the END marker they make a source unit.
-/

namespace CobolCheck

open Grammar

namespace Grammar

variable {depth : Nat} {words : List String}

theorem Sentence.begins (sentence : Sentence depth words) :
    Begins Word.statementWords words := by
  cases sentence with
  | last statement => exact statement.fragment.begins_statement.append _
  | cons statement => exact statement.fragment.begins_statement.append _

theorem Header.begins (header : Header words) :
    ∃ name more, words = name :: more ∧ IsName name := by
  cases header with
  | ofParagraph named => exact ⟨_, _, rfl, named⟩
  | ofSection named => exact ⟨_, _, rfl, named⟩

end Grammar

namespace Analysis

variable {α : Type} {depth : Nat} {word : String} {words more rest : List String}
  {start : SourceUnit × SymbolTable}

/-! ## Sentences -/

/-- One more statement of a sentence is read. -/
theorem accepts_sentencePart {first : List String} (statement : Nested depth .statement first)
    (follows : Begins Word.statementWords rest) :
    Accepts start (sentencePart depth) first rest := by
  have continues : Test.statement.on rest = true := by
    have held := on_statement follows []
    rwa [List.append_nil] at held
  have ends : Begins followers rest := follows.mono fun _ listed => List.mem_append_right _ listed
  apply Reads.bind_nil (readsPart_of_fragment statement.fragment rest start ends)
  rintro _ _ rfl
  apply Reads.held
  · exact continues
  · exact .pure rfl

/-- The last statement of a sentence is read with the period. -/
theorem accepts_sentenceEnd {first : List String} (statement : Nested depth .statement first) :
    Accepts start (sentencePart depth) (first ++ ["."]) rest := by
  have ends : Begins followers ("." :: rest) := begins_cons (by decide) rest
  apply Reads.bind (readsPart_of_fragment statement.fragment _ start ends)
  rintro _ _ rfl
  apply Reads.refused
  · simp [Test.statement, Test.on, roleAt_cons_zero (role?_mark "." (by decide))]
  · apply Reads.bind_nil (reads_optional "." rest)
    rintro _ _ ⟨rfl, rfl⟩
    exact .pure rfl

theorem accepts_sentence {sentence : List String} (grammar : Sentence depth sentence)
    (further : Accepts start (sentences depth) more rest) :
    Accepts start (sentences depth) (sentence ++ more) rest := by
  have nonempty {words : List String} (begins : Begins Word.statementWords words) : words ≠ [] := by
    obtain ⟨word, _, front, rfl⟩ := begins
    exact List.cons_ne_nil word front
  induction grammar with
  | last statement =>
      have begins := statement.fragment.begins_statement.append ["."]
      exact Accepts.whilst_cons (nonempty begins) (on_statement begins _)
        (accepts_sentenceEnd statement) further
  | cons statement others ih =>
      have begins := statement.fragment.begins_statement
      have continues : Begins Word.statementWords (_ ++ more ++ rest) :=
        (others.begins.append more).append rest
      rw [List.append_assoc]
      exact Accepts.whilst_cons (nonempty begins) (on_statement begins _)
        (accepts_sentencePart statement continues) ih

theorem accepts_sentences (grammar : Sentences depth words)
    (ended : Test.statement.on rest = false) : Accepts start (sentences depth) words rest := by
  induction grammar with
  | nil => exact accepts_whilst_nil _ ended
  | cons sentence _ ih => exact accepts_sentence sentence ih

/-! ## Paragraphs and sections -/

theorem roleAt_of_named {name : String} (named : IsName name) (more : List String) :
    roleAt (name :: more) 0 = (.identifier, .plain) := by
  obtain ⟨category, listed, role⟩ := named
  rw [roleAt_cons_zero role, List.mem_singleton.mp listed]

theorem on_statement_of_header {header : List String} (grammar : Header header)
    (more : List String) : Test.statement.on (header ++ more) = false := by
  obtain ⟨name, front, rfl, named⟩ := grammar.begins
  rw [Test.statement, Test.on, List.cons_append, roleAt_of_named named]
  rfl

/-- A header is accepted and recognized. -/
theorem reads_paragraphHeader {header : List String} (grammar : Header header) :
    Reads start paragraphHeader header rest
      fun found declared => found = true ∧ declared = start := by
  cases grammar with
  | @ofParagraph name named =>
      have held : (Test.and .identifier (.next ".")).on ([name, "."] ++ rest) = true := by
        rw [Test.on, Test.identifier, List.cons_append, on_has named]
        rfl
      apply Reads.held held
      apply Reads.bind_nil (accepts_acceptMany [name, "."] rest)
      rintro _ _ rfl
      exact .pure ⟨rfl, rfl⟩
  | @ofSection name named =>
      have other : (Test.and .identifier (.next ".")).on ([name, "SECTION", "."] ++ rest) =
          false := by
        simp [Test.on, Test.next]
      have held : (Test.and .identifier (.and (.next "SECTION") (.word 2 ["."]))).on
          ([name, "SECTION", "."] ++ rest) = true := by
        rw [Test.on, Test.identifier, List.cons_append, on_has named]
        rfl
      apply Reads.refused other
      apply Reads.held held
      apply Reads.bind_nil (accepts_acceptMany [name, "SECTION", "."] rest)
      rintro _ _ rfl
      exact .pure ⟨rfl, rfl⟩

theorem reads_paragraphHeader_absent (other : Test.identifier.on rest = false) :
    Reads start paragraphHeader [] rest fun found declared => found = false ∧ declared = start := by
  apply Reads.refused
  · change (Test.identifier.on rest && _) = false
    rw [other, Bool.false_and]
  apply Reads.refused
  · change (Test.identifier.on rest && _) = false
    rw [other, Bool.false_and]
  · exact .pure ⟨rfl, rfl⟩

/-- The body of a procedure division is accepted up to a word that ends it. -/
theorem accepts_procedureBody (grammar : Body depth words) (follows : Begins closers rest) :
    Accepts start (procedureBody depth) words rest := by
  induction grammar with
  | sentences sentences =>
      apply Reads.loop_none
      apply Reads.bind_nil (accepts_sentences sentences (on_statement_eq_false follows))
      rintro _ _ rfl
      have other : Test.identifier.on rest = false :=
        (followers_of_closers follows).on_has (by decide)
      apply Reads.bind_nil (reads_paragraphHeader_absent other)
      rintro _ _ ⟨rfl, rfl⟩
      exact .pure ⟨rfl, rfl⟩
  | @header words header more sentences begins _ ih =>
      have nonempty : words ++ header ≠ [] := by
        obtain ⟨name, front, rfl, -⟩ := begins.begins
        simp
      apply Reads.loop_some (fun _ declared => declared = start) nonempty
      · apply Accepts.bind (accepts_sentences sentences (on_statement_of_header begins _))
        intro _
        apply Reads.bind_nil (reads_paragraphHeader begins)
        rintro _ _ ⟨rfl, rfl⟩
        exact .pure ⟨(), rfl, rfl⟩
      · rintro _ _ rfl
        exact ih

/-! ## Source units -/

theorem Reads.unit_bind {next : SourceUnit → Analysis α}
    {ends : α → SourceUnit × SymbolTable → Prop}
    (reads : Reads start (next start.1) words rest ends) :
    Reads start (currentUnit >>= next) words rest ends := by
  rintro state ahead rfl
  exact reads state ahead rfl

theorem Reads.beginUnit_bind {unit : SourceUnit} {next : Unit → Analysis α}
    {ends : α → SourceUnit × SymbolTable → Prop}
    (reads : Reads (unit, start.2) (next ()) words rest ends) :
    Reads start (beginUnit unit >>= next) words rest ends := by
  rintro state ⟨tokens, sentinel⟩ rfl
  obtain ⟨holds, passed⟩ := reads { state with unit := unit } ⟨tokens, sentinel⟩ rfl
  exact ⟨holds, passed.ahead_eq, passed.output_eq, passed.reports_eq, passed.sentinel_eq⟩

/-- The ID paragraph of a program begins a unit with its name. -/
theorem reads_identification {name : String} (named : IsName name) :
    Reads start identification ["PROGRAM-ID", ".", name, "."] rest
      fun _ declared => declared = ({ name := name }, start.2) := by
  apply Reads.refused (by rfl)
  apply Reads.held (on_is _ _)
  apply Reads.accept_bind
  apply Reads.expect_bind
  apply Reads.ask_bind
  apply Reads.word_bind
  have identifier : Test.identifier.on ([name, "."] ++ rest) = true := on_has named _
  rw [identifier]
  apply Reads.beginUnit_bind
  apply Reads.discard_bind
  exact .operand_bind named (accepts_expect _ _)

/-- The END marker of a program is accepted under its name. -/
theorem accepts_unitEndMarker {name : String} {unit : SourceUnit} (named : IsName name)
    (name_eq : unit.name = name) (kind_eq : unit.kind = .program) :
    Accepts start (unitEndMarker unit) ["END", "PROGRAM", name, "."] rest := by
  unfold unitEndMarker
  rw [kind_eq, name_eq]
  apply Reads.expect_bind
  apply Reads.expect_bind
  apply Reads.word_bind
  apply Reads.ask_bind
  have same : (textAt ([name, "."] ++ rest) 0 != name) = false := bne_self_eq_false name
  rw [same, Bool.and_false, Bool.false_and, if_neg Bool.false_ne_true]
  apply Reads.discard_bind
  exact .operand_bind named (accepts_expectOr _ _ _)

/-- The words of a procedure division and the END marker of its unit. -/
def procedureWords (name : String) (body : List String) : List String :=
  "PROCEDURE" :: "DIVISION" :: "." :: (body ++ ["END", "PROGRAM", name, "."])

theorem accepts_procedureDivision {name : String} (named : IsName name)
    (name_eq : start.1.name = name) (kind_eq : start.1.kind = .program)
    (grammar : Body depth words) :
    Accepts start (procedureDivision depth) (procedureWords name words) rest := by
  have ended : Begins closers (["END", "PROGRAM", name, "."] ++ rest) := begins_cons (by decide) _
  have header : Accepts start procedureHeader ["PROCEDURE", "DIVISION", "."]
      (words ++ ["END", "PROGRAM", name, "."] ++ rest) := by
    apply Reads.expect_bind
    apply Reads.expect_bind
    apply Reads.unit_bind
    rw [kind_eq]
    apply Reads.absent_bind
    · simp
    · exact accepts_expectOr _ _ _
  apply header.bind
  intro _
  apply (accepts_procedureBody grammar ended).bind
  intro _
  apply Reads.unit_bind
  apply Reads.refused
  · simp [Test.unitStart, Test.isAny, Test.on]
  rw [kind_eq]
  apply Reads.held
  · simp [Test.on, Test.next, Test.is, UnitKind.keyword]
  · exact accepts_unitEndMarker named name_eq kind_eq

/-- The words of a program. -/
def programWords (name : String) (data body : List String) : List String :=
  "PROGRAM-ID" :: "." :: name :: "." :: (data ++ procedureWords name body)

/-- A data division is left out, or it is read and the unit keeps its name. -/
def ReadsData (name : String) (table : SymbolTable) (data rest : List String)
    (ends : SourceUnit × SymbolTable → Prop) : Prop :=
  data = [] ∧ ends ({ name := name }, table) ∨
    ∃ more, data = "DATA" :: more ∧
      Reads ({ name := name }, table) dataDivision data rest
        fun _ declared => declared.1.name = name ∧ declared.1.kind = .program ∧ ends declared

theorem reads_sourceUnit {name : String} {data : List String}
    {ends : SourceUnit × SymbolTable → Prop}
    (named : IsName name)
    (division : ReadsData name start.2 data (procedureWords name words ++ rest) ends)
    (grammar : Body depth words) :
    Reads start (sourceUnit depth) (programWords name data words) rest
      fun _ declared => ends declared := by
  have split_eq : programWords name data words =
      ["PROGRAM-ID", ".", name, "."] ++ (data ++ procedureWords name words) := rfl
  rw [split_eq]
  apply Reads.bind (reads_identification named)
  rintro _ _ rfl
  rcases division with ⟨rfl, holds⟩ | ⟨more, rfl, reads⟩
  · apply Reads.refused (on_is_eq_false (by simp [procedureWords]))
    apply Reads.refused (on_is_eq_false (by simp [procedureWords]))
    apply (accepts_procedureDivision named rfl rfl grammar).mono
    rintro _ _ rfl
    exact holds
  · apply Reads.refused (on_is_eq_false (by simp))
    apply Reads.held (on_is _ _)
    apply Reads.bind reads
    rintro _ middle ⟨name_eq, kind_eq, holds⟩
    apply (accepts_procedureDivision named name_eq kind_eq grammar).mono
    rintro _ _ rfl
    exact holds

/-- A single program is all of a source text. -/
theorem reads_sourceUnits {name : String} {data : List String}
    {ends : SourceUnit × SymbolTable → Prop}
    (named : IsName name)
    (division : ReadsData name start.2 data (procedureWords name words) ends)
    (grammar : Body depth words) :
    Reads start (sourceUnits depth) (programWords name data words) []
      fun _ declared => ends declared := by
  have begun : Test.eof.on (programWords name data words ++ []) = false := by
    simp [programWords, Test.eof, Test.has, Test.on,
      roleAt_cons_zero (role?_particle "PROGRAM-ID" (by decide))]
  apply Reads.loop_none
  apply Reads.refused begun
  apply Reads.bind_nil (reads_sourceUnit named (by rwa [List.append_nil]) grammar)
  intro _ _ holds
  apply Reads.refused (by rfl)
  exact .pure ⟨rfl, holds⟩

end Analysis

/-! ## Whole analyses -/

open Analysis

/-- Where only the end of the input is left, it is the last token of the output. -/
theorem sourceText_of_units {depth : Nat} {state after : State} {last : Token}
    (units : (sourceUnits depth state).2 = after) (ahead_eq : after.ahead = [last])
    (ended : last.isEof = true) : (sourceText depth state).2 = after.emit last := by
  have current_eq : after.current = last := State.current_of_ahead_cons ahead_eq
  have finished : after.current.category = .eof := by
    rw [current_eq]
    exact (Token.isEof_eq_true_iff last).mp ended
  rw [run_sourceText, units, leftover_of_eof finished, current_eq]

/-- Tokens whose words are read as source units are accepted as they are. -/
theorem analyzeWithin_of_reads {depth : Nat} {file : String} {tokens : List Token}
    {table : SymbolTable} {ends : SourceUnit × SymbolTable → Prop} (line column : Nat)
    (spelled : ∀ token ∈ tokens, token.Spelled)
    (reads : Reads ({}, table) (sourceUnits depth) (tokens.map Token.value) []
      fun _ declared => ends declared) :
    (analyzeWithin depth file (tokens ++ [.endOfInput line column]) table).result =
        .ok (tokens ++ [.endOfInput line column]) ∧
      ∃ unit, ends
        (unit, (analyzeWithin depth file (tokens ++ [.endOfInput line column]) table).table) := by
  have ahead : (State.initial (tokens ++ [.endOfInput line column]) table).Ahead
      (tokens.map Token.value ++ []) := by
    rw [List.append_nil]
    exact ⟨⟨tokens, line, column, rfl, rfl, spelled⟩, State.marks_sentinelAfter _⟩
  obtain ⟨holds, passed⟩ := reads _ ahead rfl
  generalize units : (sourceUnits depth
    (.initial (tokens ++ [.endOfInput line column]) table)).2 = after at holds passed
  have before_eq : (State.initial (tokens ++ [.endOfInput line column]) table).ahead =
      tokens ++ [.endOfInput line column] := rfl
  have ahead_eq : after.ahead = [.endOfInput line column] := by
    rw [passed.ahead_eq, before_eq, List.length_map, List.drop_left]
  have output_eq : after.output = tokens.reverse := by
    rw [passed.output_eq, before_eq, List.length_map, List.take_left]
    exact List.append_nil _
  have whole := sourceText_of_units units ahead_eq (Token.isEof_endOfInput line column)
  constructor
  · rw [Outcome.result_eq_ok_iff, analyzeWithin, whole]
    constructor
    · simp [State.outcome, State.emit, passed.reports_eq, State.initial]
    · simp [State.outcome, State.emit, output_eq]
  · rw [analyzeWithin, whole]
    exact ⟨after.unit, holds⟩

end CobolCheck
