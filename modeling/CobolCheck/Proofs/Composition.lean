import CobolCheck.Proofs.Division.Seam
import CobolCheck.Proofs.Output

/-!
# Source units compose

What an analysis does with a source unit depends on nothing before it but the
symbol table. An accepted source text that ends with an END marker may therefore
come before another one: the rest of the analysis is that of the other source
text alone, from the symbol table that the first one leaves behind.
-/

namespace CobolCheck

open Analysis

/-! ## States after other source units -/

namespace State

/-- Whether two states are the same but for what lies before some tokens that
both have read, and for the unit. -/
structure Continues (past output : List Token) (first second : State) : Prop where
  ahead : second.ahead = first.ahead
  sentinel : second.sentinel = first.sentinel
  behind : second.behind = first.behind ++ past
  output : second.output = first.output ++ output
  reports : second.reports = first.reports
  table : second.table = first.table

/-- Whether two such states are before a word that begins a source unit. -/
structure Begins (word : String) (past output : List Token) (first second : State) : Prop
    extends Continues past output first second where
  opens : ∃ opening rest, first.ahead = opening :: rest ∧ opening.value = word ∧
    opening.category ≠ .eof

/-- Whether two such states have read a token of the same text. -/
structure Underway (past output : List Token) (first second : State) : Prop
    extends Continues past output first second where
  begun : first.behind ≠ []

variable {word : String} {past output : List Token} {first second : State}

theorem Continues.lookahead (continues : Continues past output first second) (offset : Nat) :
    second.lookahead offset = first.lookahead offset := by
  rw [State.lookahead, State.lookahead, continues.ahead, continues.sentinel]

theorem Continues.emit (continues : Continues past output first second) (token : Token) :
    Continues past output (first.emit token) (second.emit token) :=
  ⟨continues.ahead, continues.sentinel, continues.behind,
    congrArg (token :: ·) continues.output, continues.reports, continues.table⟩

theorem Continues.report (continues : Continues past output first second) (token : Token)
    (cause : Cause) :
    Continues past output (first.report token cause) (second.report token cause) :=
  ⟨continues.ahead, continues.sentinel, continues.behind, continues.output,
    congrArg (Report.mk token cause :: ·) continues.reports, continues.table⟩

theorem Continues.skip (continues : Continues past output first second) :
    Continues past output first.skip second.skip := by
  cases ahead : first.ahead with
  | nil =>
      rw [skip_of_ahead_nil ahead, skip_of_ahead_nil (continues.ahead.trans ahead)]
      exact continues
  | cons token rest =>
      rw [skip_of_ahead_cons ahead, skip_of_ahead_cons (continues.ahead.trans ahead)]
      exact ⟨rfl, continues.sentinel, congrArg (token :: ·) continues.behind, continues.output,
        continues.reports, continues.table⟩

theorem behind_skip_ne_nil {state : State} (begun : state.behind ≠ []) :
    state.skip.behind ≠ [] := by
  cases ahead : state.ahead with
  | nil => rwa [skip_of_ahead_nil ahead]
  | cons token rest =>
      rw [skip_of_ahead_cons ahead]
      exact List.cons_ne_nil _ _

theorem Continues.current (continues : Continues past output first second) :
    second.current = first.current :=
  continues.lookahead 0

theorem Begins.current_value (begins : Begins word past output first second) :
    first.current.value = word ∧ second.current.value = word := by
  obtain ⟨opening, rest, ahead, value_eq, _⟩ := begins.opens
  rw [begins.current, current_of_ahead_cons ahead]
  exact ⟨value_eq, value_eq⟩

/-- The first token of a text is not its end. -/
theorem Begins.not_eof (begins : Begins word past output first second) :
    ¬ Test.eof.holds first ∧ ¬ Test.eof.holds second := by
  obtain ⟨opening, rest, ahead, _, inside⟩ := begins.opens
  have current := current_of_ahead_cons ahead
  rw [Test.holds_eof_iff, Test.holds_eof_iff, begins.current, current]
  exact ⟨inside, inside⟩

/-- The first token of a text is accepted. -/
theorem Begins.accept (begins : Begins word past output first second) (token : Token) :
    Underway past output (first.emit token).skip (second.emit token).skip := by
  obtain ⟨opening, rest, ahead, _, _⟩ := begins.opens
  constructor
  · exact (begins.emit token).skip
  · have same : (first.emit token).ahead = opening :: rest := ahead
    rw [skip_of_ahead_cons same]
    exact List.cons_ne_nil _ _

/-- The token before the cursor is in the text that both have begun. -/
theorem Underway.previous (underway : Underway past output first second) :
    second.previous = first.previous := by
  obtain ⟨latest, earlier, behind⟩ := List.exists_cons_of_ne_nil underway.begun
  rw [State.previous, State.previous, underway.behind, behind]
  rfl

end State

theorem coupled_underway (past output : List Token) :
    Coupled 0 (State.Underway past output) where
  lookahead underway _ := underway.lookahead _
  reading afterOperand underway := by
    have current := underway.lookahead 0
    simp only [reading, State.current, current, underway.ahead]
  previous underway := underway.previous
  moved underway further := by
    rw [remaining, remaining, remaining, remaining, underway.ahead, further.ahead]
  skip underway _ := ⟨underway.skip, State.behind_skip_ne_nil underway.begun⟩
  emit token underway := ⟨underway.emit token, underway.begun⟩
  report token cause underway := ⟨underway.report token cause, underway.begun⟩
  nest _ _ _ _ underway :=
    ⟨⟨underway.ahead, underway.sentinel, underway.behind, underway.output, underway.reports,
      underway.table⟩, underway.begun⟩

/-- Whether two states have read a token of the same text, and are in the same unit. -/
def State.Within (past output : List Token) (first second : State) : Prop :=
  State.Underway past output first second ∧ second.unit = first.unit

theorem coupledUnits_within (past output : List Token) :
    CoupledUnits 0 (State.Within past output) :=
  have coupled := coupled_underway past output
  { lookahead := fun within near => coupled.lookahead within.1 near
    reading := fun afterOperand within => coupled.reading afterOperand within.1
    previous := fun within => coupled.previous within.1
    moved := fun within further => coupled.moved within.1 further.1
    skip := by
      intro first second within enough
      constructor
      · exact coupled.skip within.1 enough
      · rw [first.still_skip.unit_eq, second.still_skip.unit_eq]
        exact within.2
    emit := fun token within => ⟨coupled.emit token within.1, within.2⟩
    report := fun token cause within => ⟨coupled.report token cause within.1, within.2⟩
    nest := fun _ _ _ _ within => ⟨coupled.nest _ _ _ _ within.1, within.2⟩
    unit := fun within => within.2
    table := fun within => within.1.table
    withUnit := fun _ within =>
      ⟨⟨⟨within.1.ahead, within.1.sentinel, within.1.behind, within.1.output, within.1.reports,
        within.1.table⟩, within.1.begun⟩, rfl⟩
    withTable := fun _ within =>
      ⟨⟨⟨within.1.ahead, within.1.sentinel, within.1.behind, within.1.output, within.1.reports,
        rfl⟩, within.1.begun⟩, within.2⟩ }

namespace Analysis

/-! ## Runs from one relation to another -/

/-- Whether two runs of an analysis from states that one relation holds of give
the same result and states that another one holds of. -/
structure Leads {α : Type} (ρ σ : State → State → Prop) (analysis : Analysis α) : Prop where
  leads {first second : State} : ρ first second →
    (analysis second).1 = (analysis first).1 ∧ σ (analysis first).2 (analysis second).2

variable {α β : Type} {ρ σ τ : State → State → Prop}

theorem Agrees.leads {analysis : Analysis α} (agrees : Agrees 0 ρ analysis) :
    Leads ρ ρ analysis :=
  ⟨fun alike => agrees.agrees alike (Nat.zero_le _)⟩

theorem leads_bind {analysis : Analysis α} {next : α → Analysis β} (begin : Leads ρ σ analysis)
    (rest : ∀ value, Leads σ τ (next value)) : Leads ρ τ (analysis >>= next) where
  leads := by
    intro first second alike
    rw [run_bind, run_bind]
    obtain ⟨same, between⟩ := begin.leads alike
    rw [same]
    exact (rest _).leads between

/-- A question whose answer is known from the relation. -/
theorem leads_ask {test : Test} {next : Bool → Analysis α} (answer : Bool)
    (known : ∀ {first second}, ρ first second →
      test.holds first = answer ∧ test.holds second = answer)
    (rest : Leads ρ σ (next answer)) : Leads ρ σ (ask test >>= next) where
  leads := by
    intro first second alike
    rw [run_bind, run_bind, run_ask, run_ask, (known alike).1, (known alike).2]
    exact rest.leads alike

theorem leads_ite {yes no : Analysis α} (held : Prop) [Decidable held] (first : Leads ρ σ yes)
    (second : Leads ρ σ no) : Leads ρ σ (if held then yes else no) := by
  split
  · exact first
  · exact second

/-! ## The beginning of a source unit -/

variable {word : String} {past output : List Token}

theorem leads_accept :
    Leads (State.Begins word past output) (State.Underway past output) accept where
  leads := by
    intro first second begins
    have accepted : (accept second).2 = (second.emit second.current).skip := rfl
    constructor
    · rfl
    · rw [accepted, begins.current]
      exact begins.accept _

theorem leads_expect :
    Leads (State.Begins word past output) (State.Underway past output) (expect word) where
  leads := by
    intro first second begins
    have held (state : State) (value_eq : state.current.value = word) :
        (expect word state).2 = (state.emit state.current).skip := by
      rw [expect, run_discard, run_acceptIf, if_pos ((Test.holds_is_iff state word).mpr value_eq)]
    obtain ⟨value_eq, value_eq'⟩ := begins.current_value
    constructor
    · rfl
    · rw [held first value_eq, held second value_eq', begins.current]
      exact begins.accept _

theorem leads_divisionHeader (division : Division) :
    Leads (State.Begins division.keyword past output) (State.Underway past output)
      (divisionHeader division) := by
  have coupled := coupled_underway past output
  refine leads_bind leads_expect fun _ => (coupled.agrees fun parallel => ?_).leads
  exact tracks_then (parallel.tracks_expect _) fun _ => parallel.tracks_expectOr _ _

/-- Nothing is known of the unit before it begins. -/
theorem leads_beginUnit (unit : SourceUnit) :
    Leads (State.Underway past output) (State.Within past output) (beginUnit unit) where
  leads underway := ⟨rfl, ⟨⟨underway.ahead, underway.sentinel, underway.behind, underway.output,
    underway.reports, underway.table⟩, underway.begun⟩, rfl⟩

/-- What follows the first word of an ID paragraph. -/
theorem leads_unitParagraph {ρ : State → State → Prop}
    (accepts : Leads ρ (State.Underway past output) accept) (kind : UnitKind) :
    Leads ρ (State.Within past output) (unitParagraph kind) := by
  have coupled := coupled_underway past output
  have within := coupledUnits_within past output
  apply leads_bind accepts
  intro _
  apply leads_bind (coupled.agrees (·.tracks_expect _)).leads
  intro _
  apply leads_bind (coupled.agrees (·.tracks_ask rfl)).leads
  intro named
  apply leads_bind (coupled.agrees (·.tracks_word)).leads
  intro name
  apply leads_bind (leads_beginUnit _)
  intro _
  apply leads_bind (within.agrees fun parallel => tracks_discard parallel.tracks_identifier).leads
  intro _
  exact (within.agrees (·.tracks_expect _)).leads

/-- The ID paragraph, after a division header. -/
theorem leads_unitName : Leads (State.Underway past output) (State.Within past output) (do
    if ← ask (.is "PROGRAM-ID") then unitParagraph .program
    else if ← ask (.is "FUNCTION-ID") then unitParagraph .function
    else
      beginUnit {}
      reportHere (.general .missingUnitName)) := by
  have coupled := coupled_underway past output
  have paragraph (kind : UnitKind) :=
    leads_unitParagraph (coupled.agrees (·.tracks_accept)).leads kind
  have asked (test : Test) (inside : test.within 2 = true) :=
    (coupled.agrees (·.tracks_ask inside)).leads
  refine leads_bind (asked _ rfl) fun held => leads_ite _ (paragraph _) ?_
  refine leads_bind (asked _ rfl) fun held => leads_ite _ (paragraph _) ?_
  apply leads_bind (leads_beginUnit _)
  intro _
  exact ((coupledUnits_within past output).agrees (·.tracks_reportHere _)).leads

theorem leads_identification (opens : word ∈ ["IDENTIFICATION", "PROGRAM-ID", "FUNCTION-ID"]) :
    Leads (State.Begins word past output) (State.Within past output) identification := by
  have known {asked : String} {answer : Bool} (same : [asked].contains word = answer)
      {first second : State} (begins : State.Begins word past output first second) :
      (Test.is asked).holds first = answer ∧ (Test.is asked).holds second = answer := by
    rw [← same, ← begins.current_value.1]
    exact ⟨rfl, congrArg (fun token : Token => [asked].contains token.value) begins.current⟩
  simp only [List.mem_cons, List.not_mem_nil, or_false] at opens
  rcases opens with rfl | rfl | rfl
  · apply leads_ask true (known rfl)
    exact leads_bind (leads_divisionHeader .identification) fun _ => leads_unitName
  · refine leads_ask false (known rfl) (leads_ask true (known rfl) ?_)
    exact leads_unitParagraph leads_accept _
  · refine leads_ask false (known rfl) (leads_ask false (known rfl) ?_)
    apply leads_ask true (known rfl)
    exact leads_unitParagraph leads_accept _

/-! ## The rest of the text -/

theorem leads_sourceUnits (opens : word ∈ ["IDENTIFICATION", "PROGRAM-ID", "FUNCTION-ID"])
    (limit : Nat) :
    Leads (State.Begins word past output) (State.Within past output) (sourceUnits limit) where
  leads := by
    intro first second begins
    have within := coupledUnits_within past output
    have unit : Leads (State.Begins word past output) (State.Within past output)
        (sourceUnit limit) :=
      leads_bind (leads_identification opens) fun _ => (within.agrees fun parallel =>
        parallel.tracks_divisions (parallel.tracks_sentences limit)).leads
    have further := (unit.leads begins).2
    rw [sourceUnits_eq limit first, if_neg begins.not_eof.1, sourceUnits_eq limit second,
      if_neg begins.not_eof.2, within.holds_eq rfl further, remaining, remaining, remaining,
      remaining, begins.ahead, further.1.ahead]
    split
    · exact (within.agrees fun parallel => parallel.tracks_sourceUnits
        (parallel.tracks_sourceUnit (parallel.tracks_sentences limit))).leads.leads further
    · exact ⟨rfl, further⟩

theorem leads_sourceText (opens : word ∈ ["IDENTIFICATION", "PROGRAM-ID", "FUNCTION-ID"])
    (limit : Nat) :
    Leads (State.Begins word past output) (State.Within past output) (sourceText limit) := by
  have within := coupledUnits_within past output
  apply leads_bind (leads_sourceUnits opens limit)
  intro _
  apply leads_bind (within.agrees (·.tracks_leftover)).leads
  intro _
  refine ⟨fun {first second} alike => ⟨rfl, ?_⟩⟩
  change State.Within past output (first.emit first.current) (second.emit second.current)
  rw [within.current_eq alike]
  exact within.emit _ alike

end Analysis

/-- What an analysis says of a text does not depend on what came before it. -/
theorem State.Continues.outcome {past output : List Token} {first second : State}
    (continues : Continues past output first second) (file : String) :
    (second.outcome file).diagnostics = (first.outcome file).diagnostics ∧
      (second.outcome file).table = (first.outcome file).table ∧
      (second.outcome file).result = (first.outcome file).result.map (output.reverse ++ ·) := by
  have diagnostics : (second.outcome file).diagnostics = (first.outcome file).diagnostics :=
    congrArg (fun reports => reports.reverse.map (Report.inFile file)) continues.reports
  have longer : (second.outcome file).output = output.reverse ++ (first.outcome file).output := by
    rw [State.outcome, continues.output, List.reverse_append]
    rfl
  refine ⟨diagnostics, continues.table, ?_⟩
  rw [Outcome.result, Outcome.result, diagnostics, longer]
  split
  · rfl
  · rfl

/-! ## Source texts -/

/-- Whether tokens end with the END marker of a source unit. -/
def EndsUnit (tokens : List Token) : Prop :=
  ∃ front word kind name period, tokens = front ++ [word, kind, name, period] ∧
    word.value = "END" ∧ (kind.value = "PROGRAM" ∨ kind.value = "FUNCTION") ∧
    name.category = .identifier ∧ period.value = "."

/-- Whether tokens begin with a word that begins a source unit. -/
def BeginsUnit (tokens : List Token) : Prop :=
  ∃ opening rest, tokens = opening :: rest ∧
    opening.value ∈ ["IDENTIFICATION", "PROGRAM-ID", "FUNCTION-ID"]

/-- The END marker that tokens of a source text end with. -/
theorem EndsUnit.exists_marker {tokens : List Token} (ends : EndsUnit tokens)
    (lexed : ∀ token ∈ tokens, token.Lexed) :
    ∃ (front : List Token) (marker : EndMarker), tokens = front ++ marker.tokens := by
  obtain ⟨front, word, kind, name, period, rfl, word_value, kind_value, category, period_value⟩ :=
    ends
  have known (token : Token) (inside : token ∈ [word, kind, name, period]) : token.Lexed :=
    lexed token (List.mem_append_right _ inside)
  have reserved {token : Token} (inside : token ∈ [word, kind, name, period]) {value : String}
      (value_eq : token.value = value) (begun : ∃ first ∈ value.toList.head?, first.isAlpha = true)
      (listed : Word.classify value = (.reserved, .plain)) :
      token.category = .reserved ∧ token.context = .plain := by
    rw [← value_eq] at begun listed
    exact Prod.mk.inj (((known token inside).classified begun).trans listed)
  obtain ⟨word_category, word_context⟩ :=
    reserved (by simp) word_value ⟨'E', rfl, rfl⟩ (by decide)
  obtain ⟨kind_category, kind_context⟩ : kind.category = .reserved ∧ kind.context = .plain := by
    rcases kind_value with value_eq | value_eq
    · exact reserved (by simp) value_eq ⟨'P', rfl, rfl⟩ (by decide)
    · exact reserved (by simp) value_eq ⟨'F', rfl, rfl⟩ (by decide)
  have name_role := (known name (by simp)).classify_of_identifier category
  have name_value : name.value ∉ ["THEN", "ELSE", "END-IF", "NEXT"] := by
    intro listed
    have role : (Word.classify name.value).1 = .reserved := by
      generalize name.value = value at listed
      revert value
      decide
    rw [name_role] at role
    contradiction
  have period_context : period.context = .plain := by
    cases known period (by simp) with
    | word classified =>
        rw [period_value] at classified
        exact congrArg Prod.snd classified
    | other _ context => exact context
  exact ⟨front, {
    word, kind, name, period, kind_value, kind_category, kind_context, name_value, period_value,
    period_context
    word_marks := ⟨word_value, word_category, word_context⟩
    name_category := category
    name_context := Word.context_of_identifier name_role }, rfl⟩

/-- The longer text and the text that ends at the marker begin alike. -/
theorem alongside_initial {front : List Token} {marker : EndMarker} {last opening : Token}
    {rest : List Token} (table : SymbolTable) :
    State.Alongside marker last (opening :: rest)
      (.initial (front ++ marker.tokens ++ [last]) table)
      (.initial (front ++ marker.tokens ++ opening :: rest) table) := by
  refine ⟨front, rfl, rfl, ?_, rfl, rfl, rfl, rfl, rfl⟩
  rw [State.initial, State.sentinelAfter, State.sentinelAfter, List.getLast?_append,
    List.getLast?_cons, Option.some_or]

/-- A source text does not begin with its end if it begins with a source unit. -/
theorem Source.category_ne_eof_of_head {source : String} {opening : Token} {rest : List Token}
    (read : tokenize source = opening :: rest)
    (opens : opening.value ∈ ["IDENTIFICATION", "PROGRAM-ID", "FUNCTION-ID"]) :
    opening.category ≠ .eof := by
  obtain ⟨front, line, column, source_eq, lexed⟩ := exists_lexed_append source
  rw [read] at source_eq
  cases front with
  | nil =>
      obtain ⟨rfl, _⟩ := List.cons.inj source_eq
      exact absurd opens (show "EOF" ∉ _ by decide)
  | cons token front =>
      obtain ⟨rfl, _⟩ := List.cons.inj source_eq
      exact (lexed opening List.mem_cons_self).category_ne_eof

/-- An accepted source text that ends with an END marker goes before another one
without any effect but on the symbol table: the analysis of both reports what the
analysis of the other one alone reports from the table that the first one leaves
behind, leaves the same table, and gives the output of both. -/
theorem analyze_append {file first second : String} {table : SymbolTable}
    {units output : List Token} {finish last : Token}
    (read : Source.tokenize first = units ++ [finish]) (ends : EndsUnit units)
    (accepted : (analyze file (units ++ [finish]) table).result = .ok (output ++ [last]))
    (begins : BeginsUnit (Source.tokenize second)) :
    let before := analyze file (units ++ [finish]) table
    let alone := analyze file (Source.tokenize second) before.table
    let both := analyze file (units ++ Source.tokenize second) table
    both.diagnostics = alone.diagnostics ∧ both.table = alone.table ∧
      both.result = alone.result.map (output ++ ·) := by
  intro before alone both
  obtain ⟨lexedTokens, line, column, read', lexed⟩ := Source.exists_lexed_append first
  obtain ⟨rfl, finish_eq⟩ := List.append_inj' (read.symm.trans read') rfl
  obtain ⟨front, marker, units_eq⟩ := ends.exists_marker lexed
  obtain ⟨opening, rest, second_eq, opens⟩ := begins
  -- the source units of the first text, read alone
  generalize units_state : (sourceUnits maxNesting (.initial (units ++ [finish]) table)).2 = middle
  obtain ⟨unreported, ended, output_eq, table_eq⟩ := sourceUnits_of_accepted accepted units_state
  obtain ⟨rfl, _⟩ := List.append_inj' output_eq rfl
  -- those of both texts come to the first token of the second text in the same way
  have alongside : State.Alongside marker finish (opening :: rest)
      (.initial (units ++ [finish]) table) (.initial (units ++ opening :: rest) table) := by
    rw [units_eq]
    exact alongside_initial table
  have finished : Landmark.endOfInput.Marks finish := by
    rw [List.singleton_inj.mp finish_eq]
    exact Landmark.endOfInput_marks line column
  rw [← units_state] at unreported ended
  obtain ⟨handed, same, beside⟩ := alongside.exists_handed maxNesting rfl
    (fun token inside => (lexed token inside).category_ne_eof) finished opens unreported ended
  rw [units_state] at unreported beside
  -- from there on the second text is read as it is alone
  have begun : State.Begins opening.value middle.behind middle.output
      (.initial (opening :: rest) middle.table) handed :=
    ⟨⟨beside.second_ahead, beside.sentinel, beside.behind, beside.output,
      beside.reports.trans unreported, beside.table⟩,
      opening, rest, rfl, rfl, Source.category_ne_eof_of_head second_eq opens⟩
  have whole : (sourceText maxNesting (.initial (units ++ opening :: rest) table)).2 =
      (sourceText maxNesting handed).2 := by
    rw [run_sourceText, run_sourceText, same]
  have outcome := ((leads_sourceText opens maxNesting).leads begun).2.1.outcome file
  rw [← whole, ← table_eq, ← second_eq] at outcome
  exact outcome

/-- A program that is closed by its END marker. -/
def closedProgram : String :=
  "PROGRAM-ID. A. PROCEDURE DIVISION. STOP RUN. END PROGRAM A."

/-- A program that may come after it. -/
def laterProgram : String :=
  "PROGRAM-ID. B. PROCEDURE DIVISION."

/-- Both programs in one source text give the output of the first one and then
that of the second one. -/
theorem analyze_closedProgram_append :
    let units := (Source.tokenize closedProgram).dropLast
    let before := analyze "a.cob" (Source.tokenize closedProgram) .empty
    let alone := analyze "a.cob" (Source.tokenize laterProgram) before.table
    let both := analyze "a.cob" (units ++ Source.tokenize laterProgram) .empty
    both.diagnostics = alone.diagnostics ∧ both.table = alone.table ∧
      both.result = alone.result.map (units ++ ·) := by
  have read : Source.tokenize closedProgram =
      (Source.tokenize closedProgram).dropLast ++ [.endOfInput 1 60] := by
    decide +kernel
  have accepted : (analyze "a.cob" ((Source.tokenize closedProgram).dropLast ++
      [.endOfInput 1 60]) .empty).result =
        .ok ((Source.tokenize closedProgram).dropLast ++ [.endOfInput 1 60]) := by
    rw [Outcome.result_eq_ok_iff]
    decide +kernel
  have ends : EndsUnit (Source.tokenize closedProgram).dropLast :=
    ⟨(Source.tokenize closedProgram).take 10, ⟨"END", .reserved, .plain, 1, 46⟩,
      ⟨"PROGRAM", .reserved, .plain, 1, 50⟩, ⟨"A", .identifier, .plain, 1, 58⟩,
      ⟨".", .symbol, .plain, 1, 59⟩, by decide +kernel, rfl, .inl rfl, rfl, rfl⟩
  have begins : BeginsUnit (Source.tokenize laterProgram) :=
    ⟨⟨"PROGRAM-ID", .reserved, .plain, 1, 1⟩, (Source.tokenize laterProgram).tail,
      by decide +kernel, by decide⟩
  have appended := analyze_append read ends accepted begins
  rw [← read] at appended
  exact appended

end CobolCheck
