import CobolCheck.Check
import CobolCheck.Proofs.Division.Parallel
import CobolCheck.Proofs.Source.Layout

/-!
# Where diagnostics stand

A cause is reported at a token that was read, or at the symbol that stands for
several words of a condition, which is placed where the first of them is. So
every diagnostic stands at the place of a token of the input or of the end of
input that is read past the last token.

The tokens of a source text all have spans in it. The end of input past the last
token does not: it is placed after the three letters by which the end of the
text is shown, which the text does not have.
-/

namespace CobolCheck

open Analysis

/-- Whether a token stands at the place of one of some tokens. -/
def Token.StandsAmong (places : List Token) (token : Token) : Prop :=
  ∃ place ∈ places, token.line = place.line ∧ token.column = place.column

namespace State

/-- Whether all tokens in sight and those of all reports stand at some places. -/
structure Confined (places : List Token) (state : State) : Prop where
  tokens : ∀ token ∈ state.tokens, token.StandsAmong places
  sentinel : state.sentinel.StandsAmong places
  reports : ∀ report ∈ state.reports, report.token.StandsAmong places

variable {places : List Token}

namespace Confined

theorem lookahead {state : State} (confined : state.Confined places) (offset : Nat) :
    (state.lookahead offset).StandsAmong places := by
  unfold State.lookahead
  cases found : state.ahead[offset]? with
  | none => exact confined.sentinel
  | some token =>
      exact confined.tokens token (List.mem_append_right _ (List.mem_of_getElem? found))

theorem previous {state : State} (confined : state.Confined places) :
    state.previous.StandsAmong places := by
  unfold State.previous
  cases found : state.behind.head? with
  | none => exact confined.lookahead 0
  | some token =>
      refine confined.tokens token (List.mem_append_left _ (List.mem_reverse.mpr ?_))
      exact List.mem_of_head? found

theorem skip {state : State} (confined : state.Confined places) : state.skip.Confined places where
  tokens := by
    rw [tokens_skip]
    exact confined.tokens
  sentinel := by
    rw [(still_skip state).sentinel_eq]
    exact confined.sentinel
  reports := by
    rw [reports_skip]
    exact confined.reports

theorem report {state : State} (confined : state.Confined places) {token : Token}
    (placed : token.StandsAmong places) (cause : Cause) :
    (state.report token cause).Confined places :=
  { confined with reports := List.forall_mem_cons.mpr ⟨placed, confined.reports⟩ }

end Confined

/-- A single run, seen as two equal ones: what it looks at stays confined. -/
theorem aligned_confined (places : List Token) :
    Aligned (fun token other => token = other ∧ token.StandsAmong places) (fun _ => True)
      (fun first second => first = second ∧ first.Confined places) where
  alike := by
    rintro token _ ⟨rfl, _⟩
    exact ⟨rfl, rfl, rfl⟩
  recast := by
    rintro token _ value category context ⟨rfl, place, member, placed⟩
    exact ⟨rfl, place, member, placed⟩
  refl := by
    rintro ⟨state, dead⟩
    exact absurd trivial dead
  before _ _ := trivial
  lookahead := by
    rintro state _ offset ⟨rfl, confined⟩ _
    exact ⟨rfl, confined.lookahead offset⟩
  reading := by
    rintro state _ afterOperand ⟨rfl, _⟩
    rfl
  previous := by
    rintro state _ ⟨rfl, confined⟩
    exact ⟨rfl, confined.previous⟩
  moved := by
    rintro first _ third _ ⟨rfl, _⟩ ⟨rfl, _⟩
    rfl
  skip := by
    rintro state _ ⟨rfl, confined⟩ _
    exact ⟨rfl, confined.skip⟩
  emit := by
    rintro state _ token _ ⟨rfl, confined⟩ ⟨rfl, _⟩
    exact ⟨rfl, { confined with }⟩
  report := by
    rintro state _ token _ cause ⟨rfl, confined⟩ ⟨rfl, placed⟩ _
    exact ⟨rfl, confined.report placed cause⟩
  nest := by
    rintro state _ nesting deepest ⟨rfl, confined⟩
    exact ⟨rfl, { confined with }⟩

theorem parallel_confined (places : List Token) :
    ParallelUnits 2 (fun token other => token = other ∧ token.StandsAmong places) (fun _ => True) Eq
      (fun first second => first = second ∧ first.Confined places) where
  toParallel := (aligned_confined places).parallel
  nameless := rfl
  refl_key _ _ := rfl
  unit := by
    rintro state _ ⟨rfl, _⟩
    rfl
  withUnit := by
    rintro state _ unit ⟨rfl, confined⟩
    exact ⟨rfl, { confined with }⟩
  declare := by
    rintro state _ name _ create _ level ⟨rfl, confined⟩ ⟨rfl, placed⟩ _
    refine ⟨rfl, rfl, ?_⟩
    unfold Analysis.declare
    dsimp only
    split
    · exact { confined with }
    · exact confined.report placed _
  revise := by
    rintro state _ key _ operation ⟨rfl, confined⟩ rfl
    refine ⟨rfl, ?_⟩
    cases key with
    | none => exact confined
    | some declared => exact { confined with }
  returned := by
    rintro state _ name ⟨rfl, confined⟩ _
    refine ⟨rfl, ?_⟩
    unfold checkReturned
    rw [run_bind, run_ite]
    split
    · exact confined
    · exact confined.report confined.previous _

end State

/-- Every diagnostic stands where a token of the input or the end of input past it stands. -/
theorem standsAmong_of_mem_diagnostics {limit : Nat} {file : String} {tokens : List Token}
    {table : SymbolTable} {found : Diagnostic}
    (member : found ∈ (analyzeWithin limit file tokens table).diagnostics) :
    found.token.StandsAmong (State.sentinelAfter tokens :: tokens) := by
  have begun : (State.initial tokens table).Confined (State.sentinelAfter tokens :: tokens) :=
    ⟨fun token member => ⟨token, List.mem_cons_of_mem _ member, rfl, rfl⟩,
      ⟨_, List.mem_cons_self, rfl, rfl⟩, fun _ member => absurd member List.not_mem_nil⟩
  have parallel := State.parallel_confined (State.sentinelAfter tokens :: tokens)
  have finish := (State.aligned_confined (State.sentinelAfter tokens :: tokens)).tracks_finish
  have ended := ((parallel.tracks_sourceText (parallel.tracks_sentences limit) finish).tracks
    ⟨rfl, begun⟩ trivial).2.2
  obtain ⟨report, reported, rfl⟩ := List.mem_map.mp member
  exact ended.reports report (List.mem_reverse.mp reported)

/-! ## Spans in a source text -/

/-- Whether a token has a span depends on its place alone. -/
theorem Token.isSome_span_congr {token other : Token} (line_eq : token.line = other.line)
    (column_eq : token.column = other.column) (source : String) :
    (token.span source).isSome = (other.span source).isSome := by
  unfold Token.span
  rw [line_eq, column_eq]
  cases Span.lineOffset other.line source with
  | none => rfl
  | some base =>
      simp only [Option.bind_eq_bind, Option.bind_some]
      split <;> rfl

/-- Every token of a source text has a span in it. -/
theorem Source.isSome_span_of_mem_tokenize {source : String} {token : Token}
    (member : token ∈ tokenize source) : (token.span source).isSome = true := by
  obtain ⟨spans, spans_eq, -⟩ := (laid_tokenize source).exists_spans
  have inside : token.span source ∈ (tokenize source).map (·.span source) :=
    List.mem_map_of_mem member
  rw [spans_eq] at inside
  obtain ⟨span, -, found⟩ := List.mem_map.mp inside
  rw [← found]
  rfl

/-- The end of input past the last token of a source text lies outside the text. -/
theorem Source.span_sentinelAfter {source : String}
    (small : source.utf8ByteSize < Token.positionBound / 2) :
    (State.sentinelAfter (tokenize source)).span source = none := by
  have bound : Token.positionBound = 18446744073709551616 := rfl
  have shown : ("EOF").utf8ByteSize = 3 := rfl
  obtain ⟨base, lineStart, column, sum_eq⟩ := @Token.lineOffset_of_advance
    (.endOfInput (Position.start.advance source.toList).line
      (Position.start.advance source.toList).column) source source "" String.append_empty.symm rfl
  simp only [Token.endOfInput] at lineStart column sum_eq
  have beyond : Span.columnOffset source.utf8ByteSize base
      (((Position.start.advance source.toList).column + 3) % Token.positionBound) =
        source.utf8ByteSize + 3 := by
    rw [Nat.mod_eq_of_lt (by omega), Span.columnOffset]
    rw [if_neg (by omega), Nat.mod_eq_of_lt (by omega)]
    omega
  rw [State.sentinelAfter, Source.getLast?_tokenize]
  simp only [Token.endOfInput, Token.span, lineStart, shown, Option.bind_eq_bind,
    Option.bind_some, beyond]
  rw [if_pos (by omega)]

/-- Every diagnostic of a source text has a span in the text, unless it stands at
the end of input past the last token. That one has none. No text takes up more
than half of the numbers that a position may be. -/
theorem span_of_mem_diagnostics {file source : String}
    (small : source.utf8ByteSize < Token.positionBound / 2) {found : Diagnostic}
    (member : found ∈ (checkSource file source).diagnostics) :
    (∃ span, found.token.span source = some span ∧
      span.offset + span.length ≤ source.utf8ByteSize) ∨
    found.token.line = (State.sentinelAfter (Source.tokenize source)).line ∧
      found.token.column = (State.sentinelAfter (Source.tokenize source)).column ∧
      found.token.span source = none := by
  obtain ⟨place, inside, line_eq, column_eq⟩ := standsAmong_of_mem_diagnostics member
  have spans := Token.isSome_span_congr line_eq column_eq source
  rcases List.mem_cons.mp inside with rfl | inside
  · rw [Source.span_sentinelAfter small] at spans
    exact .inr ⟨line_eq, column_eq, by simpa using spans⟩
  · rw [Source.isSome_span_of_mem_tokenize inside] at spans
    obtain ⟨span, span_eq⟩ := Option.isSome_iff_exists.mp spans
    exact .inl ⟨span, span_eq, Token.end_le_of_span_eq_some span_eq⟩

/-- A program that ends where a device is expected. -/
def unfinishedProgram : String :=
  "PROGRAM-ID. P.\nPROCEDURE DIVISION.\nDISPLAY A UPON"

/-- The missing device is reported at the end of the text. -/
theorem span_unfinishedProgram :
    ∃ found ∈ (checkSource "end.cob" unfinishedProgram).diagnostics,
      unfinishedProgram.utf8ByteSize < Token.positionBound / 2 ∧ found.token.column = 15 ∧
        ((∃ span, found.token.span unfinishedProgram = some span ∧
            span.offset + span.length ≤ unfinishedProgram.utf8ByteSize) ∨
          found.token.line =
              (State.sentinelAfter (Source.tokenize unfinishedProgram)).line ∧
            found.token.column =
              (State.sentinelAfter (Source.tokenize unfinishedProgram)).column ∧
            found.token.span unfinishedProgram = none) := by
  have small : unfinishedProgram.utf8ByteSize < Token.positionBound / 2 := by decide +kernel
  have reported : (⟨"end.cob", .endOfInput 3 15,
      .expectedOneOf ["STANDARD-OUTPUT", "STANDARD-ERROR"]⟩ : Diagnostic) ∈
        (checkSource "end.cob" unfinishedProgram).diagnostics := by
    decide +kernel
  exact ⟨_, reported, small, rfl, span_of_mem_diagnostics small reported⟩

/-- The missing period after it is reported past the end of the text, where there is no span. -/
theorem exists_diagnostic_without_span :
    ∃ found ∈ (checkSource "end.cob" unfinishedProgram).diagnostics,
      found.token = State.sentinelAfter (Source.tokenize unfinishedProgram) ∧
        found.token.span unfinishedProgram = none := by
  decide +kernel

end CobolCheck
