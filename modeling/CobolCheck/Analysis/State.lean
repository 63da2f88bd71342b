import CobolCheck.Diagnostic

/-!
# The state of an analysis

An analysis reads its tokens from left to right and never goes back. What lies
behind the cursor is kept only as far as a later report may point there. Past
the end of the tokens stands an end of input without bound.
-/

namespace CobolCheck

/-- The state of an analysis. The lists `behind`, `output` and `reports` have
their latest element first. -/
structure State where
  /-- The tokens the cursor has passed. -/
  behind : List Token
  /-- The tokens from the cursor on. -/
  ahead : List Token
  /-- What is read past the last token. -/
  sentinel : Token
  /-- The canonical tokens accepted so far. -/
  output : List Token
  /-- What was reported so far. -/
  reports : List Report
  /-- The source unit that is being read. -/
  unit : SourceUnit
  /-- The data items declared so far. -/
  table : SymbolTable
  /-- How many nested statement sequences are open. -/
  nesting : Nat
  /-- The most that were ever open at once. -/
  deepest : Nat

namespace State

/-- The end of input that follows a list of tokens: it begins where the last
token ends. A column that does not fit wraps around. -/
def sentinelAfter (tokens : List Token) : Token :=
  match tokens.getLast? with
  | some last =>
      .endOfInput last.line ((last.column + last.value.utf8ByteSize) % Token.positionBound)
  | none => .endOfInput 1 1

/-- The state before the first of the given tokens. -/
def initial (tokens : List Token) (table : SymbolTable) : State where
  behind := []
  ahead := tokens
  sentinel := sentinelAfter tokens
  output := []
  reports := []
  unit := {}
  table := table
  nesting := 0
  deepest := 0

/-- All tokens, those the cursor has passed and those ahead. -/
def tokens (state : State) : List Token :=
  state.behind.reverse ++ state.ahead

@[simp]
theorem tokens_initial (tokens : List Token) (table : SymbolTable) :
    (initial tokens table).tokens = tokens :=
  rfl

/-! ## What lies around the cursor -/

/-- The token a number of places after the cursor. -/
def lookahead (state : State) (offset : Nat) : Token :=
  (state.ahead[offset]?).getD state.sentinel

/-- The token at the cursor. -/
def current (state : State) : Token :=
  state.lookahead 0

/-- The token before the cursor, or the first token if there is none. -/
def previous (state : State) : Token :=
  state.behind.head?.getD state.current

/-! ## Moving on -/

/-- Passes over the token at the cursor. At the end of the tokens the cursor stays. -/
def skip (state : State) : State :=
  match state.ahead with
  | [] => state
  | token :: rest => { state with behind := token :: state.behind, ahead := rest }

/-- Puts a token into the output. -/
def emit (token : Token) (state : State) : State :=
  { state with output := token :: state.output }

/-- Reports a cause at a token. -/
def report (token : Token) (cause : Cause) (state : State) : State :=
  { state with reports := ⟨token, cause⟩ :: state.reports }

@[simp]
theorem current_of_ahead_nil {state : State} (finished : state.ahead = []) :
    state.current = state.sentinel := by
  simp [current, lookahead, finished]

theorem current_of_ahead_cons {state : State} {token : Token} {rest : List Token}
    (next : state.ahead = token :: rest) : state.current = token := by
  simp [current, lookahead, next]

@[simp]
theorem ahead_skip (state : State) : state.skip.ahead = state.ahead.tail := by
  unfold skip
  split <;> simp_all

/-- Passing over a token loses none. -/
@[simp]
theorem tokens_skip (state : State) : state.skip.tokens = state.tokens := by
  unfold skip tokens
  split <;> simp_all

theorem skip_of_ahead_nil {state : State} (finished : state.ahead = []) :
    state.skip = state := by
  unfold skip
  split <;> simp_all

@[simp]
theorem ahead_emit (token : Token) (state : State) : (state.emit token).ahead = state.ahead :=
  rfl

@[simp]
theorem tokens_emit (token : Token) (state : State) : (state.emit token).tokens = state.tokens :=
  rfl

@[simp]
theorem ahead_report (token : Token) (cause : Cause) (state : State) :
    (state.report token cause).ahead = state.ahead :=
  rfl

@[simp]
theorem tokens_report (token : Token) (cause : Cause) (state : State) :
    (state.report token cause).tokens = state.tokens :=
  rfl

end State

end CobolCheck
