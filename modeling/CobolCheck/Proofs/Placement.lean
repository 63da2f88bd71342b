import CobolCheck.Check
import CobolCheck.Proofs.Division.Parallel

/-!
# Where tokens are written

The lines and columns of tokens are carried along, to the output, to the diagnostics and to
the items of the symbol table, but no decision is taken from them. So two analyses of token
lists that differ in their places alone go the same way, and what they leave behind differs
in places alone.

What is left of a value without the places in it is what its function `unplaced` gives.
-/

namespace CobolCheck

open Analysis

/-! ## Without places -/

/-- The cause without the line of the item that stands in the way of a duplicate. -/
def Cause.unplaced : Cause → Cause
  | .general (.duplicateItem first) => .general (.duplicateItem { first with line := 0 })
  | cause => cause

/-- The report without the places in it. -/
def Report.unplaced (report : Report) : Report :=
  ⟨report.token.unplaced, report.cause.unplaced⟩

/-- The diagnostic without the places in it. -/
def Diagnostic.unplaced (diagnostic : Diagnostic) : Diagnostic :=
  ⟨diagnostic.file, diagnostic.token.unplaced, diagnostic.cause.unplaced⟩

/-- The item without the line on which it is declared. -/
def Item.unplaced (item : Item) : Item :=
  { item with line := 0 }

/-- The entries of a symbol table without the lines of their items. -/
def SymbolTable.unplaced (table : SymbolTable) : List (SymbolKey × Item) :=
  table.entries.map (Prod.map id Item.unplaced)

/-- The end of the input is read past any tokens, somewhere. -/
theorem State.unplaced_sentinelAfter (tokens : List Token) :
    (sentinelAfter tokens).unplaced = .endOfInput 0 0 := by
  unfold sentinelAfter
  split <;> rfl

/-- No operation looks at the line of an item. -/
theorem Operation.unplaced_change (operation : Operation) (item : Item) :
    (operation.change item).unplaced = operation.change item.unplaced := by
  cases operation <;> rfl

namespace SymbolTable

theorem map_unplaced_get? (table : SymbolTable) (key : SymbolKey) :
    (table.get? key).map Item.unplaced = table.unplaced.lookup key := by
  rw [get?, unplaced]
  induction table.entries with
  | nil => rfl
  | cons entry rest ih =>
      obtain ⟨name, item⟩ := entry
      rw [List.map_cons, Prod.map_apply, id_eq, List.lookup_cons, List.lookup_cons]
      split
      · rfl
      · exact ih

theorem unplaced_update (table : SymbolTable) (key : SymbolKey) (operation : Operation) :
    (table.update key operation.change).unplaced =
      table.unplaced.map fun entry =>
        if entry.1 = key then (entry.1, operation.change entry.2) else entry := by
  rw [unplaced, unplaced, update, List.map_map, List.map_map]
  refine List.map_congr_left fun entry _ => ?_
  obtain ⟨name, item⟩ := entry
  simp only [Function.comp_apply, Prod.map_apply, id_eq]
  split
  · rw [Prod.map_apply, Operation.unplaced_change, id_eq]
  · rfl

theorem unplaced_of_add_eq_ok {table next : SymbolTable} {key : SymbolKey} {item : Item}
    (added : table.add key item = .ok next) :
    next.unplaced = table.unplaced ++ [(key, item.unplaced)] := by
  rw [unplaced, entries_of_add_eq_ok added, List.map_append]
  rfl

variable {table other : SymbolTable}

/-- Tables that differ in lines alone have the same items, up to their lines. -/
theorem get?_of_unplaced_eq (same : table.unplaced = other.unplaced) (key : SymbolKey) :
    (table.get? key).map Item.unplaced = (other.get? key).map Item.unplaced := by
  rw [map_unplaced_get?, map_unplaced_get?, same]

theorem contains_of_unplaced_eq (same : table.unplaced = other.unplaced) (key : SymbolKey) :
    table.contains key = other.contains key := by
  have found := congrArg Option.isSome (get?_of_unplaced_eq same key)
  rwa [Option.isSome_map, Option.isSome_map] at found

end SymbolTable

/-! ## Outcomes that differ in places -/

namespace Outcome

/-- Whether two outcomes differ in nothing but places. -/
structure SameButPlaces (first second : Outcome) : Prop where
  output_eq : first.output.map Token.unplaced = second.output.map Token.unplaced
  diagnostics_eq : first.diagnostics.map Diagnostic.unplaced =
    second.diagnostics.map Diagnostic.unplaced
  table_eq : first.table.unplaced = second.table.unplaced

/-- Whether and with what an analysis passes is seen in its diagnostics and its output. -/
theorem SameButPlaces.map_result_eq {first second : Outcome} (same : first.SameButPlaces second) :
    first.result.map (List.map Token.unplaced) = second.result.map (List.map Token.unplaced) := by
  have length_eq := congrArg List.length same.diagnostics_eq
  have isEmpty_eq : first.diagnostics.isEmpty = second.diagnostics.isEmpty := by
    rw [← List.isEmpty_map, same.diagnostics_eq, List.isEmpty_map]
  rw [List.length_map, List.length_map] at length_eq
  rw [result, result, isEmpty_eq, length_eq]
  split
  · rw [Except.map, Except.map, same.output_eq]
  · rfl

end Outcome

/-! ## States that differ in places -/

namespace State

/-- Whether two states differ in nothing but places. -/
structure SameButPlaces (first second : State) : Prop where
  behind_eq : first.behind.map Token.unplaced = second.behind.map Token.unplaced
  ahead_eq : first.ahead.map Token.unplaced = second.ahead.map Token.unplaced
  sentinel_eq : first.sentinel.unplaced = second.sentinel.unplaced
  output_eq : first.output.map Token.unplaced = second.output.map Token.unplaced
  reports_eq : first.reports.map Report.unplaced = second.reports.map Report.unplaced
  unit_eq : first.unit = second.unit
  table_eq : first.table.unplaced = second.table.unplaced
  nesting_eq : first.nesting = second.nesting
  deepest_eq : first.deepest = second.deepest

/-- The token ahead at an offset is there without its place too. -/
theorem unplaced_lookahead (state : State) (offset : Nat) :
    (state.lookahead offset).unplaced =
      ((state.ahead.map Token.unplaced)[offset]?).getD state.sentinel.unplaced := by
  rw [lookahead, List.getElem?_map, Option.getD_map]

theorem unplaced_previous (state : State) :
    state.previous.unplaced =
      (state.behind.map Token.unplaced).head?.getD state.current.unplaced := by
  rw [previous, List.head?_map, Option.getD_map]

/-- The words ahead are the same without their places. -/
theorem map_value_unplaced (tokens : List Token) :
    (tokens.map Token.unplaced).map Token.value = tokens.map Token.value := by
  rw [List.map_map]
  rfl

namespace SameButPlaces

variable {first second : State}

theorem lookahead (same : first.SameButPlaces second) (offset : Nat) :
    (first.lookahead offset).unplaced = (second.lookahead offset).unplaced := by
  rw [unplaced_lookahead, unplaced_lookahead, same.ahead_eq, same.sentinel_eq]

theorem current (same : first.SameButPlaces second) :
    first.current.unplaced = second.current.unplaced :=
  same.lookahead 0

theorem previous (same : first.SameButPlaces second) :
    first.previous.unplaced = second.previous.unplaced := by
  rw [unplaced_previous, unplaced_previous, same.behind_eq, same.current]

theorem remaining_eq (same : first.SameButPlaces second) : remaining first = remaining second := by
  have length_eq := congrArg List.length same.ahead_eq
  rwa [List.length_map, List.length_map] at length_eq

theorem reading_eq (same : first.SameButPlaces second) (afterOperand : Bool) :
    (reading afterOperand first).1 = (reading afterOperand second).1 := by
  have words : first.ahead.map Token.value = second.ahead.map Token.value := by
    rw [← map_value_unplaced, same.ahead_eq, map_value_unplaced]
  have here := (Token.unplaced_eq_iff.mp same.current).1
  rw [reading, reading, List.map_take, List.map_drop, List.map_take, List.map_drop, words, here]

theorem skip (same : first.SameButPlaces second) : first.skip.SameButPlaces second.skip := by
  have ahead_eq := same.ahead_eq
  cases next : first.ahead with
  | nil =>
      rw [next, List.map_nil] at ahead_eq
      rw [skip_of_ahead_nil next, skip_of_ahead_nil (List.map_eq_nil_iff.mp ahead_eq.symm)]
      exact same
  | cons token rest =>
      rw [next] at ahead_eq
      obtain ⟨other, others, also, token_eq, rest_eq⟩ := List.map_eq_cons_iff.mp ahead_eq.symm
      rw [skip_of_ahead_cons next, skip_of_ahead_cons also]
      exact { same with
        behind_eq := by rw [List.map_cons, List.map_cons, token_eq, same.behind_eq]
        ahead_eq := rest_eq.symm }

theorem emit (same : first.SameButPlaces second) {token other : Token}
    (tokens : token.unplaced = other.unplaced) :
    (first.emit token).SameButPlaces (second.emit other) :=
  { same with
    output_eq := by
      rw [State.emit, State.emit, List.map_cons, List.map_cons, tokens, same.output_eq] }

theorem report (same : first.SameButPlaces second) {token other : Token}
    (tokens : token.unplaced = other.unplaced) {cause reason : Cause}
    (causes : cause.unplaced = reason.unplaced) :
    (first.report token cause).SameButPlaces (second.report other reason) :=
  { same with
    reports_eq := by
      rw [State.report, State.report, List.map_cons, List.map_cons, Report.unplaced,
        Report.unplaced, tokens, causes, same.reports_eq] }

/-- An item is declared in both states, or stands in the way of itself in both. -/
theorem declare (same : first.SameButPlaces second) {name other : Token}
    (names : name.unplaced = other.unplaced) {item partner : Item}
    (items : item.unplaced = partner.unplaced) :
    (Analysis.declare name item first).1 = (Analysis.declare other partner second).1 ∧
      (Analysis.declare name item first).2.SameButPlaces
        (Analysis.declare other partner second).2 := by
  have value_eq := (Token.unplaced_eq_iff.mp names).1
  have entered : ({ item with inSection := first.unit.currentSection } : Item).unplaced =
      ({ partner with inSection := first.unit.currentSection } : Item).unplaced :=
    congrArg (fun found : Item => { found with inSection := first.unit.currentSection }) items
  have found := SymbolTable.get?_of_unplaced_eq same.table_eq (first.unit.key name.value)
  unfold Analysis.declare
  dsimp only
  rw [← same.unit_eq, ← value_eq]
  cases present : first.table.get? (first.unit.key name.value) with
  | some existing =>
      rw [present, Option.map_some, eq_comm, Option.map_eq_some_iff] at found
      obtain ⟨standing, also, alike⟩ := found
      rw [SymbolTable.add_of_get?_eq_some present, SymbolTable.add_of_get?_eq_some also]
      have identifier_eq : existing.identifier = standing.identifier :=
        (congrArg Item.identifier alike).symm
      refine ⟨rfl, same.report names ?_⟩
      rw [Cause.unplaced, Cause.unplaced, identifier_eq]
  | none =>
      rw [present, Option.map_none, eq_comm, Option.map_eq_none_iff] at found
      obtain ⟨table, added⟩ := SymbolTable.exists_add_of_get?_eq_none present
        { item with inSection := first.unit.currentSection }
      obtain ⟨grown, also⟩ := SymbolTable.exists_add_of_get?_eq_none found
        { partner with inSection := first.unit.currentSection }
      rw [added, also]
      refine ⟨rfl, { same with unit_eq := rfl, table_eq := ?_ }⟩
      dsimp only
      rw [SymbolTable.unplaced_of_add_eq_ok added, SymbolTable.unplaced_of_add_eq_ok also,
        same.table_eq, entered]

theorem reviseBy (same : first.SameButPlaces second) (key : Option SymbolKey)
    (operation : SymbolKey → Operation) :
    (Analysis.reviseBy key operation first).2.SameButPlaces
      (Analysis.reviseBy key operation second).2 := by
  cases key with
  | none => exact same
  | some declared =>
      refine { same with table_eq := ?_ }
      change (first.table.update declared (operation declared).change).unplaced =
        (second.table.update declared (operation declared).change).unplaced
      rw [SymbolTable.unplaced_update, SymbolTable.unplaced_update, same.table_eq]

theorem checkReturned (same : first.SameButPlaces second) (name : String) :
    (Analysis.checkReturned name first).2.SameButPlaces
      (Analysis.checkReturned name second).2 := by
  unfold Analysis.checkReturned
  rw [run_bind, run_bind, run_ite, run_ite]
  dsimp only
  rw [same.unit_eq, SymbolTable.contains_of_unplaced_eq same.table_eq]
  split
  · exact same
  · exact same.report same.previous rfl

end SameButPlaces

/-! ## Runs side by side -/

/-- Runs that differ in places alone see the same tokens, up to their places. -/
theorem aligned_sameButPlaces :
    Aligned (fun token other => token.unplaced = other.unplaced) (fun _ => True)
      SameButPlaces where
  alike := Token.unplaced_eq_iff.mp
  recast _ _ _ _ := rfl
  refl _ _ := rfl
  before _ _ := trivial
  lookahead same _ := same.lookahead _
  reading afterOperand same := same.reading_eq afterOperand
  previous same := same.previous
  moved same further := by
    rw [same.remaining_eq, further.remaining_eq]
  skip same _ := same.skip
  emit same tokens := same.emit tokens
  report _ same tokens _ := same.report tokens rfl
  nest nesting deepest same :=
    { same with
      nesting_eq := by simp only [same.nesting_eq, same.deepest_eq]
      deepest_eq := by simp only [same.nesting_eq, same.deepest_eq] }

theorem parallel_sameButPlaces :
    ParallelUnits 2 (fun token other => token.unplaced = other.unplaced) (fun _ => True) Eq
      SameButPlaces where
  toParallel := aligned_sameButPlaces.parallel
  nameless := rfl
  refl_key _ _ := rfl
  unit same := same.unit_eq
  withUnit _ same := { same with unit_eq := rfl }
  declare {first second name other create} creates level same names _ := by
    refine same.declare names ?_
    have value_eq := (Token.unplaced_eq_iff.mp names).1
    -- an item is made from the text of its name, and the line of the name is forgotten
    rcases creates with rfl | rfl
    · rw [Item.unplaced, Item.unplaced, Item.storage, Item.storage, value_eq]
    · rw [Item.unplaced, Item.unplaced, Item.constant, Item.constant, value_eq]
  revise operation same keys := by
    subst keys
    exact same.reviseBy _ operation
  returned name same _ := same.checkReturned name

/-- What two such states say of a file differs in places alone. -/
theorem SameButPlaces.outcome {first second : State} (same : first.SameButPlaces second)
    (file : String) : (first.outcome file).SameButPlaces (second.outcome file) where
  output_eq := by
    rw [State.outcome, State.outcome, List.map_reverse, List.map_reverse, same.output_eq]
  diagnostics_eq := by
    have shown : ∀ state : State, (state.outcome file).diagnostics.map Diagnostic.unplaced =
        (state.reports.map Report.unplaced).reverse.map (Report.inFile file) := by
      intro state
      rw [State.outcome, List.map_map, ← List.map_reverse, List.map_map]
      rfl
    rw [shown, shown, same.reports_eq]
  table_eq := same.table_eq

end State

/-! ## Analyses of a file -/

/-- Where tokens are written makes no difference to an analysis but for the places that it
tells. From token lists and tables that differ in places alone, one analysis passes if the
other one does, and their outputs, their diagnostics and their tables differ in places alone. -/
theorem analyze_of_places (file : String) {tokens others : List Token} {table other : SymbolTable}
    (sameTokens : tokens.map Token.unplaced = others.map Token.unplaced)
    (sameTable : table.unplaced = other.unplaced) :
    (analyze file tokens table).result.map (List.map Token.unplaced) =
        (analyze file others other).result.map (List.map Token.unplaced) ∧
      (analyze file tokens table).output.map Token.unplaced =
        (analyze file others other).output.map Token.unplaced ∧
      (analyze file tokens table).diagnostics.map Diagnostic.unplaced =
        (analyze file others other).diagnostics.map Diagnostic.unplaced ∧
      (analyze file tokens table).table.unplaced = (analyze file others other).table.unplaced := by
  have begun : (State.initial tokens table).SameButPlaces (.initial others other) :=
    { behind_eq := rfl
      ahead_eq := sameTokens
      sentinel_eq := by
        rw [State.initial, State.initial, State.unplaced_sentinelAfter,
          State.unplaced_sentinelAfter]
      output_eq := rfl
      reports_eq := rfl
      unit_eq := rfl
      table_eq := sameTable
      nesting_eq := rfl
      deepest_eq := rfl }
  have parallel := State.parallel_sameButPlaces
  have ended := ((parallel.tracks_sourceText (parallel.tracks_sentences maxNesting)
    State.aligned_sameButPlaces.tracks_finish).tracks begun trivial).2
  have same := ended.outcome file
  exact ⟨same.map_result_eq, same.output_eq, same.diagnostics_eq, same.table_eq⟩

/-- A program that declares an item twice. -/
def duplicateProgram : String :=
  "PROGRAM-ID. A. DATA DIVISION. WORKING-STORAGE SECTION. 01 X PIC 9(4). 01 X PIC 9(2).
PROCEDURE DIVISION."

/-- The tokens of the program, as if they all stood in one place. -/
def duplicateTokens : List Token :=
  (Source.tokenize duplicateProgram).map fun token => { token with line := 7, column := 1 }

/-- In whatever places its tokens stand, the program is refused for the same, with another
line for the item that is declared first. -/
theorem analyze_of_duplicateTokens :
    duplicateTokens.map Token.unplaced =
        (Source.tokenize duplicateProgram).map Token.unplaced ∧
      (analyze "a.cob" duplicateTokens .empty).diagnostics.map Diagnostic.cause =
        [.general (.duplicateItem ⟨"X", 7⟩)] ∧
      (analyze "a.cob" (Source.tokenize duplicateProgram) .empty).diagnostics.map
        Diagnostic.cause = [.general (.duplicateItem ⟨"X", 1⟩)] ∧
      (analyze "a.cob" duplicateTokens .empty).table.unplaced =
        (analyze "a.cob" (Source.tokenize duplicateProgram) .empty).table.unplaced := by
  have same : duplicateTokens.map Token.unplaced =
      (Source.tokenize duplicateProgram).map Token.unplaced := by
    rw [duplicateTokens, List.map_map]
    rfl
  have empty : SymbolTable.empty.unplaced = SymbolTable.empty.unplaced := rfl
  have agree := analyze_of_places "a.cob" same empty
  exact ⟨same, by decide +kernel, by decide +kernel, agree.2.2.2⟩

end CobolCheck
