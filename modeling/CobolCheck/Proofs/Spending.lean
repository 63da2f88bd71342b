import CobolCheck.Check
import CobolCheck.Proofs.Division.Further
import CobolCheck.Proofs.Statement.Spending

/-!
# The number of diagnostics

A source text is reported no more often than 64 times for each of its tokens.
Every entry and clause, every section and every source unit passes over a token
before anything else, and that pays for the reports it makes once. What they
consist of is repeated at no cost.
-/

namespace CobolCheck

open Analysis State

namespace Analysis

/-! ## Clauses -/

theorem prompt_revise (key : Option SymbolKey) (operation : Operation) :
    Costs (Prompt 0) (revise key operation) := by
  intro state _
  cases key with
  | none => exact prompt_of_eq state state rfl rfl rfl
  | some key => exact prompt_of_eq state (revise (some key) operation state).2 rfl rfl rfl

theorem prompt_declare (name : Token) (item : Item) : Costs (Prompt 1) (declare name item) := by
  intro state _
  unfold declare
  dsimp only
  split
  · next table _ =>
    exact (prompt_of_eq state { state with table := table } rfl rfl rfl).mono (Nat.zero_le 1)
  · exact State.prompt_report _ _ _

theorem pays_externalClause (key : Option SymbolKey) : Costs (Pays 2) (externalClause key) := by
  refine pays_last (m := 0) (n := 2) (prompt_optional "IS") fun _ => ?_
  refine pays_first (m := 1) (n := 1) (pays_expect "EXTERNAL") fun _ => ?_
  refine spends_bind (m := 0) (n := 1) (prompt_optional "AS").spends fun as => ?_
  refine costs_ite _ (costs_choice ?_ ?_) ?_
  · refine spends_bind (m := 0) (n := 1) (prompt_look _).spends fun name => ?_
    have revised := spends_bind pays_accept.prompt.spends fun _ =>
      (prompt_revise key (.setExternal (unquote name))).spends
    exact spends_mono revised (Nat.zero_le 1)
  · exact spends_bind (prompt_reportBefore _).spends fun _ => pays_skip.prompt.spends
  · cases key with
    | none => exact spends_mono (prompt_pure ()).spends (Nat.zero_le 1)
    | some declared => exact spends_mono (prompt_revise _ _).spends (Nat.zero_le 1)

theorem pays_globalClause (key : Option SymbolKey) : Costs (Pays 1) (globalClause key) :=
  pays_last (prompt_optional "IS") fun _ =>
    pays_first (pays_expect "GLOBAL") fun _ => (prompt_revise key _).spends

theorem spends_pictureTypeCode (key : Option SymbolKey) :
    Costs (Spends 1) (pictureTypeCode key) := by
  refine spends_bind (m := 0) (n := 1) (prompt_look _).spends fun code => ?_
  split
  · refine spends_mono ?_ (Nat.zero_le 1)
    exact spends_bind pays_accept.prompt.spends fun _ =>
      spends_bind (prompt_revise key _).spends fun _ => (prompt_pure _).spends
  · exact spends_bind (prompt_reportHere _).spends fun _ =>
      spends_bind pays_skip.prompt.spends fun _ => (prompt_pure _).spends

theorem spends_digitCount : Costs (Spends 3) digitCount :=
  spends_bind (pays_expect "(").prompt.spends fun _ =>
    spends_bind (prompt_look _).spends fun _ =>
      spends_bind (pays_operand _ _).prompt.spends fun _ =>
        spends_bind (pays_expect ")").prompt.spends fun _ => (prompt_pure _).spends

theorem pays_pictureClause (key : Option SymbolKey) : Costs (Pays 9) (pictureClause key) := by
  refine pays_first (m := 1) (n := 8) (pays_choose _ none) fun _ => ?_
  refine spends_bind (m := 0) (n := 8) (prompt_optional "IS").spends fun _ => ?_
  refine spends_bind (m := 1) (n := 7) (spends_pictureTypeCode key) fun type => ?_
  refine spends_bind (m := 3) (n := 4) spends_digitCount fun digits => ?_
  have scaled : Costs (Spends 3) (do
      accept
      let scale ← digitCount
      revise key (.setPictureLength (digits ++ "V" ++ scale))) :=
    spends_bind pays_accept.prompt.spends fun _ =>
      spends_bind spends_digitCount fun scale => (prompt_revise key _).spends
  refine costs_choice ?_ (spends_mono (prompt_revise key _).spends (Nat.zero_le 4))
  exact costs_ite _ (spends_bind (prompt_reportHere _).spends fun _ => scaled)
    (spends_mono scaled (Nat.le_succ 3))

theorem pays_valueClause (key : Option SymbolKey) : Costs (Pays 2) (valueClause key) := by
  refine pays_first (m := 1) (n := 1) (pays_expect "VALUE") fun _ => costs_choice ?_ ?_
  · refine spends_mono ?_ (Nat.zero_le 1)
    exact spends_bind (prompt_look _).spends fun value =>
      spends_bind (prompt_revise key _).spends fun _ => pays_accept.prompt.spends
  · exact spends_bind (prompt_reportHere _).spends fun _ =>
      costs_choice (prompt_pure _).spends pays_skip.prompt.spends

/-- A clause pays for itself by its first word. -/
theorem pays_clause (key : Option SymbolKey) : Costs (Pays 9) (clause key) := by
  have told {analysis : Analysis Unit} {cost : Nat} (pays : Costs (Pays cost) analysis)
      (enough : cost ≤ 9) (picture : Bool) : Costs (Pays 9) (analysis >>= fun _ => pure picture) :=
    pays_mono (pays_first pays fun _ => (prompt_pure picture).spends) enough
  refine pays_last (m := 0) (n := 9)
    (costs_choice (prompt_look _) (prompt_look _)) fun text => ?_
  split
  · exact told (pays_externalClause key) (by decide) false
  · exact told (pays_globalClause key) (by decide) false
  · exact pays_last (prompt_optional "IS") fun _ => told (pays_expect "TYPEDEF") (by decide) false
  · have based := pays_first pays_accept fun _ => (prompt_revise key .setBased).spends
    exact told based (by decide) false
  · exact told (pays_pictureClause key) (by decide) true
  · exact told (pays_pictureClause key) (by decide) true
  · exact told (pays_valueClause key) (by decide) false
  · have lone := pays_last (prompt_reportHere (.general .loneIs)) fun _ => pays_skip
    exact told lone (by decide) false
  · exact told pays_accept (by decide) false

theorem spends_clauses (key : Option SymbolKey) : Costs (Spends 0) (clauses key) := by
  have round (picture : Bool) : Costs (Spends 0) (clauseRound key picture) :=
    spends_ask (show Test.clause.failsAtEnd = true from rfl)
      (pays_first (pays_clause key) fun found => (prompt_pure (some (picture || found))).spends)
      (by decide) (prompt_pure none).spends
  exact spends_loop_same round false

/-! ## Entries -/

theorem pays_entryHeader (create : String → Nat → Nat → Item) :
    Costs (Pays 3) (entryHeader create) := by
  refine pays_last (m := 0) (n := 3) (prompt_look _) fun text => ?_
  refine pays_first (m := 1) (n := 2) (pays_operand _ _) fun _ => ?_
  refine spends_bind (m := 0) (n := 2) (prompt_look State.current).spends fun name => ?_
  refine spends_bind (m := 1) (n := 1) (pays_operand _ _).prompt.spends fun named => ?_
  exact costs_ite _ (prompt_declare _ _).spends (spends_mono (prompt_pure _).spends (Nat.zero_le 1))

theorem spends_entryPeriod : Costs (Spends 1) entryPeriod :=
  (pays_expectOr _ _).prompt.spends

theorem pays_storageEntry : Costs (Pays 5) storageEntry := by
  refine pays_first (m := 3) (n := 2) (pays_entryHeader _) fun key => ?_
  have rest : Costs (Spends 1) (do
      let picture ← clauses key
      revise key (.setShape (if picture then .elementary else .group))
      entryPeriod) :=
    spends_bind (spends_clauses key) fun picture =>
      spends_bind (prompt_revise key _).spends fun _ => spends_entryPeriod
  refine costs_choice (spends_mono rest (Nat.le_succ 1)) ?_
  exact spends_bind (prompt_look State.current).spends fun token =>
    spends_bind (prompt_reportHere _).spends fun _ =>
      spends_bind pays_skip.prompt.spends fun _ => rest

theorem spends_constantValue : Costs (Spends 3) constantValue := by
  refine spends_bind (m := 0) (n := 3) (prompt_optional "FROM").spends fun named => ?_
  refine costs_ite _ ?_ ?_
  · refine spends_mono ?_ (show 1 ≤ 3 by decide)
    exact spends_bind (prompt_look _).spends fun name =>
      spends_bind (pays_operand _ _).prompt.spends fun found =>
        costs_ite _ (prompt_pure _).spends (prompt_pure _).spends
  · have lengthOf (kind : String) : Costs (Spends 1) (do
        if ← optional kind then
          discard <| optional "OF"
          discard identifier) := by
      refine spends_bind (m := 0) (n := 1) (prompt_optional kind).spends fun found => ?_
      refine costs_ite _ ?_ (spends_mono (prompt_pure ()).spends (Nat.zero_le 1))
      exact spends_bind (prompt_optional "OF").spends fun _ => (pays_operand _ _).prompt.spends
    refine spends_bind (m := 0) (n := 3) (prompt_optional "AS").spends fun _ => ?_
    refine spends_bind (m := 0) (n := 3) (prompt_look _).spends fun literal => ?_
    refine spends_bind (m := 0) (n := 3) (prompt_look _).spends fun known => ?_
    have rest : Costs (Spends 2) (["LENGTH", "BYTE-LENGTH"].forM (fun kind => do
          if ← optional kind then
            discard <| optional "OF"
            discard identifier) >>= fun _ =>
        pure (if known then some (ConstantValue.literal literal) else none)) :=
      spends_bind (spends_forM lengthOf ["LENGTH", "BYTE-LENGTH"]) fun _ => (prompt_pure _).spends
    refine costs_ite _ (spends_bind (n := 3) pays_accept.prompt.spends fun _ =>
      spends_mono rest (Nat.le_succ 2)) ?_
    refine spends_bind (m := 1) (n := 2) (prompt_reportHere _).spends fun _ => ?_
    exact costs_choice rest (spends_bind pays_skip.prompt.spends fun _ => rest)

theorem spends_constantEnd (key : Option SymbolKey) : Costs (Spends 4) (constantEnd key) := by
  refine spends_bind (m := 3) (n := 1) spends_constantValue fun value => ?_
  cases value with
  | none => exact spends_entryPeriod
  | some value => exact spends_bind (prompt_revise key _).spends fun _ => spends_entryPeriod

theorem pays_constantEntry : Costs (Pays 10) constantEntry := by
  have rest : Costs (Pays 9) (entryHeader Item.constant >>= fun key => do
      expect "CONSTANT"
      if ← ask (.isAny ["IS", "GLOBAL"]) then globalClause key
      constantEnd key) := by
    refine pays_first (m := 3) (n := 6) (pays_entryHeader _) fun key => ?_
    refine spends_bind (m := 1) (n := 5) (pays_expect _).prompt.spends fun _ => ?_
    refine costs_choice ?_ (spends_mono (spends_constantEnd key) (Nat.le_succ 4))
    exact spends_bind (pays_globalClause key).prompt.spends fun _ => spends_constantEnd key
  exact costs_choice (pays_mono rest (Nat.le_succ 9))
    (pays_last (prompt_reportHere _) fun _ => rest)

theorem pays_recordEntries : Costs (Pays 5) recordEntries :=
  pays_first pays_storageEntry fun _ => spends_whilst rfl pays_storageEntry (by decide)

/-- An entry pays for itself by its level number. -/
theorem pays_entries : Costs (Pays 10) entries := by
  refine costs_choice pays_constantEntry ?_
  refine costs_choice (pays_mono pays_storageEntry (by decide)) ?_
  refine costs_choice (pays_mono pays_recordEntries (by decide)) ?_
  exact pays_mono (pays_last (prompt_reportHere _) fun _ => pays_storageEntry) (by decide)

/-! ## The data division -/

theorem pays_divisionHeader (division : Division) : Costs (Pays 3) (divisionHeader division) :=
  pays_first (pays_expect _) fun _ => spends_bind (pays_expect _).prompt.spends fun _ =>
    (pays_expectOr _ _).prompt.spends

/-- A section pays for itself by its header. -/
theorem pays_dataSection (kind : DataSection) : Costs (Pays 3) (dataSection kind) := by
  have began : Costs (Prompt 0) (beginSection kind) := fun state _ =>
    prompt_of_eq state (beginSection kind state).2 rfl rfl rfl
  refine pays_last (m := 0) (n := 3) began fun _ => ?_
  exact pays_first (pays_expect _) fun _ => spends_bind (pays_expect _).prompt.spends fun _ =>
    spends_bind (pays_expect _).prompt.spends fun _ =>
      spends_whilst rfl pays_entries (by decide)

theorem pays_dataDivision : Costs (Pays 4) dataDivision := by
  have sectionIfAny (kind : DataSection) : Costs (Spends 0) (do
      if ← ask (.is kind.keyword) then dataSection kind) := by
    have fails : (Test.is kind.keyword).failsAtEnd = true := by
      cases kind <;> rfl
    exact spends_ask fails (pays_dataSection kind) (by decide) (prompt_pure ()).spends
  refine pays_first (m := 3) (n := 1) (pays_divisionHeader .data) fun _ => ?_
  refine spends_bind (m := 0) (n := 1) (spends_forM sectionIfAny DataSection.all) fun _ => ?_
  refine costs_choice (spends_mono (prompt_pure ()).spends (Nat.zero_le 1)) ?_
  exact spends_bind (prompt_reportHere _).spends fun _ => pays_skip.prompt.spends

/-! ## The procedure division -/

theorem spends_returningItem : Costs (Spends 2) returningItem := by
  refine costs_choice ?_ (spends_mono (prompt_reportBefore _).spends (Nat.le_succ 1))
  refine spends_bind (m := 0) (n := 2) (prompt_look _).spends fun name => ?_
  refine spends_bind (m := 1) (n := 1) (pays_operand _ _).prompt.spends fun _ => ?_
  refine spends_bind (m := 0) (n := 1) (prompt_look _).spends fun declared => ?_
  exact costs_ite _ (spends_mono (prompt_pure ()).spends (Nat.zero_le 1))
    (prompt_reportBefore _).spends

theorem pays_procedureHeader : Costs (Pays 6) procedureHeader := by
  have period : Costs (Spends 1) (expectOr "." (.headerPeriod .procedure)) :=
    (pays_expectOr _ _).prompt.spends
  have returned := spends_bind spends_returningItem fun _ => period
  refine pays_first (m := 1) (n := 5) (pays_expect _) fun _ => ?_
  refine spends_bind (m := 1) (n := 4) (pays_expect _).prompt.spends fun _ => ?_
  refine spends_bind (m := 0) (n := 4) (prompt_look State.unit).spends fun unit => ?_
  dsimp only
  split
  · exact spends_bind (pays_expect _).prompt.spends fun _ => returned
  · refine spends_bind (m := 0) (n := 4) (prompt_optional _).spends fun named => ?_
    exact costs_ite _ (spends_mono returned (by decide)) (spends_mono period (by decide))

theorem prompt_paragraphHeader : Costs (Prompt 0) paragraphHeader :=
  costs_choice (prompt_bind (prompt_acceptMany 2) fun _ => prompt_pure true)
    (costs_choice (prompt_bind (prompt_acceptMany 3) fun _ => prompt_pure true)
      (prompt_pure false))

theorem spends_procedureBody (limit : Nat) : Costs (Spends 0) (procedureBody limit) := by
  have round (_ : Unit) : Costs (Spends 0) (headerRound limit) :=
    spends_bind (spends_sentences limit) fun _ =>
      spends_bind prompt_paragraphHeader.spends fun found =>
        costs_ite _ (prompt_pure _).spends (prompt_pure _).spends
  exact spends_loop_same round ()

theorem spends_unitEndMarker (unit : SourceUnit) : Costs (Spends 5) (unitEndMarker unit) := by
  refine spends_bind (m := 1) (n := 4) (pays_expect _).prompt.spends fun _ => ?_
  refine spends_bind (m := 1) (n := 3) (pays_expect _).prompt.spends fun _ => ?_
  refine spends_bind (m := 0) (n := 3) (prompt_look _).spends fun name => ?_
  refine spends_bind (m := 0) (n := 3) (prompt_look _).spends fun named => ?_
  have rest : Costs (Spends 2) (do
      discard identifier
      expectOr "." (.endMarkerPeriod unit.kind)) :=
    spends_bind (pays_operand _ _).prompt.spends fun _ => (pays_expectOr _ _).prompt.spends
  exact costs_ite _ (spends_bind (prompt_reportHere _).spends fun _ => rest)
    (spends_mono rest (Nat.le_succ 2))

theorem pays_procedureDivision (limit : Nat) : Costs (Pays 11) (procedureDivision limit) := by
  refine pays_first (m := 6) (n := 5) pays_procedureHeader fun _ => ?_
  refine spends_bind (m := 0) (n := 5) (spends_procedureBody limit) fun _ => ?_
  refine spends_bind (m := 0) (n := 5) (prompt_look State.unit).spends fun unit => ?_
  refine costs_choice (spends_mono (prompt_reportBefore _).spends (by decide)) ?_
  have marker := spends_unitEndMarker unit
  refine costs_ite _ marker (costs_choice marker ?_)
  exact spends_mono (prompt_pure ()).spends (by decide)

/-! ## Source units -/

theorem pays_unitParagraph (kind : UnitKind) : Costs (Pays 3) (unitParagraph kind) := by
  have began (unit : SourceUnit) : Costs (Spends 0) (beginUnit unit) := fun state _ =>
    (prompt_of_eq state (beginUnit unit state).2 rfl rfl rfl).toSpends
  exact pays_first pays_accept fun _ => spends_bind (pays_expect _).prompt.spends fun _ =>
    spends_bind (prompt_look _).spends fun named => spends_bind (prompt_look _).spends fun name =>
      spends_bind (began _) fun _ => spends_bind (pays_operand _ _).prompt.spends fun _ =>
        (pays_expect _).prompt.spends

theorem prompt_identification : Costs (Prompt 6) identification := by
  have unnamed : Costs (Prompt 1) (do beginUnit {}; reportHere (.general .missingUnitName)) :=
    prompt_bind (fun state _ => prompt_of_eq state (beginUnit {} state).2 rfl rfl rfl)
      fun _ => prompt_reportHere _
  have named : Costs (Prompt 3) (do
      if ← ask (.is "PROGRAM-ID") then unitParagraph .program
      else if ← ask (.is "FUNCTION-ID") then unitParagraph .function
      else
        beginUnit {}
        reportHere (.general .missingUnitName)) :=
    costs_choice (pays_unitParagraph _).prompt
      (costs_choice (pays_unitParagraph _).prompt (prompt_mono unnamed (by decide)))
  exact costs_choice (prompt_bind (pays_divisionHeader _).prompt fun _ => named)
    (prompt_mono named (by decide))

/-- A source unit pays for itself by its first word. -/
theorem pays_sourceUnit (limit : Nat) : Costs (Pays 24) (sourceUnit limit) := by
  have procedure := pays_procedureDivision limit
  have divisions : Costs (Pays 15) (do
      if ← ask (.is "DATA") then dataDivision
      procedureDivision limit) :=
    costs_choice (pays_last pays_dataDivision.prompt fun _ => procedure)
      (pays_mono procedure (by decide))
  refine pays_last (m := 6) (n := 18) prompt_identification fun _ => ?_
  exact costs_choice (pays_last (pays_divisionHeader _).prompt fun _ => divisions)
    (pays_mono divisions (by decide))

theorem spends_sourceUnits (limit : Nat) : Costs (Spends 0) (sourceUnits limit) := by
  have unit : Costs (Pays 24) (do
      sourceUnit limit
      if ← ask .unitStart then return some () else return none) :=
    pays_first (pays_sourceUnit limit) fun _ =>
      costs_choice (prompt_pure _).spends (prompt_pure _).spends
  have round (_ : Unit) : Costs (Spends 0) (nextUnit limit) := by
    intro state ended
    rw [nextUnit, run_bind, run_ask]
    dsimp only
    split
    · exact .refl state
    · next inside =>
      exact (unit state ended).spends (by decide) fun finished => inside (ended.holds_eof finished)
  exact spends_loop_same round ()

theorem spends_leftover : Costs (Spends 1) leftover := by
  refine costs_choice (spends_mono (prompt_pure ()).spends (Nat.zero_le 1)) ?_
  exact spends_bind (n := 0) (prompt_reportHere _).spends fun _ =>
    spends_whilst rfl pays_skip (by decide)

theorem spends_sourceText (limit : Nat) : Costs (Spends 1) (sourceText limit) := by
  refine spends_bind (m := 0) (n := 1) (spends_sourceUnits limit) fun _ => ?_
  refine spends_bind (m := 1) (n := 0) spends_leftover fun _ => ?_
  exact fun state _ => (prompt_of_eq state (state.emit state.current) rfl rfl rfl).toSpends

end Analysis

/-- There are at most 64 diagnostics for each token, and 64 besides. -/
theorem length_diagnostics_le (file : String) (tokens : List Token) (table : SymbolTable) :
    (analyze file tokens table).diagnostics.length ≤ 64 * (tokens.length + 1) := by
  have spends := (spends_sourceText maxNesting _ (ended_initial tokens table)).expense_le
  have initial : (State.initial tokens table).expense = 64 * tokens.length := by
    rw [expense, remaining]
    exact Nat.zero_add _
  rw [initial, expense] at spends
  rw [analyze, analyzeWithin, State.outcome, List.length_map, List.length_reverse]
  omega

end CobolCheck
