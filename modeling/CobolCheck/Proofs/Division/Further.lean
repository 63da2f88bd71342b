import CobolCheck.Proofs.Division.Parallel
import CobolCheck.Proofs.Statement.Further

/-!
# How far the divisions of a source unit go

Every entry passes over its level number, every clause over its first word, every header of a
paragraph over its name, and every source unit over the header of its procedure division. What
follows them never goes back, so each of them moves the cursor wherever there is a token.
-/

namespace CobolCheck

open Analysis State

/-- Seen by itself, a run over source units that does not end beyond a state has not begun
beyond it. -/
theorem State.parallelUnits_alone (start : State) :
    ParallelUnits 2 Eq (fun state => ¬ Further 0 start state) Eq Alone where
  toParallel := parallel_alone start
  nameless := rfl
  refl_key _ _ := rfl
  unit := nofun
  withUnit _ := nofun
  declare _ _ := nofun
  revise _ := nofun
  returned _ := nofun

namespace Analysis

/-! ## Clauses -/

theorem further_declare (name : Token) (item : Item) : Obeys (Further 0) (declare name item) :=
  fun state => (step_declare name item state).further

theorem further_reviseBy (key : Option SymbolKey) (operation : SymbolKey → Operation) :
    Obeys (Further 0) (reviseBy key operation) :=
  fun state => (step_reviseBy key operation state).further

theorem further_revise (key : Option SymbolKey) (operation : Operation) :
    Obeys (Further 0) (revise key operation) := by
  rw [revise_eq_reviseBy]
  exact further_reviseBy key _

theorem further_externalClause (key : Option SymbolKey) :
    Obeys (Further 1) (externalClause key) := by
  refine further_last (further_optional "IS") fun _ => ?_
  refine further_first (further_expect "EXTERNAL") fun _ => ?_
  refine further_first (further_optional "AS") fun as => obeys_ite _ ?_ ?_
  · refine further_choice ?_ ?_
    · refine further_last (further_look _) fun name => ?_
      exact further_zero (further_first further_accept fun _ => further_revise key _)
    · refine further_last (further_reportBefore _) fun _ => ?_
      exact further_zero further_skip
  · have itsName := further_reviseBy key fun declared => .setExternal declared.name
    cases key <;> exact itsName

theorem further_globalClause (key : Option SymbolKey) : Obeys (Further 1) (globalClause key) :=
  further_last (further_optional "IS") fun _ =>
    further_first (further_expect "GLOBAL") fun _ => further_revise key _

theorem further_pictureTypeCode (key : Option SymbolKey) :
    Obeys (Further 0) (pictureTypeCode key) :=
  further_of_tracks fun start => (parallelUnits_alone start).tracks_pictureTypeCode rfl

theorem further_digitCount : Obeys (Further 0) digitCount :=
  further_of_tracks fun start => (parallelUnits_alone start).tracks_digitCount

theorem further_pictureClause (key : Option SymbolKey) : Obeys (Further 1) (pictureClause key) := by
  refine further_first (further_choose _ none) fun _ => ?_
  refine further_first (further_optional "IS") fun _ => ?_
  refine further_first (further_pictureTypeCode key) fun type => ?_
  refine further_first further_digitCount fun digits => ?_
  refine further_choice ?_ (further_revise key _)
  have scaled : Obeys (Further 0) (do
      accept
      let scale ← digitCount
      revise key (.setPictureLength (digits ++ "V" ++ scale))) :=
    further_zero (further_first further_accept fun _ =>
      further_first further_digitCount fun scale => further_revise key _)
  exact obeys_ite _ (further_first (further_reportHere _) fun _ => scaled) scaled

theorem further_valueClause (key : Option SymbolKey) : Obeys (Further 1) (valueClause key) := by
  refine further_first (further_expect "VALUE") fun _ => ?_
  refine further_choice ?_ ?_
  · refine further_first (further_look _) fun value => ?_
    exact further_first (further_revise key _) fun _ => further_zero further_accept
  · refine further_first (further_reportHere _) fun _ => ?_
    exact further_choice (further_pure _) (further_zero further_skip)

theorem further_clauseWord : Obeys (Further 0) clauseWord :=
  further_choice (further_look _) (further_look _)

/-- A clause passes over its first word at least. -/
theorem further_clause (key : Option SymbolKey) : Obeys (Further 1) (clause key) := by
  have told {analysis : Analysis Unit} (further : Obeys (Further 1) analysis) (picture : Bool) :
      Obeys (Further 1) (analysis >>= fun _ => pure picture) :=
    further_first further fun _ => further_pure picture
  refine further_last further_clauseWord fun text => ?_
  split
  · exact told (further_externalClause key) false
  · exact told (further_globalClause key) false
  · refine further_last (further_optional "IS") fun _ => ?_
    exact told (further_expect "TYPEDEF") false
  · exact further_first further_accept fun _ =>
      further_first (further_revise key _) fun _ => further_pure false
  · exact told (further_pictureClause key) true
  · exact told (further_pictureClause key) true
  · exact told (further_valueClause key) false
  · exact further_last (further_reportHere _) fun _ => told further_skip false
  · exact told further_accept false

/-- One clause of an entry, when a picture may already have been among them. -/
def clauseRound (key : Option SymbolKey) (picture : Bool) : Analysis (Option Bool) := do
  if ← ask .clause then
    let found ← clause key
    return some (picture || found)
  else return none

/-- The clauses of an entry are read one by one. -/
theorem progresses_clauseRound (key : Option SymbolKey) : Progresses (clauseRound key) := by
  refine progresses_of_asks (fun picture => ?_) fun picture state ended finished => ?_
  · exact asks_ask (asks_some (picture || ·) (further_clause key)) (asks_none 1)
  · have fails : ¬Test.clause.holds state = true := fun held =>
      ended.ahead_ne_nil rfl held finished
    rw [clauseRound, run_bind, run_ask, if_neg fails]
    rfl

theorem further_clauses (key : Option SymbolKey) : Obeys (Further 0) (clauses key) :=
  further_of_tracks fun start => (parallelUnits_alone start).tracks_clauses rfl

/-! ## Entries -/

/-- The header of an entry passes over the level number. -/
theorem further_entryHeader (create : String → Nat → Nat → Item) :
    Obeys (Further 1) (entryHeader create) := by
  refine further_last (further_look _) fun text => further_first further_number fun _ => ?_
  refine further_last (further_look State.current) fun name => ?_
  refine further_first (further_zero further_identifier) fun named => ?_
  exact obeys_ite _ (further_declare _ _) (further_pure _)

theorem further_entryPeriod : Obeys (Further 0) entryPeriod :=
  further_zero (further_expectOr _ _)

theorem further_storageEntry : Obeys (Further 1) storageEntry :=
  further_first (further_entryHeader _) fun _ =>
    further_of_tracks fun start => (parallelUnits_alone start).tracks_storageRest rfl

theorem further_constantValue : Obeys (Further 0) constantValue :=
  further_of_tracks fun start => (parallelUnits_alone start).tracks_constantValue

theorem further_constantEntry : Obeys (Further 1) constantEntry := by
  have rest : Obeys (Further 1) constantItem :=
    further_first (further_entryHeader _) fun _ =>
      further_of_tracks fun start => (parallelUnits_alone start).tracks_constantRest rfl
  exact further_choice rest (further_last (further_reportHere _) fun _ => rest)

theorem further_recordEntries : Obeys (Further 1) recordEntries :=
  further_first further_storageEntry fun _ => chained_further.obeys_whilst
    ((further_zero further_storageEntry).obeysFrom _)

/-- The entry at the cursor passes over its level number, whatever its kind. -/
theorem further_entries : Obeys (Further 1) entries := by
  refine further_choice further_constantEntry ?_
  refine further_choice further_storageEntry ?_
  refine further_choice further_recordEntries ?_
  exact further_last (further_reportHere _) fun _ => further_storageEntry

/-! ## The data division -/

theorem further_beginSection (kind : DataSection) : Obeys (Further 0) (beginSection kind) :=
  fun state => (Step.note state _ _ _ _).further

/-- A section passes over its header. -/
theorem further_dataSection (kind : DataSection) : Obeys (Further 1) (dataSection kind) := by
  refine further_last (further_beginSection kind) fun _ => ?_
  refine further_first (further_expect _) fun _ => ?_
  refine further_first (further_zero (further_expect _)) fun _ => ?_
  refine further_first (further_zero (further_expect _)) fun _ => ?_
  exact chained_further.obeys_whilst ((further_zero further_entries).obeysFrom _)

/-! ## The procedure division -/

theorem further_returningItem : Obeys (Further 0) returningItem :=
  further_of_tracks fun start => (parallelUnits_alone start).tracks_returningItem

/-- The header of a procedure division is made of three words at least. -/
theorem further_procedureHeader : Obeys (Further 3) procedureHeader := by
  have period := further_expectOr "." (.headerPeriod .procedure)
  have returned := further_last further_returningItem fun _ => period
  change Obeys (Further (1 + (1 + 1))) procedureHeader
  refine further_bind (further_expect _) fun _ => ?_
  refine further_bind (further_expect "DIVISION") fun _ => ?_
  refine further_last (further_look State.unit) fun unit => ?_
  dsimp only
  split
  · exact further_last (further_zero (further_expect "RETURNING")) fun _ => returned
  · exact further_last (further_optional "RETURNING") fun _ => obeys_ite _ returned period

theorem further_paragraphHeader : Obeys (Further 0) paragraphHeader :=
  further_of_tracks fun start => (parallelUnits_alone start).tracks_paragraphHeader

/-- The sentences up to the next header of a paragraph or section, and that header. -/
def headerRound (limit : Nat) : Analysis (Option Unit) := do
  sentences limit
  if ← paragraphHeader then return some () else return none

/-- A choice goes on with whichever alternative is chosen. -/
theorem choice_bind {α β : Type} (test : Test) (yes no : Analysis α) (rest : α → Analysis β) :
    ((do if ← ask test then yes else no) >>= rest) =
      (do if ← ask test then yes >>= rest else no >>= rest) := by
  funext state
  rw [run_bind, run_bind, run_bind, run_ask, run_ite, run_ite]
  split <;> rfl

/-- The body of a procedure division is read header by header. -/
theorem progresses_headerRound (limit : Nat) : Progresses fun _ : Unit => headerRound limit := by
  refine progresses_of_asks (fun _ => asks_last (further_sentences limit) fun _ => ?_)
    fun _ state ended finished => ?_
  · have accepted (count : Nat) (enough : 1 ≤ count) :
        Asks 1 ((acceptMany count >>= fun _ => pure true) >>= fun found =>
          if found then pure (some ()) else pure none) :=
      asks_first (further_first (further_mono enough (further_acceptMany count)) fun _ =>
        further_pure true) fun found => asks_ite _ (asks_of_further (further_pure _)) (asks_none 0)
    rw [paragraphHeader, choice_bind, choice_bind]
    exact asks_ask (accepted 2 (by decide)) (asks_ask (accepted 3 (by decide)) (asks_none 1))
  · have fails {test : Test} (atEnd : test.failsAtEnd = true) : ¬test.holds state = true :=
      fun held => ended.ahead_ne_nil atEnd held finished
    rw [headerRound, run_bind, sentences, whilst_eq, if_neg (fails rfl), paragraphHeader,
      choice_bind, choice_bind, run_bind, run_ask, if_neg (fails rfl), run_bind, run_ask,
      if_neg (fails rfl)]
    rfl

theorem further_procedureBody (limit : Nat) : Obeys (Further 0) (procedureBody limit) :=
  chained_further.obeys_procedureBody (further_sentences limit) further_paragraphHeader

theorem further_unitEndMarker (unit : SourceUnit) : Obeys (Further 0) (unitEndMarker unit) :=
  further_of_tracks fun start => (parallelUnits_alone start).tracks_unitEndMarker unit

/-- A procedure division passes over its header. -/
theorem further_procedureDivision (limit : Nat) : Obeys (Further 1) (procedureDivision limit) :=
  further_first (further_mono (by decide) further_procedureHeader) fun _ =>
    chained_further.obeys_procedureRest further_reportBefore (further_procedureBody limit)
      further_unitEndMarker

/-! ## Source units -/

theorem further_divisionHeader (division : Division) :
    Obeys (Further 0) (divisionHeader division) :=
  further_of_tracks fun start => (parallel_alone start).tracks_divisionHeader division

theorem further_beginUnit (unit : SourceUnit) : Obeys (Further 0) (beginUnit unit) :=
  fun state => (Step.note state _ _ _ _).further

theorem further_unitParagraph (kind : UnitKind) : Obeys (Further 0) (unitParagraph kind) :=
  further_of_tracks fun start => (parallelUnits_alone start).tracks_unitParagraph kind

theorem further_identification : Obeys (Further 0) identification :=
  further_of_tracks fun start => (parallelUnits_alone start).tracks_identification

theorem further_dataDivision : Obeys (Further 0) dataDivision :=
  further_of_tracks fun start => (parallelUnits_alone start).tracks_dataDivision

/-- A source unit passes over the header of its procedure division at least. -/
theorem further_sourceUnit (limit : Nat) : Obeys (Further 1) (sourceUnit limit) := by
  have procedure := further_procedureDivision limit
  have divisions : Obeys (Further 1) (do
      if ← ask (.is "DATA") then dataDivision
      procedureDivision limit) :=
    further_choice (further_last further_dataDivision fun _ => procedure) procedure
  refine further_last further_identification fun _ => ?_
  exact further_choice
    (further_last (further_divisionHeader .environment) fun _ => divisions) divisions

/-- A source text is read unit by unit. -/
theorem progresses_nextUnit (limit : Nat) : Progresses fun _ : Unit => nextUnit limit := by
  refine progresses_of_asks (fun _ => asks_ask (asks_none 1) ?_) fun _ state ended finished => ?_
  · exact asks_first (further_sourceUnit limit) fun _ =>
      asks_ask (asks_of_further (further_pure _)) (asks_none 0)
  · rw [nextUnit, run_bind, run_ask, if_pos (ended.holds_eof finished)]
    rfl

theorem further_sourceUnits (limit : Nat) : Obeys (Further 0) (sourceUnits limit) :=
  chained_further.obeys_sourceUnits (further_zero (further_sourceUnit limit))

theorem further_leftover : Obeys (Further 0) leftover :=
  further_of_tracks fun start => (parallelUnits_alone start).tracks_leftover

theorem further_sourceText (limit : Nat) : Obeys (Further 0) (sourceText limit) := by
  refine further_first (further_sourceUnits limit) fun _ => ?_
  exact further_first further_leftover fun _ state => further_emit state.current state

/-! ## Routines -/

/-- The analyses that read data descriptions, divisions and source units. -/
inductive DivisionRoutine (limit : Nat) : {α : Type} → Analysis α → Prop
  | declare (name : Token) (item : Item) : DivisionRoutine limit (declare name item)
  | revise (key : Option SymbolKey) (operation : Operation) :
      DivisionRoutine limit (revise key operation)
  | entryHeader (create : String → Nat → Nat → Item) : DivisionRoutine limit (entryHeader create)
  | entryPeriod : DivisionRoutine limit entryPeriod
  | externalClause (key : Option SymbolKey) : DivisionRoutine limit (externalClause key)
  | globalClause (key : Option SymbolKey) : DivisionRoutine limit (globalClause key)
  | pictureTypeCode (key : Option SymbolKey) : DivisionRoutine limit (pictureTypeCode key)
  | digitCount : DivisionRoutine limit digitCount
  | pictureClause (key : Option SymbolKey) : DivisionRoutine limit (pictureClause key)
  | valueClause (key : Option SymbolKey) : DivisionRoutine limit (valueClause key)
  | clauseWord : DivisionRoutine limit clauseWord
  | clause (key : Option SymbolKey) : DivisionRoutine limit (clause key)
  | clauses (key : Option SymbolKey) : DivisionRoutine limit (clauses key)
  | storageEntry : DivisionRoutine limit storageEntry
  | constantValue : DivisionRoutine limit constantValue
  | constantEntry : DivisionRoutine limit constantEntry
  | recordEntries : DivisionRoutine limit recordEntries
  | entries : DivisionRoutine limit entries
  | divisionHeader (division : Division) : DivisionRoutine limit (divisionHeader division)
  | beginSection (kind : DataSection) : DivisionRoutine limit (beginSection kind)
  | dataSection (kind : DataSection) : DivisionRoutine limit (dataSection kind)
  | dataDivision : DivisionRoutine limit dataDivision
  | beginUnit (unit : SourceUnit) : DivisionRoutine limit (beginUnit unit)
  | unitParagraph (kind : UnitKind) : DivisionRoutine limit (unitParagraph kind)
  | identification : DivisionRoutine limit identification
  | returningItem : DivisionRoutine limit returningItem
  | procedureHeader : DivisionRoutine limit procedureHeader
  | paragraphHeader : DivisionRoutine limit paragraphHeader
  | procedureBody : DivisionRoutine limit (procedureBody limit)
  | unitEndMarker (unit : SourceUnit) : DivisionRoutine limit (unitEndMarker unit)
  | procedureDivision : DivisionRoutine limit (procedureDivision limit)
  | sourceUnit : DivisionRoutine limit (sourceUnit limit)
  | sourceUnits : DivisionRoutine limit (sourceUnits limit)
  | leftover : DivisionRoutine limit leftover
  | sourceText : DivisionRoutine limit (sourceText limit)

theorem DivisionRoutine.further {limit : Nat} {α : Type} {analysis : Analysis α}
    (routine : DivisionRoutine limit analysis) : Obeys (Further 0) analysis := by
  cases routine with
  | declare name item => exact further_declare name item
  | revise key operation => exact further_revise key operation
  | entryHeader create => exact further_zero (further_entryHeader create)
  | entryPeriod => exact further_entryPeriod
  | externalClause key => exact further_zero (further_externalClause key)
  | globalClause key => exact further_zero (further_globalClause key)
  | pictureTypeCode key => exact further_pictureTypeCode key
  | digitCount => exact further_digitCount
  | pictureClause key => exact further_zero (further_pictureClause key)
  | valueClause key => exact further_zero (further_valueClause key)
  | clauseWord => exact further_clauseWord
  | clause key => exact further_zero (further_clause key)
  | clauses key => exact further_clauses key
  | storageEntry => exact further_zero further_storageEntry
  | constantValue => exact further_constantValue
  | constantEntry => exact further_zero further_constantEntry
  | recordEntries => exact further_zero further_recordEntries
  | entries => exact further_zero further_entries
  | divisionHeader division => exact further_divisionHeader division
  | beginSection kind => exact further_beginSection kind
  | dataSection kind => exact further_zero (further_dataSection kind)
  | dataDivision => exact further_dataDivision
  | beginUnit unit => exact further_beginUnit unit
  | unitParagraph kind => exact further_unitParagraph kind
  | identification => exact further_identification
  | returningItem => exact further_returningItem
  | procedureHeader => exact further_zero further_procedureHeader
  | paragraphHeader => exact further_paragraphHeader
  | procedureBody => exact further_procedureBody limit
  | unitEndMarker unit => exact further_unitEndMarker unit
  | procedureDivision => exact further_zero (further_procedureDivision limit)
  | sourceUnit => exact further_zero (further_sourceUnit limit)
  | sourceUnits => exact further_sourceUnits limit
  | leftover => exact further_leftover
  | sourceText => exact further_sourceText limit

end Analysis

end CobolCheck
