import CobolCheck.Proofs.Division.Reach
import CobolCheck.Proofs.Statement.Parallel

/-!
# Source units side by side

The divisions of a source unit also look at the unit that is being read and at
the symbol table. The table is looked at in two places only: where an item is
declared and where the item that a procedure division returns is looked up.
What follows such a look goes the same way in two runs whatever it showed, so
their tables need not be equal. The clauses of an entry are read with the key of
its item, which two runs may have to keep apart too.
-/

namespace CobolCheck

open Analysis

namespace Analysis

/-! ## The units of a source text -/

/-- Reads the next source unit, if there is one, and tells whether another one follows it. -/
def nextUnit (limit : Nat) : Analysis (Option Unit) := do
  if ← ask .eof then return none
  else
    sourceUnit limit
    if ← ask .unitStart then return some () else return none

/-- Reads the first source units of a source text, at most as many as `count`. -/
def firstUnits (limit count : Nat) : Analysis Unit :=
  loopFor (fun _ => nextUnit limit) count ()

/-! ## The looks at the symbol table -/

/-- Changes an item that was declared, in a way that may depend on its key. -/
def reviseBy (key : Option SymbolKey) (operation : SymbolKey → Operation) : Analysis Unit :=
  match key with
  | some declared => revise key (operation declared)
  | none => return ()

theorem revise_eq_reviseBy (key : Option SymbolKey) (operation : Operation) :
    revise key operation = reviseBy key fun _ => operation := by
  cases key <;> rfl

/-- Reports the item that a procedure division returns, unless it is declared in the unit. -/
def checkReturned (name : String) : Analysis Unit := do
  let declared ← fun state => (state.table.contains (state.unit.key name), state)
  unless declared do reportBefore .undeclaredReturningItem

/-- The ways in which entries make the item that they declare. -/
def Creates (create : String → Nat → Nat → Item) : Prop :=
  create = Item.storage ∨ create = Item.constant

/-- What is declared is entered in the table or reported. -/
theorem step_declare (name : Token) (item : Item) (state : State) :
    state.Step (declare name item state).2 := by
  unfold declare
  dsimp only
  split
  · exact .note state _ _ _ _
  · exact .report name _ state

theorem step_reviseBy (key : Option SymbolKey) (operation : SymbolKey → Operation)
    (state : State) : state.Step (reviseBy key operation state).2 := by
  cases key with
  | none => exact .note state _ _ _ _
  | some declared => exact .note state _ _ _ _

theorem step_checkReturned (name : String) (state : State) :
    state.Step (checkReturned name state).2 := by
  unfold checkReturned
  rw [run_bind, run_ite]
  split
  · exact .note state _ _ _ _
  · exact .report _ _ state

end Analysis

/-- A relation between states that are in the same unit, kept by what two runs do side
by side. Items that are declared side by side get related keys, and clauses that are
about related keys keep the states related. -/
structure AbreastUnits (reach : Nat) (same : Token → Token → Prop) (live : State → Prop)
    (κ : Option SymbolKey → Option SymbolKey → Prop) (ρ : State → State → Prop) : Prop
    extends Abreast reach same live ρ where
  nameless : κ none none
  refl_key (mortal : Mortal live) (key : Option SymbolKey) : κ key key
  unit {first second : State} : ρ first second → first.unit = second.unit
  withUnit {first second : State} (unit : SourceUnit) : ρ first second →
    ρ { first with unit } { second with unit }
  declare {first second : State} {name other : Token} {create : String → Nat → Nat → Item}
    (creates : Creates create) (level : Nat) : ρ first second → same name other →
      live (declare name (create name.value level name.line) first).2 →
        κ (declare name (create name.value level name.line) first).1
            (declare other (create other.value level other.line) second).1 ∧
          ρ (declare name (create name.value level name.line) first).2
            (declare other (create other.value level other.line) second).2
  revise {first second : State} {key other : Option SymbolKey}
    (operation : SymbolKey → Operation) : ρ first second → κ key other →
      ρ (reviseBy key operation first).2 (reviseBy other operation second).2
  returned {first second : State} (name : String) : ρ first second →
    live (checkReturned name first).2 → ρ (checkReturned name first).2 (checkReturned name second).2

/-- A parallel relation between states that are in the same unit. -/
structure ParallelUnits (reach : Nat) (same : Token → Token → Prop) (live : State → Prop)
    (κ : Option SymbolKey → Option SymbolKey → Prop) (ρ : State → State → Prop) : Prop
    extends Parallel reach same live ρ, AbreastUnits reach same live κ ρ

theorem Abreast.tracks_divisionHeader {reach : Nat} {same : Token → Token → Prop}
    {live : State → Prop} {ρ : State → State → Prop} (abreast : Abreast reach same live ρ)
    (division : Division) :
    Tracks live ρ Eq (divisionHeader division) (divisionHeader division) :=
  tracks_then (abreast.tracks_expect _) fun _ =>
    tracks_then (abreast.tracks_expect _) fun _ => abreast.tracks_expectOr _ _

namespace AbreastUnits

variable {reach : Nat} {same : Token → Token → Prop} {live : State → Prop}
  {κ : Option SymbolKey → Option SymbolKey → Prop} {ρ : State → State → Prop}

/-! ## Declaring an item -/

theorem tracks_declare (abreast : AbreastUnits reach same live κ ρ) {name other : Token}
    (alike : same name other) {create : String → Nat → Nat → Item} (creates : Creates create)
    (level : Nat) :
    Tracks live ρ κ (Analysis.declare name (create name.value level name.line))
      (Analysis.declare other (create other.value level other.line)) where
  alive := abreast.alive (step_declare _ _ _)
  tracks side alive := abreast.declare creates level side alike alive

theorem tracks_reviseBy (abreast : AbreastUnits reach same live κ ρ)
    {key other : Option SymbolKey}
    (keys : κ key other) (operation : SymbolKey → Operation) :
    Tracks live ρ Eq (reviseBy key operation) (reviseBy other operation) where
  alive := abreast.alive (step_reviseBy key operation _)
  tracks side _ := ⟨rfl, abreast.revise operation side keys⟩

theorem tracks_revise (abreast : AbreastUnits reach same live κ ρ) {key other : Option SymbolKey}
    (keys : κ key other) (operation : Operation) :
    Tracks live ρ Eq (Analysis.revise key operation) (Analysis.revise other operation) := by
  rw [revise_eq_reviseBy, revise_eq_reviseBy]
  exact abreast.tracks_reviseBy keys _

theorem tracks_entryHeader (abreast : AbreastUnits reach same live κ ρ)
    {create : String → Nat → Nat → Item} (creates : Creates create) :
    Tracks live ρ κ (entryHeader create) (entryHeader create) := by
  apply tracks_then abreast.tracks_word
  intro level
  apply tracks_then abreast.tracks_number
  intro _
  refine tracks_bind abreast.refl abreast.tracks_current fun names => ?_
  apply tracks_then abreast.tracks_identifier
  intro named
  exact tracks_ite _ (abreast.tracks_declare names creates _) (tracks_pure abreast.nameless)

theorem tracks_entryPeriod (abreast : AbreastUnits reach same live κ ρ) :
    Tracks live ρ Eq entryPeriod entryPeriod :=
  abreast.tracks_expectOr _ _

/-! ## Clauses -/

theorem tracks_externalClause (abreast : AbreastUnits (reach + 1) same live κ ρ)
    {key other : Option SymbolKey} (keys : κ key other) :
    Tracks live ρ Eq (externalClause key) (externalClause other) := by
  apply tracks_then (abreast.tracks_optionalWord _)
  intro _
  apply tracks_then (abreast.tracks_expect _)
  intro _
  refine tracks_then (abreast.tracks_optional _) fun as => tracks_ite _ ?_ ?_
  · apply abreast.tracks_choice rfl
    · apply tracks_then abreast.tracks_word
      intro name
      exact tracks_then abreast.tracks_accept fun _ => abreast.tracks_revise keys _
    · exact tracks_then (abreast.tracks_reportBefore _) fun _ => abreast.tracks_skip
  · have itsName := abreast.tracks_reviseBy keys fun declared => .setExternal declared.name
    cases key <;> cases other <;> exact itsName

theorem tracks_globalClause (abreast : AbreastUnits (reach + 1) same live κ ρ)
    {key other : Option SymbolKey} (keys : κ key other) :
    Tracks live ρ Eq (globalClause key) (globalClause other) :=
  tracks_then (abreast.tracks_optionalWord _) fun _ =>
    tracks_then (abreast.tracks_expect _) fun _ => abreast.tracks_revise keys _

theorem tracks_pictureTypeCode (abreast : AbreastUnits (reach + 1) same live κ ρ)
    {key other : Option SymbolKey} (keys : κ key other) :
    Tracks live ρ Eq (pictureTypeCode key) (pictureTypeCode other) := by
  apply tracks_then abreast.tracks_word
  intro text
  split
  · apply tracks_then abreast.tracks_accept
    intro _
    exact tracks_then (abreast.tracks_revise keys _) fun _ => tracks_same _
  · apply tracks_then (abreast.tracks_reportHere _)
    intro _
    exact tracks_then abreast.tracks_skip fun _ => tracks_same none

theorem tracks_digitCount (abreast : AbreastUnits (reach + 1) same live κ ρ) :
    Tracks live ρ Eq digitCount digitCount := by
  apply tracks_then (abreast.tracks_expect _)
  intro _
  apply tracks_then abreast.tracks_word
  intro digits
  apply tracks_then abreast.tracks_number
  intro _
  exact tracks_then (abreast.tracks_expect _) fun _ => tracks_same digits

theorem tracks_pictureClause (abreast : AbreastUnits (reach + 1) same live κ ρ)
    {key other : Option SymbolKey} (keys : κ key other) :
    Tracks live ρ Eq (pictureClause key) (pictureClause other) := by
  apply tracks_then (abreast.tracks_choose _)
  intro _
  apply tracks_then (abreast.tracks_optionalWord _)
  intro _
  apply tracks_then (abreast.tracks_pictureTypeCode keys)
  intro type
  apply tracks_then abreast.tracks_digitCount
  intro digits
  have last (length : String) := abreast.tracks_revise keys (.setPictureLength length)
  have scaled : Tracks live ρ Eq
      (accept >>= fun _ => digitCount >>= fun scale =>
        Analysis.revise key (.setPictureLength (digits ++ "V" ++ scale)))
      (accept >>= fun _ => digitCount >>= fun scale =>
        Analysis.revise other (.setPictureLength (digits ++ "V" ++ scale))) :=
    tracks_then abreast.tracks_accept fun _ =>
      tracks_then abreast.tracks_digitCount fun scale => last _
  refine abreast.tracks_choice rfl ?_ (last digits)
  exact tracks_ite _ (tracks_then (abreast.tracks_reportHere _) fun _ => scaled) scaled

theorem tracks_valueClause (abreast : AbreastUnits (reach + 1) same live κ ρ)
    {key other : Option SymbolKey} (keys : κ key other) :
    Tracks live ρ Eq (valueClause key) (valueClause other) := by
  apply tracks_then (abreast.tracks_expect _)
  intro _
  apply abreast.tracks_choice rfl
  · apply tracks_then abreast.tracks_word
    intro value
    exact tracks_then (abreast.tracks_revise keys _) fun _ => abreast.tracks_accept
  · apply tracks_then (abreast.tracks_reportHere _)
    intro _
    exact abreast.tracks_choice rfl (tracks_same ()) abreast.tracks_skip

theorem tracks_clauseWord (abreast : AbreastUnits (reach + 1) same live κ ρ) :
    Tracks live ρ Eq clauseWord clauseWord :=
  abreast.tracks_choice rfl (abreast.tracks_wordAt (Nat.le_add_left 1 reach)) abreast.tracks_word

theorem tracks_clause (abreast : AbreastUnits (reach + 1) same live κ ρ)
    {key other : Option SymbolKey} (keys : κ key other) :
    Tracks live ρ Eq (clause key) (clause other) := by
  have told {first second : Analysis Unit} (tracked : Tracks live ρ Eq first second)
      (picture : Bool) :
      Tracks live ρ Eq (first >>= fun _ => pure picture) (second >>= fun _ => pure picture) :=
    tracks_then tracked fun _ => tracks_same picture
  apply tracks_then abreast.tracks_clauseWord
  intro text
  split
  · exact told (abreast.tracks_externalClause keys) false
  · exact told (abreast.tracks_globalClause keys) false
  · apply tracks_then (abreast.tracks_optionalWord _)
    intro _
    exact told (abreast.tracks_expect _) false
  · exact tracks_then abreast.tracks_accept fun _ =>
      told (abreast.tracks_revise keys _) false
  · exact told (abreast.tracks_pictureClause keys) true
  · exact told (abreast.tracks_pictureClause keys) true
  · exact told (abreast.tracks_valueClause keys) false
  · exact tracks_then (abreast.tracks_reportHere _) fun _ =>
      told abreast.tracks_skip false
  · exact told abreast.tracks_accept false

theorem tracks_clauses (abreast : AbreastUnits (reach + 1) same live κ ρ)
    {key other : Option SymbolKey} (keys : κ key other) :
    Tracks live ρ Eq (clauses key) (clauses other) := by
  refine abreast.tracks_loop_same (fun picture => ?_) false
  refine abreast.tracks_choice rfl ?_ (tracks_same none)
  exact tracks_then (abreast.tracks_clause keys) fun found => tracks_same _

/-! ## Entries -/

theorem tracks_storageRest (abreast : AbreastUnits (reach + 1) same live κ ρ)
    {key other : Option SymbolKey} (keys : κ key other) :
    Tracks live ρ Eq (storageRest key) (storageRest other) := by
  have rest : Tracks live ρ Eq
      (clauses key >>= fun picture => do
        Analysis.revise key (.setShape (if picture then .elementary else .group))
        entryPeriod)
      (clauses other >>= fun picture => do
        Analysis.revise other (.setShape (if picture then .elementary else .group))
        entryPeriod) :=
    tracks_then (abreast.tracks_clauses keys) fun picture =>
      tracks_then (abreast.tracks_revise keys _) fun _ => abreast.tracks_entryPeriod
  apply abreast.tracks_choice rfl rest
  refine tracks_bind abreast.refl abreast.tracks_current fun tokens => ?_
  rw [Token.display, Token.display, Token.isEof, Token.isEof, (abreast.alike tokens).1,
    (abreast.alike tokens).2.1]
  apply tracks_then (abreast.tracks_reportHere _)
  intro _
  exact tracks_then abreast.tracks_skip fun _ => rest

theorem tracks_storageEntry (abreast : AbreastUnits (reach + 1) same live κ ρ) :
    Tracks live ρ Eq storageEntry storageEntry :=
  tracks_bind abreast.refl_key (abreast.tracks_entryHeader (.inl rfl)) fun keys =>
    abreast.tracks_storageRest keys

theorem tracks_constantValue (abreast : AbreastUnits (reach + 1) same live κ ρ) :
    Tracks live ρ Eq constantValue constantValue := by
  refine tracks_then (abreast.tracks_optional _) fun fromItem => tracks_ite _ ?_ ?_
  · apply tracks_then abreast.tracks_word
    intro name
    apply tracks_then abreast.tracks_identifier
    intro named
    exact tracks_ite _ (tracks_same _) (tracks_same _)
  · apply tracks_then (abreast.tracks_optionalWord _)
    intro _
    apply tracks_then abreast.tracks_word
    intro literal
    apply tracks_then (abreast.tracks_ask rfl)
    intro known
    have lengths : Tracks live ρ Eq
        (do
          ["LENGTH", "BYTE-LENGTH"].forM fun kind => do
            if ← optional kind then
              discard <| optional "OF"
              discard identifier
          return if known then some (ConstantValue.literal literal) else none)
        (do
          ["LENGTH", "BYTE-LENGTH"].forM fun kind => do
            if ← optional kind then
              discard <| optional "OF"
              discard identifier
          return if known then some (ConstantValue.literal literal) else none) := by
      refine tracks_then (tracks_forM (fun kind => ?_) _) fun _ => tracks_same _
      refine tracks_then (abreast.tracks_optional kind) fun found =>
        tracks_ite _ ?_ (tracks_same ())
      apply tracks_then (abreast.tracks_optionalWord _)
      intro _
      exact tracks_discard abreast.tracks_identifier
    refine tracks_ite _ (tracks_then abreast.tracks_accept fun _ => lengths) ?_
    apply tracks_then (abreast.tracks_reportHere _)
    intro _
    exact abreast.tracks_unless rfl abreast.tracks_skip lengths

theorem tracks_constantEnd (abreast : AbreastUnits (reach + 1) same live κ ρ)
    {key other : Option SymbolKey} (keys : κ key other) :
    Tracks live ρ Eq (constantEnd key) (constantEnd other) := by
  apply tracks_then abreast.tracks_constantValue
  intro value
  cases value with
  | none => exact abreast.tracks_entryPeriod
  | some value =>
      exact tracks_then (abreast.tracks_revise keys _) fun _ =>
        abreast.tracks_entryPeriod

theorem tracks_constantRest (abreast : AbreastUnits (reach + 1) same live κ ρ)
    {key other : Option SymbolKey} (keys : κ key other) :
    Tracks live ρ Eq (constantRest key) (constantRest other) := by
  have ending := abreast.tracks_constantEnd keys
  apply tracks_then (abreast.tracks_expect _)
  intro _
  exact abreast.tracks_when rfl (abreast.tracks_globalClause keys) ending

theorem tracks_constantEntry (abreast : AbreastUnits (reach + 1) same live κ ρ) :
    Tracks live ρ Eq constantEntry constantEntry := by
  apply abreast.tracks_unless rfl (abreast.tracks_reportHere _)
  exact tracks_bind abreast.refl_key (abreast.tracks_entryHeader (.inr rfl)) fun keys =>
    abreast.tracks_constantRest keys

/-! ## The data division -/

theorem tracks_recordEntries (abreast : AbreastUnits (reach + 2) same live κ ρ) :
    Tracks live ρ Eq recordEntries recordEntries :=
  tracks_then abreast.tracks_storageEntry fun _ =>
    abreast.tracks_whilst rfl abreast.tracks_storageEntry

theorem tracks_entries (abreast : AbreastUnits (reach + 2) same live κ ρ) :
    Tracks live ρ Eq entries entries := by
  apply abreast.tracks_choice rfl abreast.tracks_constantEntry
  apply abreast.tracks_choice rfl abreast.tracks_storageEntry
  apply abreast.tracks_choice rfl abreast.tracks_recordEntries
  exact tracks_then (abreast.tracks_reportHere _) fun _ => abreast.tracks_storageEntry

theorem tracks_beginSection (abreast : AbreastUnits reach same live κ ρ) (kind : DataSection) :
    Tracks live ρ Eq (beginSection kind) (beginSection kind) := by
  refine tracks_modify (fun state => abreast.alive (.note state _ _ _ _)) fun side _ => ?_
  rw [abreast.unit side]
  exact abreast.withUnit _ side

theorem tracks_dataSection (abreast : AbreastUnits (reach + 2) same live κ ρ)
    (kind : DataSection) :
    Tracks live ρ Eq (dataSection kind) (dataSection kind) := by
  apply tracks_then (abreast.tracks_beginSection kind)
  intro _
  apply tracks_then (abreast.tracks_expect _)
  intro _
  apply tracks_then (abreast.tracks_expect _)
  intro _
  apply tracks_then (abreast.tracks_expect _)
  intro _
  exact abreast.tracks_whilst rfl abreast.tracks_entries

theorem tracks_dataDivision (abreast : AbreastUnits (reach + 2) same live κ ρ) :
    Tracks live ρ Eq dataDivision dataDivision := by
  apply tracks_then (abreast.tracks_divisionHeader _)
  intro _
  refine tracks_then (tracks_forM (fun kind => ?_) _) fun _ => ?_
  · exact abreast.tracks_choice rfl (abreast.tracks_dataSection kind) (tracks_same ())
  · refine abreast.tracks_choice rfl (tracks_same ()) ?_
    exact tracks_then (abreast.tracks_reportHere _) fun _ => abreast.tracks_skip

/-! ## The identification of a unit -/

theorem tracks_beginUnit (abreast : AbreastUnits reach same live κ ρ) (unit : SourceUnit) :
    Tracks live ρ Eq (beginUnit unit) (beginUnit unit) :=
  tracks_modify (fun state => abreast.alive (.note state _ _ _ _)) fun side _ =>
    abreast.withUnit unit side

theorem tracks_unitParagraph (abreast : AbreastUnits reach same live κ ρ) (kind : UnitKind) :
    Tracks live ρ Eq (unitParagraph kind) (unitParagraph kind) := by
  apply tracks_then abreast.tracks_accept
  intro _
  apply tracks_then (abreast.tracks_expect _)
  intro _
  apply tracks_then (abreast.tracks_ask rfl)
  intro named
  apply tracks_then abreast.tracks_word
  intro name
  apply tracks_then (abreast.tracks_beginUnit _)
  intro _
  apply tracks_then (tracks_discard abreast.tracks_identifier)
  intro _
  exact abreast.tracks_expect _

theorem tracks_identification (abreast : AbreastUnits reach same live κ ρ) :
    Tracks live ρ Eq identification identification := by
  apply abreast.tracks_when rfl (abreast.tracks_divisionHeader _)
  apply abreast.tracks_choice rfl (abreast.tracks_unitParagraph _)
  apply abreast.tracks_choice rfl (abreast.tracks_unitParagraph _)
  exact tracks_then (abreast.tracks_beginUnit _) fun _ => abreast.tracks_reportHere _

/-! ## The procedure division -/

theorem tracks_currentUnit (abreast : AbreastUnits reach same live κ ρ) :
    Tracks live ρ Eq currentUnit currentUnit :=
  tracks_view fun side => abreast.unit side

theorem tracks_returningItem (abreast : AbreastUnits reach same live κ ρ) :
    Tracks live ρ Eq returningItem returningItem := by
  refine abreast.tracks_choice rfl ?_ (abreast.tracks_reportBefore _)
  apply tracks_then abreast.tracks_word
  intro name
  apply tracks_then (tracks_discard abreast.tracks_identifier)
  intro _
  exact ⟨abreast.alive (step_checkReturned name _), fun side alive =>
    ⟨rfl, abreast.returned name side alive⟩⟩

theorem tracks_procedureHeader (abreast : AbreastUnits reach same live κ ρ) :
    Tracks live ρ Eq procedureHeader procedureHeader := by
  have period := abreast.tracks_expectOr "." (.headerPeriod .procedure)
  have returned : Tracks live ρ Eq
      (do
        returningItem
        expectOr "." (.headerPeriod .procedure))
      (do
        returningItem
        expectOr "." (.headerPeriod .procedure)) :=
    tracks_then abreast.tracks_returningItem fun _ => period
  apply tracks_then (abreast.tracks_expect _)
  intro _
  apply tracks_then (abreast.tracks_expect _)
  intro _
  apply tracks_then abreast.tracks_currentUnit
  intro unit
  dsimp only
  split
  · exact tracks_then (abreast.tracks_expect _) fun _ => returned
  · exact tracks_then (abreast.tracks_optional _) fun found =>
      tracks_ite _ returned period

theorem tracks_paragraphHeader (abreast : AbreastUnits (reach + 2) same live κ ρ) :
    Tracks live ρ Eq paragraphHeader paragraphHeader := by
  have accepted (count : Nat) : Tracks live ρ Eq (acceptMany count >>= fun _ => pure true)
      (acceptMany count >>= fun _ => pure true) :=
    tracks_then (abreast.tracks_acceptMany count) fun _ => tracks_same true
  apply abreast.tracks_choice rfl (accepted 2)
  exact abreast.tracks_choice rfl (accepted 3) (tracks_same false)

section Sentences

variable {limit other : Nat}

theorem tracks_procedureBody (abreast : AbreastUnits reach same live κ ρ)
    (text : Tracks live ρ Eq (sentences limit) (sentences other))
    (header : Tracks live ρ Eq paragraphHeader paragraphHeader) :
    Tracks live ρ Eq (procedureBody limit) (procedureBody other) := by
  refine abreast.tracks_loop_same (fun _ => ?_) ()
  apply tracks_then text
  intro _
  apply tracks_then header
  intro found
  exact tracks_ite _ (tracks_same _) (tracks_same none)

theorem tracks_unitEndName (abreast : AbreastUnits reach same live κ ρ) (unit : SourceUnit) :
    Tracks live ρ Eq (unitEndName unit) (unitEndName unit) := by
  apply tracks_then (abreast.tracks_expect _)
  intro _
  apply tracks_then abreast.tracks_word
  intro name
  apply tracks_then (abreast.tracks_ask rfl)
  intro named
  have rest : Tracks live ρ Eq
      (do
        discard identifier
        expectOr "." (.endMarkerPeriod unit.kind))
      (do
        discard identifier
        expectOr "." (.endMarkerPeriod unit.kind)) :=
    tracks_then (tracks_discard abreast.tracks_identifier) fun _ =>
      abreast.tracks_expectOr _ _
  exact tracks_ite _ (tracks_then (abreast.tracks_reportHere _) fun _ => rest) rest

theorem tracks_unitEndMarker (abreast : AbreastUnits reach same live κ ρ) (unit : SourceUnit) :
    Tracks live ρ Eq (unitEndMarker unit) (unitEndMarker unit) :=
  tracks_then (abreast.tracks_expect _) fun _ => abreast.tracks_unitEndName unit

/-- A procedure division, after which there may be an END marker. -/
theorem tracks_procedureDivision (abreast : AbreastUnits reach same live κ ρ)
    (body : Tracks live ρ Eq (procedureBody limit) (procedureBody other))
    (ending : ∀ unit : SourceUnit, Tracks live ρ Eq
      (do if ← ask (.and (.is "END") (.next unit.kind.keyword)) then unitEndMarker unit)
      (do if ← ask (.and (.is "END") (.next unit.kind.keyword)) then unitEndMarker unit)) :
    Tracks live ρ Eq (procedureDivision limit) (procedureDivision other) := by
  apply tracks_then abreast.tracks_procedureHeader
  intro _
  apply tracks_then body
  intro _
  apply tracks_then abreast.tracks_currentUnit
  intro unit
  apply abreast.tracks_choice rfl (abreast.tracks_reportBefore _)
  exact tracks_ite _ (abreast.tracks_unitEndMarker unit) (ending unit)

/-- A procedure division, if its sentences are read alike. -/
theorem tracks_sentencesDivision (abreast : AbreastUnits (reach + 2) same live κ ρ)
    (text : Tracks live ρ Eq (sentences limit) (sentences other)) :
    Tracks live ρ Eq (procedureDivision limit) (procedureDivision other) := by
  apply abreast.tracks_procedureDivision
  · exact abreast.tracks_procedureBody text abreast.tracks_paragraphHeader
  · intro unit
    exact abreast.tracks_choice rfl (abreast.tracks_unitEndMarker unit) (tracks_same ())

/-! ## Units -/

/-- What comes after the ID paragraph of a unit. -/
theorem tracks_divisions (abreast : AbreastUnits (reach + 2) same live κ ρ)
    (text : Tracks live ρ Eq (sentences limit) (sentences other)) :
    Tracks live ρ Eq
      (do
        if ← ask (.is "ENVIRONMENT") then divisionHeader .environment
        if ← ask (.is "DATA") then dataDivision
        procedureDivision limit)
      (do
        if ← ask (.is "ENVIRONMENT") then divisionHeader .environment
        if ← ask (.is "DATA") then dataDivision
        procedureDivision other) := by
  apply abreast.tracks_when rfl (abreast.tracks_divisionHeader _)
  apply abreast.tracks_when rfl abreast.tracks_dataDivision
  exact abreast.tracks_sentencesDivision text

theorem tracks_sourceUnit (abreast : AbreastUnits (reach + 2) same live κ ρ)
    (text : Tracks live ρ Eq (sentences limit) (sentences other)) :
    Tracks live ρ Eq (sourceUnit limit) (sourceUnit other) :=
  tracks_then abreast.tracks_identification fun _ => abreast.tracks_divisions text

theorem tracks_nextUnit (abreast : AbreastUnits reach same live κ ρ)
    (unit : Tracks live ρ Eq (sourceUnit limit) (sourceUnit other)) :
    Tracks live ρ Eq (nextUnit limit) (nextUnit other) := by
  apply abreast.tracks_choice rfl (tracks_same none)
  apply tracks_then unit
  intro _
  exact abreast.tracks_choice rfl (tracks_same _) (tracks_same none)

/-- Two runs over a source text stay side by side after any number of units. -/
theorem tracks_firstUnits (abreast : AbreastUnits reach same live κ ρ)
    (unit : Tracks live ρ Eq (sourceUnit limit) (sourceUnit other)) (count : Nat) :
    Tracks live ρ Eq (firstUnits limit count) (firstUnits other count) := by
  refine abreast.tracks_loopFor (fun _ _ => rfl) ?_ count rfl
  rintro _ _ rfl
  exact tracks_round (abreast.tracks_nextUnit unit)

theorem tracks_sourceUnits (abreast : AbreastUnits reach same live κ ρ)
    (unit : Tracks live ρ Eq (sourceUnit limit) (sourceUnit other)) :
    Tracks live ρ Eq (sourceUnits limit) (sourceUnits other) :=
  abreast.tracks_loop_same (fun _ => abreast.tracks_nextUnit unit) ()

theorem tracks_leftover (abreast : AbreastUnits (reach + 1) same live κ ρ) :
    Tracks live ρ Eq leftover leftover := by
  apply abreast.tracks_choice rfl (tracks_same ())
  apply tracks_then (abreast.tracks_reportHere _)
  intro _
  exact abreast.tracks_whilst rfl abreast.tracks_skip

/-- Two runs over a source text stay side by side from its first token to its last. -/
theorem tracks_sourceText (abreast : AbreastUnits (reach + 2) same live κ ρ)
    (text : Tracks live ρ Eq (sentences limit) (sentences other))
    (finish : Tracks live ρ Eq (modify fun state => state.emit state.current : Analysis Unit)
      (modify fun state => state.emit state.current)) :
    Tracks live ρ Eq (sourceText limit) (sourceText other) := by
  apply tracks_then (abreast.tracks_sourceUnits (abreast.tracks_sourceUnit text))
  intro _
  exact tracks_then abreast.tracks_leftover fun _ => finish

end Sentences

end AbreastUnits

end CobolCheck
