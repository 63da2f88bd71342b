import CobolCheck.Check
import CobolCheck.Proofs.Division.Reach

/-!
# The items that an analysis declares

An analysis only adds to the symbol table: no item that was there before is
changed or lost. An entry declares its item first and changes it clause by
clause, so what holds of an item in the table holds of it only when its entry
has been read. Until then it is a draft.
-/

namespace CobolCheck

/-! ## Well-formed items -/

/-- Whether an item is as an entry leaves it: `tokens` are those among which the
entry stands. -/
structure Item.WellFormed (tokens : List Token) (key : SymbolKey) (item : Item) : Prop where
  identifier : item.identifier = key.name
  named : ∃ token ∈ tokens, token.category = .identifier ∧ token.value = key.name ∧
    token.line = item.line
  inSection : item.inSection.isSome
  parent : item.parent = none
  external : item.isExternal = true ↔ item.externalName.isSome
  storage : ∀ attributes ∈ item.attributes?,
    attributes.shape ≠ .undecided ∧
      (attributes.shape = .elementary ↔ attributes.pictureLength.isSome) ∧
      (attributes.type.isSome → attributes.shape = .elementary)
  constant : item.isConstant = true →
    item.isExternal = false ∧ item.isBased = false ∧ item.externalName = none

/-- Whether an item is one that was just declared, as far as an entry does not
change it any more. -/
structure Item.Begun (tokens : List Token) (key : SymbolKey) (item : Item) : Prop where
  identifier : item.identifier = key.name
  named : ∃ token ∈ tokens, token.category = .identifier ∧ token.value = key.name ∧
    token.line = item.line
  inSection : item.inSection.isSome
  parent : item.parent = none

/-- Whether an item is a storage item whose entry is being read. -/
structure Item.Draft (tokens : List Token) (key : SymbolKey) (item : Item) : Prop
    extends item.Begun tokens key where
  external : item.isExternal = true ↔ item.externalName.isSome
  storage : ∃ attributes, item.body = .storage attributes ∧ attributes.shape = .undecided

/-- Whether an item is a constant whose entry is being read. -/
structure Item.ConstantDraft (tokens : List Token) (key : SymbolKey) (item : Item) : Prop
    extends item.Begun tokens key where
  isExternal : item.isExternal = false
  isBased : item.isBased = false
  externalName : item.externalName = none
  constant : ∃ value, item.body = .constant value

/-- Whether a picture was given to an item, as far as its attributes show. -/
def Item.Pictured (picture : Bool) (item : Item) : Prop :=
  item.pictureLength?.isSome = picture ∧ (item.type?.isSome → picture = true)

/-- Whether a change is one that a clause makes. -/
def Operation.isClausal : Operation → Bool
  | .setType _ | .setPictureLength _ => true
  | operation => operation.isPlain

theorem Operation.isClausal_of_isPlain (operation : Operation) (plain : operation.isPlain = true) :
    operation.isClausal = true := by
  cases operation <;> first | rfl | cases plain

namespace Item

variable {tokens : List Token} {key : SymbolKey} {item : Item}

/-! ## Changes to drafts -/

/-- A clause keeps a draft a draft. -/
theorem Draft.change (draft : item.Draft tokens key) {operation : Operation}
    (clausal : operation.isClausal = true) : (operation.change item).Draft tokens key := by
  obtain ⟨begun, external, attributes, body, undecided⟩ := draft
  have mapped {change : Storage → Storage} (shape : (change attributes).shape = .undecided) :
      (item.mapStorage change).Draft tokens key := by
    refine ⟨⟨begun.1, begun.2, begun.3, begun.4⟩, external, change attributes, ?_, shape⟩
    rw [mapStorage, body, ItemBody.mapStorage]
  cases operation with
  | setType => exact mapped undecided
  | setPictureLength => exact mapped undecided
  | setInitialValue => exact mapped undecided
  | setExternal name =>
      refine ⟨⟨begun.1, begun.2, begun.3, begun.4⟩, ?_, attributes, body, undecided⟩
      simp [Operation.change, Item.setExternal]
  | setGlobal =>
      exact ⟨⟨begun.1, begun.2, begun.3, begun.4⟩, external, attributes, body, undecided⟩
  | setBased =>
      exact ⟨⟨begun.1, begun.2, begun.3, begun.4⟩, external, attributes, body, undecided⟩
  | add => cases clausal
  | setSection => cases clausal
  | setParent => cases clausal
  | setShape => cases clausal
  | setValue => cases clausal

/-- Only a picture gives an item a type or a length. -/
theorem Pictured.change {picture : Bool} (pictured : item.Pictured picture)
    {operation : Operation} (plain : operation.isPlain = true) :
    (operation.change item).Pictured picture := by
  cases operation with
  | setInitialValue value =>
      obtain ⟨length, type⟩ := pictured
      simp only [pictureLength?, type?] at length type
      constructor
      · simp only [Operation.change, pictureLength?, attributes?_mapStorage, Option.bind_map]
        exact length
      · simp only [Operation.change, type?, attributes?_mapStorage, Option.bind_map]
        exact type
  | setExternal => exact pictured
  | setGlobal => exact pictured
  | setBased => exact pictured
  | add => cases plain
  | setSection => cases plain
  | setParent => cases plain
  | setType => cases plain
  | setPictureLength => cases plain
  | setShape => cases plain
  | setValue => cases plain

/-- A draft with a length is pictured. -/
theorem Draft.pictured (draft : item.Draft tokens key) (length : String) :
    (Operation.change (.setPictureLength length) item).Pictured true := by
  obtain ⟨attributes, body, _⟩ := draft.storage
  simp [Pictured, Operation.change, pictureLength?, attributes?, mapStorage, body,
    ItemBody.mapStorage, ItemBody.attributes?]

/-- A draft is well formed once it has the shape that its pictures give it. -/
theorem Draft.wellFormed {picture : Bool} (draft : item.Draft tokens key)
    (pictured : item.Pictured picture) :
    (Operation.change (.setShape (if picture then .elementary else .group)) item).WellFormed
      tokens key := by
  obtain ⟨begun, external, attributes, body, undecided⟩ := draft
  have body_eq : (Operation.change (.setShape (if picture then .elementary else .group)) item).body =
      .storage { attributes with shape := if picture then .elementary else .group } := by
    simp [Operation.change, setShape, mapStorage, body, ItemBody.mapStorage, undecided]
  simp only [Pictured, pictureLength?, type?, attributes?, body, ItemBody.attributes?,
    Option.bind_some] at pictured
  refine ⟨begun.1, begun.2, begun.3, begun.4, external, ?_, ?_⟩
  · rintro found shown
    rw [attributes?, body_eq, ItemBody.attributes?, Option.mem_some_iff] at shown
    subst shown
    cases picture with
    | true => simpa using pictured
    | false => simpa using pictured
  · rw [isConstant, attributes?, body_eq]
    rintro ⟨⟩

theorem ConstantDraft.wellFormed (draft : item.ConstantDraft tokens key) :
    item.WellFormed tokens key := by
  obtain ⟨begun, isExternal, isBased, externalName, value, body⟩ := draft
  refine ⟨begun.1, begun.2, begun.3, begun.4, ?_, ?_, fun _ => ⟨isExternal, isBased, externalName⟩⟩
  · simp [isExternal, externalName]
  · simp [attributes?, body, ItemBody.attributes?]

/-- What the entry of a constant changes keeps it a draft. -/
theorem ConstantDraft.change (draft : item.ConstantDraft tokens key) {operation : Operation}
    (known : operation = .setGlobal ∨ ∃ value, operation = .setValue value) :
    (operation.change item).ConstantDraft tokens key := by
  obtain ⟨begun, isExternal, isBased, externalName, value, body⟩ := draft
  rcases known with rfl | ⟨given, rfl⟩
  · exact ⟨⟨begun.1, begun.2, begun.3, begun.4⟩, isExternal, isBased, externalName, value, body⟩
  · refine ⟨⟨begun.1, begun.2, begun.3, begun.4⟩, isExternal, isBased, externalName, some given, ?_⟩
    rw [Operation.change, setValue, body, ItemBody.setValue]

end Item

/-! ## Tables while an entry is read -/

open Analysis

namespace State

/-- Whether an entry that began in a state has changed nothing but the item
under its key, which is new. Without a key it has changed nothing. -/
structure Entered (start : State) (key : Option SymbolKey) (P : SymbolKey → Item → Prop)
    (state : State) : Prop where
  tokens_eq : state.tokens = start.tokens
  sentinel_eq : state.sentinel = start.sentinel
  others : ∀ other, key ≠ some other → state.table.get? other = start.table.get? other
  fresh : ∀ declared ∈ key, start.table.get? declared = none
  item : ∀ declared ∈ key, ∃ item, state.table.get? declared = some item ∧ P declared item

/-- Whether a table is the one that an analysis of the tokens began with, and
more items, which are well formed. -/
structure Grown (tokens : List Token) (table : SymbolTable) (state : State) : Prop where
  tokens_eq : state.tokens = tokens
  sentinel : state.sentinel.category = .eof
  kept : ∀ key item, table.get? key = some item → state.table.get? key = some item
  added : ∀ key item, table.get? key = none → state.table.get? key = some item →
    item.WellFormed tokens key

variable {start state after : State} {key : Option SymbolKey} {P Q : SymbolKey → Item → Prop}

theorem entered_none (still : start.Still after) : start.Entered none P after where
  tokens_eq := still.tokens_eq
  sentinel_eq := still.sentinel_eq
  others _ _ := by rw [still.table_eq]
  fresh := by simp
  item := by simp

theorem Entered.still (entered : start.Entered key P state) (still : state.Still after) :
    start.Entered key P after where
  tokens_eq := still.tokens_eq.trans entered.tokens_eq
  sentinel_eq := still.sentinel_eq.trans entered.sentinel_eq
  others := by
    rw [still.table_eq]
    exact entered.others
  fresh := entered.fresh
  item := by
    rw [still.table_eq]
    exact entered.item

theorem Entered.mono (entered : start.Entered key P state)
    (implies : ∀ declared item, P declared item → Q declared item) :
    start.Entered key Q state where
  tokens_eq := entered.tokens_eq
  sentinel_eq := entered.sentinel_eq
  others := entered.others
  fresh := entered.fresh
  item declared member :=
    let ⟨item, found, holds⟩ := entered.item declared member
    ⟨item, found, implies declared item holds⟩

/-- Revising the item of an entry changes nothing else. -/
theorem Entered.revise (entered : start.Entered key P state) {operation : Operation}
    (changed : ∀ declared item, P declared item → Q declared (operation.change item)) :
    start.Entered key Q (revise key operation state).2 := by
  cases key with
  | none =>
      exact ⟨entered.tokens_eq, entered.sentinel_eq, entered.others, by simp, by simp⟩
  | some declared =>
      refine ⟨entered.tokens_eq, entered.sentinel_eq, ?_, entered.fresh, ?_⟩
      · intro other differs
        have apart : other ≠ declared := fun equal => differs (congrArg some equal.symm)
        change (state.table.update declared operation.change).get? other = _
        rw [SymbolTable.get?_update, if_neg apart]
        exact entered.others other differs
      · intro other member
        obtain rfl : declared = other := Option.some.inj member
        obtain ⟨item, found, holds⟩ := entered.item declared member
        refine ⟨operation.change item, ?_, changed declared item holds⟩
        change (state.table.update declared operation.change).get? declared = _
        rw [SymbolTable.get?_update, if_pos rfl, found, Option.map_some]

/-- A table grows by an entry whose item is well formed. -/
theorem Entered.grown {tokens : List Token} {table : SymbolTable}
    (grown : start.Grown tokens table)
    (entered : start.Entered key (fun declared item => item.WellFormed tokens declared) after) :
    after.Grown tokens table where
  tokens_eq := entered.tokens_eq.trans grown.tokens_eq
  sentinel := entered.sentinel_eq ▸ grown.sentinel
  kept name item found := by
    have before := grown.kept name item found
    rw [entered.others name ?_]
    · exact before
    · intro declared
      have absent := entered.fresh name declared
      rw [absent] at before
      cases before
  added name item absent found := by
    by_cases declared : key = some name
    · obtain ⟨new, new_found, wellFormed⟩ := entered.item name declared
      obtain rfl : new = item := Option.some.inj (new_found.symm.trans found)
      exact wellFormed
    · rw [entered.others name declared] at found
      exact grown.added name item absent found

theorem Grown.still {tokens : List Token} {table : SymbolTable} (grown : state.Grown tokens table)
    (still : state.Still after) : after.Grown tokens table :=
  (entered_none still).grown grown

end State

/-! ## Entries -/

namespace Closed

variable {start : State} {key : Option SymbolKey} {P : SymbolKey → Item → Prop}

theorem keeps_entered (start : State) (key : Option SymbolKey) (P : SymbolKey → Item → Prop) :
    Closed .endOfInput (Keeps (start.Entered key P)) :=
  closed_keeps fun move entered => entered.still move.still

theorem obeys_revise_entered {operation : Operation}
    (changed : ∀ declared item, P declared item → P declared (operation.change item)) :
    Obeys (Keeps (start.Entered key P)) (revise key operation) := by
  intro state
  refine ⟨?_, fun entered => entered.revise changed⟩
  cases key with
  | none => exact List.suffix_rfl
  | some => exact List.suffix_rfl

end Closed

namespace State

variable {start state : State} {key : Option SymbolKey} {P : SymbolKey → Item → Prop}

theorem current_mem_tokens (inside : state.current ≠ state.sentinel) :
    state.current ∈ state.tokens := by
  cases next : state.ahead with
  | nil => exact absurd (current_of_ahead_nil next) inside
  | cons token rest =>
      rw [current_of_ahead_cons next, tokens, next]
      simp

/-- A declared item is new, and a name that is taken changes nothing. -/
theorem entered_declare {name : Token} {item : Item} (still : start.Still state)
    (created : P (state.unit.key name.value) { item with inSection := state.unit.currentSection }) :
    start.Entered (declare name item state).1 P (declare name item state).2 := by
  unfold declare
  dsimp only
  split
  · next table added =>
    have absent : state.table.get? (state.unit.key name.value) = none := by
      cases present : state.table.get? (state.unit.key name.value) with
      | none => rfl
      | some existing =>
          rw [SymbolTable.add_of_get?_eq_some present] at added
          cases added
    refine ⟨still.tokens_eq, still.sentinel_eq, ?_, ?_, ?_⟩
    · intro other differs
      have apart : other ≠ state.unit.key name.value :=
        fun equal => differs (congrArg some equal.symm)
      rw [SymbolTable.get?_of_add_eq_ok added, if_neg apart, still.table_eq]
    · intro declared member
      rw [← Option.some.inj member, ← still.table_eq]
      exact absent
    · intro declared member
      rw [← Option.some.inj member]
      refine ⟨_, ?_, created⟩
      rw [SymbolTable.get?_of_add_eq_ok added, if_pos rfl]
  · exact entered_none ⟨still.1, still.2, still.3, still.4,
      still.5.trans (List.suffix_cons _ _)⟩

/-- An identifier that was matched is one. -/
theorem category_of_identifier (named : (identifier state).1 = true) :
    state.current.category = .identifier := by
  rw [identifier, operand, acceptIf, run_bind, run_ask, run_ite] at named
  split at named
  · next held => simpa [Test.has, Test.holds, State.current] using held
  · cases named

/-- The header of an entry declares an item under a name that is among the tokens, with
the level number at the cursor. -/
theorem entered_entryHeader (create : String → Nat → Nat → Item)
    (ended : start.sentinel.category = .eof)
    (created : ∀ token ∈ start.tokens, token.category = .identifier →
      P (start.unit.key token.value)
        { create token.value ((Level.ofText? start.current.value).getD 0) token.line with
          inSection := start.unit.currentSection }) :
    start.Entered (entryHeader create start).1 P (entryHeader create start).2 := by
  have closed := closed_still .endOfInput
  have before : start.Still (number start).2 := closed.obeys_number (by decide) start
  have after : start.Still (identifier (number start).2).2 :=
    closed.trans before (closed.obeys_identifier (by decide) _)
  rw [entryHeader, run_bind, run_word, run_bind, run_bind, run_current, run_bind, run_ite]
  dsimp only
  split
  · next named =>
    have category := category_of_identifier named
    have inside : (number start).2.current ∈ start.tokens := by
      rw [← before.tokens_eq]
      apply current_mem_tokens
      intro sentinel
      rw [sentinel, before.sentinel_eq, ended] at category
      cases category
    apply entered_declare after
    rw [after.unit_eq]
    exact created _ inside category
  · exact entered_none after

/-- A picture makes a draft pictured. -/
theorem Entered.pictureClause {tokens : List Token}
    (entered : start.Entered key (fun declared item => item.Draft tokens declared) state) :
    start.Entered key (fun declared item => item.Draft tokens declared ∧ item.Pictured true)
      (pictureClause key state).2 := by
  have closed := Closed.keeps_entered start key fun declared item => item.Draft tokens declared
  obtain ⟨length, middle, reached, ends⟩ :=
    closed.remarking.obeysUpTo_pictureClause Landmark.foreign_endOfInput.outsideEntries
      (fun _ => Closed.obeys_revise_entered fun _ _ draft => draft.change rfl) state trivial
  rw [ends]
  exact (reached.kept entered).revise fun _ _ draft => ⟨draft.change rfl, draft.pictured length⟩

/-- A clause keeps the item of an entry a draft. -/
theorem Entered.clause {tokens : List Token} {picture : Bool}
    (entered : start.Entered key
      (fun declared item => item.Draft tokens declared ∧ item.Pictured picture) state)
    (held : Test.clause.holds state = true) :
    start.Entered key
      (fun declared item =>
        item.Draft tokens declared ∧ item.Pictured (picture || (clause key state).1))
      (clause key state).2 := by
  have closed := Closed.keeps_entered start key fun declared item =>
    item.Draft tokens declared ∧ item.Pictured picture
  have plain (operation : Operation) (plain : operation.isPlain = true) :
      Obeys (Keeps (start.Entered key fun declared item =>
        item.Draft tokens declared ∧ item.Pictured picture)) (Analysis.revise key operation) :=
    Closed.obeys_revise_entered fun _ _ both =>
      ⟨both.1.change (operation.isClausal_of_isPlain plain), both.2.change plain⟩
  have pictured : Obeys (fun before after =>
      start.Entered key (fun declared item => item.Draft tokens declared) before →
        start.Entered key (fun declared item => item.Draft tokens declared ∧ item.Pictured true)
          after) (Analysis.pictureClause key) :=
    fun _ drafted => drafted.pictureClause
  have answer := closed.remarking.answers_clause Landmark.foreign_endOfInput.outsideEntries plain
    pictured state held
  cases found : (Analysis.clause key state).1 with
  | true =>
      rw [found, if_pos rfl] at answer
      rw [Bool.or_true]
      exact answer (entered.mono fun _ _ both => both.1)
  | false =>
      rw [found, if_neg Bool.false_ne_true] at answer
      rw [Bool.or_false]
      exact answer.kept entered

/-- Reading the clauses of an entry keeps its item a draft, and the answer tells
whether it has a picture. -/
theorem Entered.clauses {tokens : List Token}
    (entered : start.Entered key
      (fun declared item => item.Draft tokens declared ∧ item.Pictured false) state) :
    start.Entered key
      (fun declared item => item.Draft tokens declared ∧ item.Pictured (Analysis.clauses key state).1)
      (Analysis.clauses key state).2 := by
  refine loop_induction
    (fun picture state => start.Entered key
      (fun declared item => item.Draft tokens declared ∧ item.Pictured picture) state)
    ?_ ?_ false state entered
  · intro picture state after before ran
    rw [run_bind, run_ask, run_ite] at ran
    split at ran
    · cases ran
    · cases ran
      exact before
  · intro picture state next after before ran
    rw [run_bind, run_ask, run_ite] at ran
    split at ran
    · next held =>
      cases ran
      exact before.clause held
    · cases ran

/-! ## Whole entries -/

theorem begun_storage {tokens : List Token} {token : Token} (member : token ∈ tokens)
    (named : token.category = .identifier) {unit : SourceUnit}
    (begun : unit.currentSection.isSome) (level : Nat) :
    let item := { Item.storage token.value level token.line with inSection := unit.currentSection }
    item.Draft tokens (unit.key token.value) ∧ item.Pictured false :=
  ⟨⟨⟨rfl, ⟨token, member, named, rfl, rfl⟩, begun, rfl⟩, by simp [Item.storage], {}, rfl, rfl⟩,
    rfl, by simp [Item.storage, Item.type?, Item.attributes?, ItemBody.attributes?]⟩

/-- A storage entry adds a well-formed item or none. -/
theorem grown_storageEntry {tokens : List Token} {table : SymbolTable}
    (begun : InSection state) (grown : state.Grown tokens table) :
    (storageEntry state).2.Grown tokens table := by
  have closed := closed_still .endOfInput
  have header := entered_entryHeader Item.storage grown.sentinel
    (P := fun declared item => item.Draft tokens declared ∧ item.Pictured false)
    fun token member named => begun_storage (grown.tokens_eq ▸ member) named begun _
  have rest {middle : State} (still : (entryHeader Item.storage state).2.Still middle) :
      ((Analysis.clauses (entryHeader Item.storage state).1 >>= fun picture => do
        Analysis.revise (entryHeader Item.storage state).1
          (.setShape (if picture then .elementary else .group))
        entryPeriod) middle).2.Grown tokens table := by
    have shaped := (header.still still).clauses.revise
      (Q := fun declared item => item.WellFormed tokens declared)
      fun _ _ both => both.1.wellFormed both.2
    have period : Obeys State.Still entryPeriod :=
      closed.remarking.obeys_entryPeriod Landmark.foreign_endOfInput
    rw [run_bind, run_bind]
    exact (shaped.still (period _)).grown grown
  rw [storageEntry, run_bind, run_bind, run_ask, run_ite]
  split
  · exact rest (closed.refl _)
  · rw [run_bind, run_current, run_bind, run_bind]
    apply rest
    exact closed.reject _ _ _

theorem begun_constant {tokens : List Token} {token : Token} (member : token ∈ tokens)
    (named : token.category = .identifier) {unit : SourceUnit}
    (begun : unit.currentSection.isSome) (level : Nat) :
    { Item.constant token.value level token.line with
      inSection := unit.currentSection }.ConstantDraft tokens (unit.key token.value) :=
  ⟨⟨rfl, ⟨token, member, named, rfl, rfl⟩, begun, rfl⟩, rfl, rfl, rfl, none, rfl⟩

/-- What follows the header of a constant keeps its item a draft. -/
theorem keeps_constantEntry (start : State) (key : Option SymbolKey) (tokens : List Token) :
    Obeys (Keeps (start.Entered key fun declared item => item.ConstantDraft tokens declared))
      (constantRest key) := by
  have closed := Closed.keeps_entered start key fun declared item =>
    item.ConstantDraft tokens declared
  have foreign := Landmark.foreign_endOfInput
  have period := closed.remarking.obeys_entryPeriod foreign
  apply closed.obeys_bind (closed.obeys_expect (by decide))
  intro _
  refine closed.obeys_when
    (Obeys.obeysFrom (closed.remarking.obeys_globalClause foreign.outsideEntries ?_) _) ?_
  · exact Closed.obeys_revise_entered fun _ _ draft => draft.change (.inl rfl)
  · apply closed.obeys_bind (closed.remarking.obeys_constantValue foreign.outsideEntries)
    intro value
    cases value with
    | none => exact period
    | some value =>
        refine closed.obeys_bind (Closed.obeys_revise_entered fun _ _ draft => ?_) fun _ => period
        exact draft.change (.inr ⟨value, rfl⟩)

/-- The entry of a constant adds a well-formed item or none. -/
theorem grown_constantEntry {tokens : List Token} {table : SymbolTable}
    (begun : InSection state) (grown : state.Grown tokens table) :
    (constantEntry state).2.Grown tokens table := by
  have entry {start : State} (still : state.Still start) :
      (constantItem start).2.Grown tokens table := by
    have grown := grown.still still
    have header := entered_entryHeader Item.constant grown.sentinel
      (P := fun declared item => item.ConstantDraft tokens declared)
      fun token member named =>
        begun_constant (grown.tokens_eq ▸ member) named (still.unit_eq ▸ begun) _
    have read := (keeps_constantEntry start _ tokens _).kept header
    rw [constantItem, run_bind]
    exact (read.mono fun _ _ draft => draft.wellFormed).grown grown
  rw [constantEntry, run_bind, run_ask, run_ite]
  split
  · exact entry ((closed_still .endOfInput).refl state)
  · rw [run_bind]
    exact entry ((closed_still .endOfInput).obeys_reportHere _ state)

end State

/-! ## The symbol table of an analysis -/

/-- Nothing that an analysis does unmakes what its table has grown to. -/
theorem units_grown (tokens : List Token) (table : SymbolTable) :
    ClosedUnits .endOfInput (Keeps (State.Grown tokens table)) := by
  have closed : Closed .endOfInput (Keeps (State.Grown tokens table)) :=
    closed_keeps fun move grown => grown.still move.still
  have storage : ObeysFrom InSection (Keeping (Keeps (State.Grown tokens table))) storageEntry :=
    fun state begun =>
      have read := keeping_reports_storageEntry state
      ⟨⟨read.1.reports, State.grown_storageEntry begun⟩, read.2⟩
  have constant : ObeysFrom InSection (Keeping (Keeps (State.Grown tokens table))) constantEntry :=
    fun state begun =>
      have read := keeping_reports_constantEntry state
      ⟨⟨read.1.reports, State.grown_constantEntry begun⟩, read.2⟩
  exact {
    closed with
    foreign := Landmark.foreign_endOfInput
    unit := fun _ _ => ⟨List.suffix_rfl, fun grown => ⟨grown.1, grown.2, grown.3, grown.4⟩⟩
    entries := closed.obeysFrom_entries storage constant
    sentences := closed.obeys_all_sentences }

/-- An analysis keeps the items of the table it begins with, and the items that
it adds are well formed, whether anything is reported or not. -/
theorem table_analyze (file : String) (tokens : List Token) (table : SymbolTable) :
    (∀ key item, table.get? key = some item →
      (analyze file tokens table).table.get? key = some item) ∧
    ∀ key item, table.get? key = none →
      (analyze file tokens table).table.get? key = some item → item.WellFormed tokens key := by
  have units := units_grown tokens table
  have begun : (State.initial tokens table).Grown tokens table := by
    refine ⟨rfl, ?_, fun _ _ found => found, fun key item absent found => ?_⟩
    · exact (State.marks_sentinelAfter tokens).2.1
    · rw [show (State.initial tokens table).table = table from rfl, absent] at found
      cases found
  have read := (units.obeys_sourceUnits (by decide) maxNesting _).kept begun
  have ended := (units.obeys_leftover _).kept read
  have table_eq : (analyze file tokens table).table =
      (leftover (sourceUnits maxNesting (.initial tokens table)).2).2.table := rfl
  rw [table_eq]
  exact ⟨ended.kept, ended.added⟩

/-- A program that declares a number of four digits. -/
def numberProgram : String :=
  "PROGRAM-ID. A. DATA DIVISION. WORKING-STORAGE SECTION. 01 X PIC 9(4). PROCEDURE DIVISION."

/-- The number is declared, and what is declared is well formed. -/
theorem wellFormed_numberProgram :
    ∃ item, (analyze "a.cob" (Source.tokenize numberProgram) .empty).table.get? ⟨"A", "X"⟩ =
        some item ∧
      item.pictureLength? = some "4" ∧
      item.WellFormed (Source.tokenize numberProgram) ⟨"A", "X"⟩ := by
  have declared : ((analyze "a.cob" (Source.tokenize numberProgram) .empty).table.get?
      ⟨"A", "X"⟩).map Item.pictureLength? = some (some "4") := by decide +kernel
  obtain ⟨item, found, length⟩ := Option.map_eq_some_iff.mp declared
  exact ⟨item, found, length, (table_analyze _ _ _).2 _ item rfl found⟩

end CobolCheck
