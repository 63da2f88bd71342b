import CobolCheck.Proofs.Analysis.Segment
import CobolCheck.Proofs.Analysis.Unreported
import CobolCheck.Proofs.Declarations

/-!
# Complete items

What is left out of an entry is reported, so that an entry which is read without a
report declares a complete item: one with a valid level number, with a type and a length
if it is elementary, and with a value if it is a constant.
-/

namespace CobolCheck

open Analysis

/-! ## Complete items -/

/-- Whether a level number is that of a record, of an item of a record, or of an item
that stands for itself. -/
def Level.IsValid (level : Nat) : Prop :=
  1 ≤ level ∧ level ≤ 49 ∨ level = 77

/-- Whether a text is a number that follows an opening parenthesis among some tokens. -/
def Enclosed (tokens : List Token) (text : String) : Prop :=
  ∃ opening number, [opening, number] <:+: tokens ∧ opening.value = "(" ∧
    number.category = .numeric ∧ number.value = text

/-- A count of digits, and the scale after it if the type is numeric and has one. Both
are numbers in parentheses. -/
inductive IsPictureLength (tokens : List Token) (type : PictureType) : String → Prop
  | count {digits : String} (count : Enclosed tokens digits) : IsPictureLength tokens type digits
  | scaled {digits scale : String} (numeric : type.isNumeric = true)
      (count : Enclosed tokens digits) (places : Enclosed tokens scale) :
      IsPictureLength tokens type (digits ++ "V" ++ scale)

/-- Whether the attributes of a storage item have a type and a length of that type. -/
def Storage.Complete (tokens : List Token) (attributes : Storage) : Prop :=
  ∃ type ∈ attributes.type, ∃ length ∈ attributes.pictureLength, IsPictureLength tokens type length

/-- Whether nothing of an item is missing: `tokens` are those among which its entry
stands. -/
structure Item.Complete (tokens : List Token) (item : Item) : Prop where
  level : Level.IsValid item.level
  elementary : ∀ attributes ∈ item.attributes?,
    attributes.shape = .elementary → attributes.Complete tokens
  constant : item.isConstant = true → item.level = 1 ∧ item.constantValue?.isSome

/-- Whether an item is a storage item with a valid level number, whose shape is not
decided and whose attributes are of some kind. -/
structure Item.Opened (kind : Storage → Prop) (item : Item) : Prop where
  level : Level.IsValid item.level
  storage : ∃ attributes, item.body = .storage attributes ∧ attributes.shape = .undecided ∧
    kind attributes

/-- Whether an item is a constant of level 1. -/
structure Item.OpenedConstant (item : Item) : Prop where
  level : item.level = 1
  constant : ∃ value, item.body = .constant value

/-- Whether attributes have the type that a picture gave, which is known. -/
def Storage.Typed (type : Option PictureType) (attributes : Storage) : Prop :=
  type.isSome ∧ attributes.type = type

/-- Whether attributes are complete if a picture was read. -/
def Storage.CompleteIf (tokens : List Token) (picture : Bool) (attributes : Storage) : Prop :=
  picture = true → attributes.Complete tokens

namespace Item

variable {tokens : List Token} {item : Item} {kind other : Storage → Prop}

theorem Opened.mapStorage (opened : item.Opened kind) {change : Storage → Storage}
    (shape : ∀ attributes, (change attributes).shape = attributes.shape)
    (changed : ∀ attributes, kind attributes → other (change attributes)) :
    (item.mapStorage change).Opened other := by
  obtain ⟨level, attributes, body, undecided, holds⟩ := opened
  refine ⟨level, change attributes, ?_, (shape attributes).trans undecided, changed _ holds⟩
  rw [Item.mapStorage, body, ItemBody.mapStorage]

/-- A clause other than a picture leaves the type and the length as they are. -/
theorem Opened.change {picture : Bool} (opened : item.Opened (Storage.CompleteIf tokens picture))
    {operation : Operation} (plain : operation.isPlain = true) :
    (operation.change item).Opened (Storage.CompleteIf tokens picture) := by
  cases operation with
  | setInitialValue value => exact opened.mapStorage (fun _ => rfl) fun _ holds => holds
  | setExternal => exact ⟨opened.level, opened.storage⟩
  | setGlobal => exact ⟨opened.level, opened.storage⟩
  | setBased => exact ⟨opened.level, opened.storage⟩
  | add => cases plain
  | setSection => cases plain
  | setParent => cases plain
  | setType => cases plain
  | setPictureLength => cases plain
  | setShape => cases plain
  | setValue => cases plain

/-- Once its shape is decided, an item that is elementary only with a picture is complete. -/
theorem Opened.complete {picture : Bool}
    (opened : item.Opened (Storage.CompleteIf tokens picture)) :
    (Operation.change (.setShape (if picture then .elementary else .group)) item).Complete
      tokens := by
  obtain ⟨level, attributes, body, undecided, holds⟩ := opened
  have body_eq :
      (Operation.change (.setShape (if picture then .elementary else .group)) item).body =
      .storage { attributes with shape := if picture then .elementary else .group } := by
    simp [Operation.change, setShape, Item.mapStorage, body, ItemBody.mapStorage, undecided]
  refine ⟨level, ?_, ?_⟩
  · intro found shown elementary
    rw [attributes?, body_eq, ItemBody.attributes?, Option.mem_some_iff] at shown
    subst shown
    cases picture with
    | true => exact holds rfl
    | false => cases elementary
  · rw [isConstant, attributes?, body_eq]
    rintro ⟨⟩

theorem OpenedConstant.complete (opened : item.OpenedConstant) (value : ConstantValue) :
    (Operation.change (.setValue value) item).Complete tokens := by
  obtain ⟨level, known, body⟩ := opened
  have body_eq : (Operation.change (.setValue value) item).body = .constant (some value) := by
    rw [Operation.change, setValue, body, ItemBody.setValue]
  refine ⟨.inl ?_, ?_, fun _ => ⟨level, ?_⟩⟩
  · change 1 ≤ item.level ∧ item.level ≤ 49
    rw [level]
    decide
  · simp [attributes?, body_eq, ItemBody.attributes?]
  · rw [constantValue?, body_eq]
    rfl

end Item

namespace State

/-- Whether all items of a symbol table are complete. -/
structure Settled (tokens : List Token) (state : State) : Prop where
  tokens_eq : state.tokens = tokens
  sentinel : state.sentinel.category = .eof
  complete : ∀ key item, state.table.get? key = some item → item.Complete tokens

variable {tokens : List Token} {start state after : State} {key : Option SymbolKey}
  {P Q : SymbolKey → Item → Prop}

/-- An entry leaves all items complete if it leaves its own item complete. -/
theorem Entered.settled (settled : start.Settled tokens)
    (entered : start.Entered key (fun _ item => item.Complete tokens) after) :
    after.Settled tokens where
  tokens_eq := entered.tokens_eq.trans settled.tokens_eq
  sentinel := entered.sentinel_eq ▸ settled.sentinel
  complete name item found := by
    by_cases declared : key = some name
    · obtain ⟨new, new_found, complete⟩ := entered.item name declared
      obtain rfl : new = item := Option.some.inj (new_found.symm.trans found)
      exact complete
    · rw [entered.others name declared] at found
      exact settled.complete name item found

theorem Settled.still (settled : state.Settled tokens) (still : state.Still after) :
    after.Settled tokens :=
  (entered_none still).settled settled

/-! ## Entries that are read without a report -/

theorem closed_entered (start : State) (key : Option SymbolKey) (P : SymbolKey → Item → Prop) :
    Closed .endOfInput (Brings (start.Entered key P) (start.Entered key P)) :=
  closed_brings fun still entered => entered.still still

theorem reports_revise (key : Option SymbolKey) (operation : Operation) (state : State) :
    (revise key operation state).2.reports = state.reports := by
  cases key <;> rfl

theorem keeps_reports_revise (key : Option SymbolKey) (operation : Operation) :
    Obeys (Keeps fun _ => True) (revise key operation) :=
  fun state => ⟨(reports_revise key operation state).symm ▸ List.suffix_rfl, id⟩

theorem yields_revise {operation : Operation}
    (changed : ∀ declared item, P declared item → Q declared (operation.change item)) :
    Yields (start.Entered key P) (fun _ => start.Entered key Q) (revise key operation) := by
  intro state
  constructor
  · exact (reports_revise key operation state).symm ▸ List.suffix_rfl
  · exact fun _ entered => entered.revise changed

/-- What is counted without a report is a number in parentheses. -/
theorem enclosed_digitCount (ended : state.sentinel.category = .eof)
    (unreported : (digitCount state).2.reports = []) :
    Enclosed state.tokens (digitCount state).1 := by
  have kept (middle : State) : middle.reports <:+ (expect ")" middle).2.reports :=
    (closed_reports.obeys_expect (by decide) middle).reports
  have counted (middle : State) : middle.reports <:+ (number middle).2.reports :=
    (closed_reports.obeys_number (by decide) middle).reports
  rw [digitCount, run_bind, run_bind, run_word, run_bind, run_bind, run_pure] at unreported ⊢
  dsimp only at unreported ⊢
  have unreported_number : (number (expect "(" state).2).2.reports = [] := by
    have suffix := kept (number (expect "(" state).2).2
    rwa [unreported, List.suffix_nil] at suffix
  have unreported_expect : (expect "(" state).2.reports = [] := by
    have suffix := counted (expect "(" state).2
    rwa [unreported_number, List.suffix_nil] at suffix
  rw [expect, run_discard, run_acceptIf] at unreported_expect unreported_number ⊢
  split at unreported_expect
  · next opens =>
    rw [if_pos opens] at unreported_number ⊢
    rw [number, run_discard, operand, run_acceptIf] at unreported_number
    split at unreported_number
    · next numeric =>
      have category := List.mem_singleton.mp ((Test.holds_has_iff _ _).mp numeric)
      -- the sentinel is no number, so both tokens are among those of the text
      have ahead_eq : (state.emit state.current).skip.ahead = state.ahead.tail := by
        rw [ahead_skip, ahead_emit]
      cases rest_eq : state.ahead.tail with
      | nil =>
          rw [current_of_ahead_nil (ahead_eq.trans rest_eq), (still_emit_skip _ state).sentinel_eq,
            ended] at category
          cases category
      | cons number rest =>
          obtain ⟨opening, whole⟩ : ∃ opening, state.ahead = opening :: number :: rest := by
            cases whole : state.ahead with
            | nil => rw [whole] at rest_eq; cases rest_eq
            | cons opening others =>
                rw [whole, List.tail_cons] at rest_eq
                exact ⟨opening, by rw [rest_eq]⟩
          have current_eq := current_of_ahead_cons (ahead_eq.trans rest_eq)
          rw [current_eq] at category ⊢
          refine ⟨opening, number, ⟨state.behind.reverse, rest, ?_⟩, ?_, category, rfl⟩
          · rw [tokens, whole]
            simp
          · rw [Test.holds_is_iff, current_of_ahead_cons whole] at opens
            exact opens
    · exact absurd unreported_number (reports_reject_ne_nil _ _ _)
  · exact absurd unreported_expect (reports_reject_ne_nil _ _ _)

theorem yields_digitCount (ended : start.sentinel.category = .eof) :
    Yields (start.Entered key P)
      (fun digits => start.Entered key fun declared item =>
        P declared item ∧ Enclosed start.tokens digits)
      digitCount := by
  intro state
  have outside := Landmark.foreign_endOfInput.outsideEntries
  have read := (closed_entered start key P).remarking.obeys_digitCount outside state
  refine ⟨read.reports, fun unreported entered => ?_⟩
  have counted := enclosed_digitCount (entered.sentinel_eq ▸ ended) unreported
  rw [entered.tokens_eq] at counted
  exact (read.holds unreported entered).mono fun _ _ holds => ⟨holds, counted⟩

/-- The type code of a picture that is not reported is known. -/
theorem yields_pictureTypeCode :
    Yields (start.Entered key fun _ item => item.Opened fun _ => True)
      (fun type => start.Entered key fun _ item => item.Opened (Storage.Typed type))
      (pictureTypeCode key) := by
  have closed := closed_entered start key fun _ item => item.Opened fun _ => True
  intro state
  rw [pictureTypeCode, run_bind, run_word]
  dsimp only
  cases found : PictureType.ofCode? state.current.value with
  | some type =>
    rw [PictureType.ofCode?_eq_some_iff] at found
    have inside : ¬Landmark.endOfInput.Marks state.current := by
      rintro ⟨value_eq, _⟩
      rw [found] at value_eq
      exact absurd value_eq (by cases type <;> decide)
    refine (closed.obeysFrom_accept state inside).trans (yields_revise ?_ _)
    exact fun _ _ opened => opened.mapStorage (fun _ => rfl) fun _ _ => ⟨rfl, rfl⟩
  | none => exact .of_reported (closed.reject state _ _).reports (reports_reject_ne_nil _ _ _)

/-- A length of the type that was read makes attributes complete. -/
theorem yields_setPictureLength {tokens : List Token} {type : Option PictureType} {length : String}
    (fits : ∀ declared item, P declared item → item.Opened (Storage.Typed type) ∧
      ∀ found ∈ type, IsPictureLength tokens found length) :
    Yields (start.Entered key P)
      (fun _ => start.Entered key fun _ item => item.Opened (Storage.Complete tokens))
      (revise key (.setPictureLength length)) := by
  apply yields_revise
  intro declared item holds
  obtain ⟨opened, fitting⟩ := fits declared item holds
  refine opened.mapStorage (fun _ => rfl) ?_
  rintro attributes ⟨some, type_eq⟩
  obtain ⟨found, rfl⟩ := Option.isSome_iff_exists.mp some
  exact ⟨found, type_eq, length, rfl, fitting found rfl⟩

/-- A scale after a count of digits, if the type may have one. -/
theorem yields_scale (ended : start.sentinel.category = .eof) {type : Option PictureType}
    (numeric : ∀ found ∈ type, found.isNumeric = true) (digits : String) :
    Yields
      (start.Entered key fun _ item =>
        item.Opened (Storage.Typed type) ∧ Enclosed start.tokens digits)
      (fun _ => start.Entered key fun _ item => item.Opened (Storage.Complete start.tokens))
      (digitCount >>= fun scale => revise key (.setPictureLength (digits ++ "V" ++ scale))) := by
  apply (yields_digitCount ended).bind
  intro scale
  apply yields_setPictureLength
  rintro _ item ⟨⟨opened, count⟩, places⟩
  exact ⟨opened, fun found known => .scaled (numeric found known) count places⟩

/-- `V9(digits)` after a count of digits. -/
theorem brings_scaled (ended : start.sentinel.category = .eof) (type : Option PictureType)
    (digits : String) :
    ObeysFrom (fun state => (Test.is "V9").holds state = true)
      (Brings
        (start.Entered key fun _ item =>
          item.Opened (Storage.Typed type) ∧ Enclosed start.tokens digits)
        (start.Entered key fun _ item => item.Opened (Storage.Complete start.tokens)))
      (do
        if type.any fun type => !type.isNumeric then reportHere (.general .scaleOfText)
        accept
        let scale ← digitCount
        revise key (.setPictureLength (digits ++ "V" ++ scale))) := by
  have avoided : (Test.is "V9").avoids .endOfInput 0 = true := Test.avoids_is (by decide)
  have withdraws : ObeysFrom (fun state => (Test.is "V9").holds state = true)
      (Keeps fun _ => True) (do
        accept
        let scale ← digitCount
        revise key (.setPictureLength (digits ++ "V" ++ scale))) := by
    apply closed_reports.obeysFrom_bind (closed_reports.obeysFrom_accept_of_holds avoided)
    intro _
    apply closed_reports.obeys_bind
      (closed_reports.remarking.obeys_digitCount Landmark.foreign_endOfInput.outsideEntries)
    intro _
    exact keeps_reports_revise key _
  intro state held
  rw [run_ite]
  split
  · exact .of_report (withdraws (reportHere _ state).2 held).reports
  · next text =>
    have numeric : ∀ found ∈ type, found.isNumeric = true := by
      rintro found rfl
      simpa using text
    dsimp only
    rw [run_bind]
    exact ((closed_entered start key _).obeysFrom_accept_of_holds avoided state held).trans
      (yields_scale ended numeric digits _)

/-- A picture that is not reported gives an item its type and its length. -/
theorem yields_pictureClause (ended : start.sentinel.category = .eof) :
    Yields (start.Entered key fun _ item => item.Opened fun _ => True)
      (fun _ => start.Entered key fun _ item => item.Opened (Storage.Complete start.tokens))
      (pictureClause key) := by
  have closed := closed_entered start key fun _ item => item.Opened fun _ => True
  apply (closed.obeys_choose (by decide)).yields_bind
  intro _
  apply (closed.obeys_optional (by decide)).discard.yields_bind
  intro _
  apply yields_pictureTypeCode.bind
  intro type
  apply (yields_digitCount ended).bind
  intro digits state
  rw [run_bind, run_ask, run_ite]
  split
  · next held => exact brings_scaled ended type digits state held
  · apply yields_setPictureLength
    exact fun _ _ ⟨opened, counted⟩ => ⟨opened, fun _ _ => .count counted⟩

/-- A clause that is not reported keeps the attributes complete once a picture was read. -/
theorem brings_clause (ended : start.sentinel.category = .eof) {picture : Bool}
    (held : Test.clause.holds state = true) :
    Brings
      (start.Entered key fun _ item => item.Opened (Storage.CompleteIf start.tokens picture))
      (start.Entered key fun _ item =>
        item.Opened (Storage.CompleteIf start.tokens (picture || (clause key state).1)))
      state (clause key state).2 := by
  have closed := closed_entered start key fun _ item =>
    item.Opened (Storage.CompleteIf start.tokens picture)
  have plain (operation : Operation) (plain : operation.isPlain = true) :
      Obeys (Brings
        (start.Entered key fun _ item => item.Opened (Storage.CompleteIf start.tokens picture))
        (start.Entered key fun _ item => item.Opened (Storage.CompleteIf start.tokens picture)))
        (revise key operation) :=
    yields_revise fun _ _ opened => opened.change plain
  have answer := closed.remarking.answers_clause Landmark.foreign_endOfInput.outsideEntries plain
    (yields_pictureClause ended) state held
  cases found : (clause key state).1 with
  | true =>
      rw [found, if_pos rfl] at answer
      rw [Bool.or_true]
      refine (answer.of_imp fun _ entered => ?_).mono fun _ entered => ?_
      · exact entered.mono fun _ _ opened => ⟨opened.level, opened.storage.imp fun _ holds =>
          ⟨holds.1, holds.2.1, trivial⟩⟩
      · exact entered.mono fun _ _ opened => ⟨opened.level, opened.storage.imp fun _ holds =>
          ⟨holds.1, holds.2.1, fun _ => holds.2.2⟩⟩
  | false =>
      rw [found, if_neg Bool.false_ne_true] at answer
      rw [Bool.or_false]
      exact answer

theorem yields_clauses (ended : start.sentinel.category = .eof) :
    Yields (start.Entered key fun _ item => item.Opened fun _ => True)
      (fun picture => start.Entered key fun _ item =>
        item.Opened (Storage.CompleteIf start.tokens picture))
      (clauses key) := by
  intro state
  have begun : Brings (start.Entered key fun _ item => item.Opened fun _ => True)
      (start.Entered key fun _ item => item.Opened (Storage.CompleteIf start.tokens false))
      state state :=
    ⟨List.suffix_rfl, fun _ entered => entered.mono fun _ _ opened =>
      ⟨opened.level, opened.storage.imp fun _ holds => ⟨holds.1, holds.2.1, nofun⟩⟩⟩
  refine loop_induction
    (fun picture middle => Brings _ (start.Entered key fun _ item =>
      item.Opened (Storage.CompleteIf start.tokens picture)) state middle)
    ?_ ?_ false state begun
  · intro picture middle after before ran
    rw [run_bind, run_ask, run_ite] at ran
    split at ran
    · cases ran
    · cases ran
      exact before
  · intro picture middle next after before ran
    rw [run_bind, run_ask, run_ite] at ran
    split at ran
    · next held =>
      cases ran
      exact before.trans (brings_clause ended held)
    · cases ran

/-! ## Whole entries -/

/-- What follows the header of an entry makes its item complete. -/
theorem yields_storageRest (settled : start.Settled tokens) (key : Option SymbolKey) :
    Yields (start.Entered key fun _ item => item.Opened fun _ => True) (fun _ => Settled tokens)
      (storageRest key) := by
  have period : Obeys (Brings (Settled tokens) (Settled tokens)) entryPeriod :=
    (closed_brings fun still settled => settled.still still).remarking.obeys_entryPeriod
      Landmark.foreign_endOfInput
  have rest : Yields (start.Entered key fun _ item => item.Opened fun _ => True)
      (fun _ => Settled tokens) (do
        let picture ← clauses key
        revise key (.setShape (if picture then .elementary else .group))
        entryPeriod) := by
    apply (yields_clauses settled.sentinel).bind
    intro picture
    have shaped : Yields
        (start.Entered key fun _ item => item.Opened (Storage.CompleteIf start.tokens picture))
        (fun _ => Settled tokens)
        (revise key (.setShape (if picture then .elementary else .group))) := by
      intro state
      refine (yields_revise (fun _ _ opened => opened.complete) state).mono fun after entered => ?_
      rw [settled.tokens_eq] at entered
      exact entered.settled settled
    exact shaped.bind fun _ => period
  have closed := closed_entered start key fun _ item => item.Opened fun _ => True
  intro state
  rw [storageRest, run_bind, run_ask, run_ite]
  split
  · exact rest state
  · rw [run_bind, run_current, run_bind, run_bind]
    exact (closed.reject state _ _).trans (rest _)

/-- An entry that begins with a valid level number declares a complete item. -/
theorem brings_storageEntry
    (valid : Level.IsValid ((Level.ofText? state.current.value).getD 0)) :
    Brings (Settled tokens) (Settled tokens) state (storageEntry state).2 := by
  refine ⟨(keeping_reports_storageEntry state).1.reports, fun unreported settled => ?_⟩
  have header : state.Entered _ (fun _ item => item.Opened fun _ => True) _ :=
    entered_entryHeader Item.storage settled.sentinel
      fun token _ _ => ⟨valid, {}, rfl, rfl, trivial⟩
  rw [storageEntry, run_bind] at unreported ⊢
  exact (yields_storageRest settled _ _).holds unreported header

/-- An identifier that is not reported is there. -/
theorem yields_identifier : Yields (fun _ => True) (fun named _ => named = true) identifier := by
  intro state
  have kept : state.reports <:+ (identifier state).2.reports :=
    (closed_reports.obeys_identifier (by decide) state).reports
  rw [identifier, operand, run_acceptIf] at kept ⊢
  by_cases named : (Test.has [.identifier]).holds state = true
  · rw [if_pos named] at kept ⊢
    exact ⟨kept, fun _ _ => rfl⟩
  · rw [if_neg named] at kept ⊢
    exact .of_reported kept (reports_reject_ne_nil _ _ _)

/-- The value of a constant that is not reported is known. -/
theorem yields_constantValue :
    Yields (fun _ => True) (fun value _ => value.isSome = true) constantValue := by
  have outside := Landmark.foreign_endOfInput.outsideEntries
  have closed : Closed .endOfInput (Brings (fun _ => True) fun _ => True) :=
    closed_brings fun _ _ => trivial
  apply (closed.obeys_optional (by decide)).yields_bind
  intro fromItem
  apply yields_ite
  · intro _
    apply (closed.obeys_look fun _ => rfl).yields_bind
    intro name
    apply yields_identifier.bind
    intro named
    apply yields_ite
    · exact fun _ => yields_pure _ fun _ _ => rfl
    · exact fun absent => yields_pure _ fun _ present => absurd present absent
  intro _
  apply (closed.obeys_optional (by decide)).discard.yields_bind
  intro _
  apply (closed.obeys_look fun _ => rfl).yields_bind
  intro literal state
  rw [run_bind, run_ask]
  cases held : (Test.has [.string, .numeric, .figurative]).holds state with
  | true =>
      have accepted := closed.obeysFrom_accept_of_holds (Test.avoids_has (by decide)) state held
      have lengths := closed.remarking.obeys_constantLengths outside (accept state).2
      exact (accepted.trans lengths).mono fun _ _ => rfl
  | false =>
      dsimp only
      rw [if_neg Bool.false_ne_true]
      apply Brings.of_report
      apply Keeps.reports
      have passed : Obeys (Keeps fun _ => True) Analysis.skip := fun state =>
        ⟨(still_skip state).reports, id⟩
      refine closed_reports.obeys_unless (passed.obeysFrom _) ?_ (reportHere _ state).2
      exact closed_reports.obeys_bind (closed_reports.remarking.obeys_constantLengths outside)
        fun _ => closed_reports.obeys_pure _

/-- What follows the header of a constant makes its item complete. -/
theorem yields_constantRest (settled : start.Settled tokens) (key : Option SymbolKey) :
    Yields (start.Entered key fun _ item => item.OpenedConstant) (fun _ => Settled tokens)
      (constantRest key) := by
  have outside := Landmark.foreign_endOfInput.outsideEntries
  have closed := closed_entered start key fun _ item => item.OpenedConstant
  have period : Obeys (Brings (Settled tokens) (Settled tokens)) entryPeriod :=
    (closed_brings fun still settled => settled.still still).remarking.obeys_entryPeriod
      Landmark.foreign_endOfInput
  have rest : Yields (start.Entered key fun _ item => item.OpenedConstant)
      (fun _ => Settled tokens) (constantEnd key) := by
    have valued : Yields (start.Entered key fun _ item => item.OpenedConstant)
        (fun value => start.Entered key fun _ item => item.OpenedConstant ∧ value.isSome = true)
        constantValue := by
      intro state
      have kept := closed.remarking.obeys_constantValue outside state
      refine ⟨kept.reports, fun unreported entered => ?_⟩
      have known := (yields_constantValue state).holds unreported trivial
      exact (kept.holds unreported entered).mono fun _ _ opened => ⟨opened, known⟩
    apply valued.bind
    intro value
    cases value with
    | none =>
        refine fun state => (period state).of_imp fun _ entered => ?_
        exact (entered.mono fun _ _ opened => absurd opened.2 Bool.false_ne_true).settled settled
    | some value =>
        refine Yields.bind (fun state => ?_) fun _ => period
        exact (yields_revise (Q := fun _ item => item.Complete tokens)
          (fun _ _ opened => opened.1.complete value) state).mono
            fun _ entered => entered.settled settled
  have global : Obeys (Brings (start.Entered key fun _ item => item.OpenedConstant)
      (start.Entered key fun _ item => item.OpenedConstant)) (globalClause key) :=
    closed.remarking.obeys_globalClause outside (yields_revise fun _ _ opened =>
      ⟨opened.level, opened.constant⟩)
  apply (closed.obeys_expect (by decide)).yields_bind
  intro _
  apply yields_ask
  · exact global.yields_bind fun _ => rest
  · exact rest

/-- A constant is read without a change to the unit, and no report is withdrawn. -/
theorem keeping_reports_constantItem : Obeys (Keeping (Keeps fun _ => True)) constantItem :=
  closed_reports.keeping.remarking.obeys_constantItem Landmark.foreign_endOfInput
    (closed_reports.keeping_declare fun _ _ => ⟨List.suffix_rfl, id⟩)
    (closed_reports.keeping_revise fun _ _ => ⟨List.suffix_rfl, id⟩)

/-- A constant that begins with the level number of a record is complete. -/
theorem brings_constantItem (level : (Level.ofText? state.current.value).getD 0 = 1) :
    Brings (Settled tokens) (Settled tokens) state (constantItem state).2 := by
  refine ⟨(keeping_reports_constantItem state).1.reports, fun unreported settled => ?_⟩
  have header : state.Entered _ (fun _ item => item.OpenedConstant) _ :=
    entered_entryHeader Item.constant settled.sentinel fun token _ _ => ⟨level, none, rfl⟩
  rw [constantItem, run_bind] at unreported ⊢
  exact (yields_constantRest settled _ _).holds unreported header

/-- The entry of a constant declares a complete item. -/
theorem brings_constantEntry (state : State) :
    Brings (Settled tokens) (Settled tokens) state (constantEntry state).2 := by
  rw [constantEntry, run_bind, run_ask, run_ite]
  split
  · next first =>
    have word : state.current.value = "01" ∨ state.current.value = "1" := by
      simpa [Test.isAny, Test.holds, State.current] using first
    apply brings_constantItem
    rcases word with word | word
    · rw [word]
      decide
    · rw [word]
      decide
  · rw [run_bind]
    exact .of_report (keeping_reports_constantItem _).1.reports

/-! ## The data division -/

/-- The level number of an item of a record is valid. -/
theorem isValid_of_isSubordinate {text : String} (subordinate : Level.isSubordinate text = true) :
    Level.IsValid ((Level.ofText? text).getD 0) := by
  rw [Level.isSubordinate, Option.any_eq_true] at subordinate
  obtain ⟨level, found, bounds⟩ := subordinate
  simp only [Bool.and_eq_true, decide_eq_true_eq] at bounds
  rw [found, Option.getD_some]
  exact .inl ⟨by omega, bounds.2⟩

theorem brings_recordEntries (valid : Level.IsValid ((Level.ofText? state.current.value).getD 0)) :
    Brings (Settled tokens) (Settled tokens) state (recordEntries state).2 := by
  have closed : Closed .endOfInput (Brings (Settled tokens) (Settled tokens)) :=
    closed_brings fun still settled => settled.still still
  rw [recordEntries, run_bind]
  refine (brings_storageEntry valid).trans (closed.obeys_whilst (fun middle held => ?_) _)
  apply brings_storageEntry
  simp only [Test.holds, Bool.and_eq_true] at held
  exact isValid_of_isSubordinate held.2

theorem brings_entries (state : State) :
    Brings (Settled tokens) (Settled tokens) state (entries state).2 := by
  rw [entries, run_bind, run_ask, run_ite]
  split
  · exact brings_constantEntry state
  rw [run_bind, run_ask, run_ite]
  split
  · next alone =>
    rw [Test.holds_is_iff] at alone
    apply brings_storageEntry
    rw [alone]
    exact .inr (by decide)
  rw [run_bind, run_ask, run_ite]
  split
  · next record =>
    have level : state.current.value = "01" ∨ state.current.value = "1" := by
      simpa [Test.isAny, Test.holds, State.current] using record
    apply brings_recordEntries
    rcases level with level | level
    · rw [level]
      exact .inl (by decide)
    · rw [level]
      exact .inl (by decide)
  · rw [run_bind]
    exact .of_report (keeping_reports_storageEntry _).1.reports

end State

/-- Source units leave all items complete, unless something is reported. -/
theorem units_settled (tokens : List Token) :
    ClosedUnits .endOfInput (Brings (State.Settled tokens) (State.Settled tokens)) := by
  have closed : Closed .endOfInput (Brings (State.Settled tokens) (State.Settled tokens)) :=
    closed_brings fun still settled => settled.still still
  exact {
    closed with
    foreign := Landmark.foreign_endOfInput
    unit := fun _ _ => ⟨List.suffix_rfl, fun _ settled => ⟨settled.1, settled.2, settled.3⟩⟩
    entries := fun state begun =>
      ⟨State.brings_entries state, (units_reports.entries state begun).2⟩
    sentences := closed.obeys_all_sentences }

end CobolCheck
