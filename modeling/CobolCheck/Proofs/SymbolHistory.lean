import CobolCheck.Symbol.Operation

/-!
# Symbol tables over time

What holds of a symbol table after any sequence of operations, whatever their keys and
whatever their order. What one operation does to an item is said once, by `Item.Evolves`,
and every sequence of operations is one induction from there.
-/

namespace CobolCheck

/-! ## Items over time -/

/-- Whether the attributes of a storage item may have become other ones: none of them is
lost, and only an undecided shape is changed. -/
structure Storage.Evolves (attributes found : Storage) : Prop where
  type : attributes.type.isSome → found.type.isSome
  pictureLength : attributes.pictureLength.isSome → found.pictureLength.isSome
  initialValue : attributes.initialValue.isSome → found.initialValue.isSome
  shape : found.shape = attributes.shape ∨ attributes.shape = .undecided

theorem Storage.Evolves.refl (attributes : Storage) : attributes.Evolves attributes :=
  ⟨id, id, id, .inl rfl⟩

namespace Item

/-- The shape of a storage item, decided or not. -/
def shape? (item : Item) : Option Shape :=
  item.attributes?.map Storage.shape

/-- Whether an item may have become another one. What it was declared as stays, no mark is
cleared, no attribute is lost, and only an undecided shape is changed. -/
structure Evolves (item found : Item) : Prop where
  identifier_eq : found.identifier = item.identifier
  level_eq : found.level = item.level
  line_eq : found.line = item.line
  isConstant_eq : found.isConstant = item.isConstant
  isExternal : item.isExternal = true → found.isExternal = true
  isGlobal : item.isGlobal = true → found.isGlobal = true
  isBased : item.isBased = true → found.isBased = true
  inSection : item.inSection.isSome → found.inSection.isSome
  parent : item.parent.isSome → found.parent.isSome
  externalName : item.externalName.isSome → found.externalName.isSome
  type : item.type?.isSome → found.type?.isSome
  pictureLength : item.pictureLength?.isSome → found.pictureLength?.isSome
  initialValue : item.initialValue?.isSome → found.initialValue?.isSome
  constantValue : item.constantValue?.isSome → found.constantValue?.isSome
  shape : found.shape? = item.shape? ∨ item.shape? = some .undecided

/-- A constant has nothing that a storage item has. -/
theorem views_of_isConstant {item : Item} (isConstant : item.isConstant = true) :
    item.type? = none ∧ item.pictureLength? = none ∧ item.initialValue? = none ∧
      item.shape? = none ∧ item.isElementary = false ∧ item.isGroup = false := by
  have attributes : item.attributes? = none := Option.isNone_iff_eq_none.mp isConstant
  simp [type?, pictureLength?, initialValue?, shape?, isElementary, isGroup, attributes]

/-- A storage item has no value of a constant. -/
theorem constantValue?_of_isConstant_eq_false {item : Item} (isStorage : item.isConstant = false) :
    item.constantValue? = none := by
  cases body : item.body with
  | storage attributes => rw [constantValue?, body, ItemBody.value?]
  | constant value =>
      rw [isConstant, attributes?, body, ItemBody.attributes?] at isStorage
      cases isStorage

namespace Evolves

variable {item found last : Item}

theorem refl (item : Item) : item.Evolves item where
  identifier_eq := rfl
  level_eq := rfl
  line_eq := rfl
  isConstant_eq := rfl
  isExternal := id
  isGlobal := id
  isBased := id
  inSection := id
  parent := id
  externalName := id
  type := id
  pictureLength := id
  initialValue := id
  constantValue := id
  shape := .inl rfl

theorem trans (first : item.Evolves found) (second : found.Evolves last) : item.Evolves last where
  identifier_eq := second.identifier_eq.trans first.identifier_eq
  level_eq := second.level_eq.trans first.level_eq
  line_eq := second.line_eq.trans first.line_eq
  isConstant_eq := second.isConstant_eq.trans first.isConstant_eq
  isExternal := second.isExternal ∘ first.isExternal
  isGlobal := second.isGlobal ∘ first.isGlobal
  isBased := second.isBased ∘ first.isBased
  inSection := second.inSection ∘ first.inSection
  parent := second.parent ∘ first.parent
  externalName := second.externalName ∘ first.externalName
  type := second.type ∘ first.type
  pictureLength := second.pictureLength ∘ first.pictureLength
  initialValue := second.initialValue ∘ first.initialValue
  constantValue := second.constantValue ∘ first.constantValue
  shape := by
    rcases first.shape with same | undecided
    · rw [← same]
      exact second.shape
    · exact .inr undecided

/-- An item evolves as its attributes do. -/
theorem mapStorage (item : Item) {change : Storage → Storage}
    (evolves : ∀ attributes : Storage, attributes.Evolves (change attributes)) :
    item.Evolves (item.mapStorage change) := by
  have constantValue : (item.mapStorage change).constantValue? = item.constantValue? :=
    item.body.value?_mapStorage change
  have after := item.attributes?_mapStorage change
  cases body : item.body with
  | constant value =>
      have same : item.mapStorage change = item := by
        rw [Item.mapStorage, body, ItemBody.mapStorage, ← body]
      rw [same]
      exact refl item
  | storage attributes =>
      have before : item.attributes? = some attributes := by
        rw [attributes?, body, ItemBody.attributes?]
      rw [before, Option.map_some] at after
      have found := evolves attributes
      exact { refl item with
        isConstant_eq := item.isConstant_mapStorage change
        type := by rw [type?, type?, before, after]; exact found.type
        pictureLength := by
          rw [pictureLength?, pictureLength?, before, after]
          exact found.pictureLength
        initialValue := by
          rw [initialValue?, initialValue?, before, after]
          exact found.initialValue
        constantValue := by rw [constantValue]; exact id
        shape := by
          rw [shape?, shape?, before, after, Option.map_some, Option.map_some,
            Option.some.injEq, Option.some.injEq]
          exact found.shape }

/-- An item takes the value of a constant, or none. -/
theorem setValue (value : ConstantValue) (item : Item) : item.Evolves (item.setValue value) := by
  have after : (item.setValue value).attributes? = item.attributes? :=
    item.body.attributes?_setValue value
  exact { refl item with
    isConstant_eq := item.isConstant_setValue value
    type := by rw [type?, type?, after]; exact id
    pictureLength := by rw [pictureLength?, pictureLength?, after]; exact id
    initialValue := by rw [initialValue?, initialValue?, after]; exact id
    constantValue := by
      cases body : item.body with
      | storage attributes => simp [constantValue?, body, ItemBody.value?]
      | constant former =>
          simp [constantValue?, Item.setValue, body, ItemBody.setValue, ItemBody.value?]
    shape := by rw [shape?, shape?, after]; exact .inl rfl }

/-- No operation makes of an item what it may not become. -/
theorem change (operation : Operation) (item : Item) : item.Evolves (operation.change item) := by
  cases operation with
  | add added => exact refl item
  | setSection kind => exact { refl item with inSection := fun _ => rfl }
  | setParent name => exact { refl item with parent := fun _ => rfl }
  | setType type =>
      exact mapStorage item fun attributes =>
        { Storage.Evolves.refl attributes with type := fun _ => rfl }
  | setPictureLength length =>
      exact mapStorage item fun attributes =>
        { Storage.Evolves.refl attributes with pictureLength := fun _ => rfl }
  | setInitialValue value =>
      exact mapStorage item fun attributes =>
        { Storage.Evolves.refl attributes with initialValue := fun _ => rfl }
  | setShape shape =>
      refine mapStorage item fun attributes => ?_
      split
      · next undecided =>
          exact { Storage.Evolves.refl attributes with shape := .inr undecided }
      · exact Storage.Evolves.refl attributes
  | setValue value => exact setValue value item
  | setExternal name =>
      exact { refl item with isExternal := fun _ => rfl, externalName := fun _ => rfl }
  | setGlobal => exact { refl item with isGlobal := fun _ => rfl }
  | setBased => exact { refl item with isBased := fun _ => rfl }

end Evolves

end Item

/-! ## One operation -/

namespace Operation

/-- Whether a step adds an item. -/
def enters (table : SymbolTable) : SymbolKey × Operation → Bool
  | (key, .add item) => (table.add key item).isOk
  | _ => false

/-- The shape of the item under a key, if it is a storage item. -/
def shapeAt? (table : SymbolTable) (key : SymbolKey) : Option Shape :=
  (table.get? key).bind Item.shape?

/-- Whether a step changes the shape of an item that is under the key already. -/
def reshapes (table : SymbolTable) (key : SymbolKey) (step : SymbolKey × Operation) : Bool :=
  table.contains key && shapeAt? (after table step) key != shapeAt? table key

/-- Whether an operation is about the attributes of storage items. -/
def isForStorage : Operation → Bool
  | setType _ | setPictureLength _ | setInitialValue _ | setShape _ => true
  | _ => false

variable {table other : SymbolTable} {key : SymbolKey} {item : Item}

/-- A constant takes no attribute of a storage item. -/
theorem change_of_isConstant {operation : Operation} (forStorage : operation.isForStorage = true)
    (isConstant : item.isConstant = true) : operation.change item = item := by
  have kept : ∀ change : Storage → Storage, item.mapStorage change = item := by
    intro change
    cases body : item.body with
    | storage attributes =>
        rw [Item.isConstant, Item.attributes?, body, ItemBody.attributes?] at isConstant
        cases isConstant
    | constant value => rw [Item.mapStorage, body, ItemBody.mapStorage, ← body]
  cases operation with
  | setType => exact kept _
  | setPictureLength => exact kept _
  | setInitialValue => exact kept _
  | setShape => exact kept _
  | _ => cases forStorage

/-- A storage item does not take the value of a constant. -/
theorem setValue_of_isConstant_eq_false (isStorage : item.isConstant = false)
    (value : ConstantValue) : (setValue value).change item = item := by
  cases body : item.body with
  | storage attributes => rw [change, Item.setValue, body, ItemBody.setValue, ← body]
  | constant value =>
      rw [Item.isConstant, Item.attributes?, body, ItemBody.attributes?] at isStorage
      cases isStorage

theorem after_add_of_get?_eq_some (present : table.get? key = some item) (another : Item) :
    after table (key, .add another) = table := by
  rw [after, apply, SymbolTable.add_of_get?_eq_some present]

theorem get?_after_add_of_get?_eq_none (absent : table.get? key = none) (item : Item) :
    (after table (key, .add item)).get? key = some item := by
  obtain ⟨next, added⟩ := SymbolTable.exists_add_of_get?_eq_none absent item
  rw [after, apply, added]
  dsimp only
  rw [SymbolTable.get?_of_add_eq_ok added, if_pos rfl]

/-- An item that is there is changed, if only by operations on its key. -/
theorem get?_after_of_get?_eq_some (present : table.get? key = some item)
    (operation : Operation) :
    (after table (key, operation)).get? key = some (operation.change item) := by
  cases operation with
  | add another =>
      rw [after_add_of_get?_eq_some present]
      exact present
  | _ => simp [after, apply, SymbolTable.get?_update, present]

/-- What an operation leaves under its key depends on what was there. -/
theorem get?_after_congr (same : table.get? key = other.get? key) (operation : Operation) :
    (after table (key, operation)).get? key = (after other (key, operation)).get? key := by
  cases present : table.get? key with
  | some item =>
      rw [get?_after_of_get?_eq_some present,
        get?_after_of_get?_eq_some (same.symm.trans present)]
  | none =>
      have absent := same.symm.trans present
      cases operation with
      | add item =>
          rw [get?_after_add_of_get?_eq_none present, get?_after_add_of_get?_eq_none absent]
      | _ => simp [after, apply, SymbolTable.get?_update, present, absent]

/-- No operation takes an item away, or makes of it what it may not become. -/
theorem exists_get?_after (present : table.get? key = some item)
    (step : SymbolKey × Operation) :
    ∃ found, (after table step).get? key = some found ∧ item.Evolves found := by
  obtain ⟨name, operation⟩ := step
  by_cases differs : key = name
  · subst differs
    exact ⟨operation.change item, get?_after_of_get?_eq_some present operation,
      .change operation item⟩
  · rw [get?_after_of_ne table differs]
    exact ⟨item, present, .refl item⟩

/-- Only by adding an item there comes one to be under a key. -/
theorem eq_add_of_contains_after {step : SymbolKey × Operation} (absent : table.get? key = none)
    (present : (after table step).contains key = true) : ∃ item, step = (key, .add item) := by
  obtain ⟨name, operation⟩ := step
  by_cases differs : key = name
  · subst differs
    cases operation with
    | add item => exact ⟨item, rfl⟩
    | _ => simp [SymbolTable.contains, after, apply, SymbolTable.get?_update, absent] at present
  · rw [SymbolTable.contains, get?_after_of_ne table differs, absent] at present
    cases present

theorem size_after (table : SymbolTable) (step : SymbolKey × Operation) :
    (after table step).size = table.size + (if enters table step then 1 else 0) := by
  obtain ⟨key, operation⟩ := step
  cases operation with
  | add item =>
      cases added : table.add key item with
      | ok next =>
          simp [after, apply, enters, added, Except.isOk, Except.toBool,
            SymbolTable.size_of_add_eq_ok added]
      | error first => simp [after, apply, enters, added, Except.isOk, Except.toBool]
  | _ => exact SymbolTable.size_update _ _ _

/-- Only an undecided shape is changed, and it is decided then. -/
theorem shapeAt?_of_reshapes {step : SymbolKey × Operation}
    (changed : reshapes table key step = true) :
    shapeAt? table key = some .undecided ∧
      ∃ found, (after table step).get? key = some found ∧ found.shape? ≠ some .undecided := by
  rw [reshapes, Bool.and_eq_true, SymbolTable.contains, Option.isSome_iff_exists,
    bne_iff_ne] at changed
  obtain ⟨⟨item, present⟩, differs⟩ := changed
  obtain ⟨found, standing, evolves⟩ := exists_get?_after present step
  rw [shapeAt?, shapeAt?, present, standing] at differs
  have undecided := evolves.shape.resolve_left differs
  refine ⟨by rw [shapeAt?, present]; exact undecided, found, standing, fun also => ?_⟩
  exact differs (also.trans undecided.symm)

/-! ## Sequences of operations -/

/-- How many of the steps add an item. -/
def additions (table : SymbolTable) : List (SymbolKey × Operation) → Nat
  | [] => 0
  | step :: later => (if enters table step then 1 else 0) + additions (after table step) later

/-- How many of the steps change the shape of the item under a key. -/
def reshapings (table : SymbolTable) (key : SymbolKey) : List (SymbolKey × Operation) → Nat
  | [] => 0
  | step :: later =>
      (if reshapes table key step then 1 else 0) + reshapings (after table step) key later

/-- Whether an item is the one that the steps add under a key, from the empty table. -/
def Added (steps : List (SymbolKey × Operation)) (key : SymbolKey) (item : Item) : Prop :=
  ∃ before later, steps = before ++ (key, .add item) :: later ∧
    (run .empty before).get? key = none

theorem run_append (table : SymbolTable) (before later : List (SymbolKey × Operation)) :
    run table (before ++ later) = run (run table before) later :=
  List.foldl_append

theorem exists_get?_run (present : table.get? key = some item)
    (steps : List (SymbolKey × Operation)) :
    ∃ found, (run table steps).get? key = some found ∧ item.Evolves found := by
  induction steps generalizing table item with
  | nil => exact ⟨item, present, .refl item⟩
  | cons step later ih =>
      obtain ⟨next, standing, first⟩ := exists_get?_after present step
      obtain ⟨found, still, second⟩ := ih standing
      exact ⟨found, still, first.trans second⟩

theorem size_run (table : SymbolTable) (steps : List (SymbolKey × Operation)) :
    (run table steps).size = table.size + additions table steps := by
  induction steps generalizing table with
  | nil => rfl
  | cons step later ih =>
      rw [run, List.foldl_cons, ← run, ih, size_after, additions, Nat.add_assoc]

/-- What is under a key depends on the operations on this key alone. -/
theorem get?_run_filter (same : table.get? key = other.get? key)
    (steps : List (SymbolKey × Operation)) :
    (run table steps).get? key = (run other (steps.filter (·.1 = key))).get? key := by
  induction steps generalizing table other with
  | nil => exact same
  | cons step later ih =>
      obtain ⟨name, operation⟩ := step
      by_cases equal : name = key
      · subst equal
        rw [List.filter_cons_of_pos (by exact decide_eq_true rfl)]
        exact ih (get?_after_congr same operation)
      · rw [List.filter_cons_of_neg (by simpa using equal)]
        exact ih ((get?_after_of_ne table (Ne.symm equal) operation).trans same)

/-- An item that is there after some steps was there before, or is added by one of them. -/
theorem exists_of_contains_run {steps : List (SymbolKey × Operation)}
    (present : (run table steps).contains key = true) :
    table.contains key = true ∨ ∃ before item later,
      steps = before ++ (key, .add item) :: later ∧ (run table before).get? key = none := by
  induction steps generalizing table with
  | nil => exact .inl present
  | cons step later ih =>
      by_cases already : table.contains key = true
      · exact .inl already
      · right
        have absent : table.get? key = none := by
          rwa [SymbolTable.contains, Option.not_isSome_iff_eq_none] at already
        rcases ih present with entered | ⟨before, item, rest, rfl, still⟩
        · obtain ⟨item, rfl⟩ := eq_add_of_contains_after absent entered
          exact ⟨[], item, later, rfl, absent⟩
        · exact ⟨step :: before, item, rest, rfl, still⟩

/-- A shape that is decided, or that there is none of, is never changed. -/
theorem reshapings_eq_zero (present : table.get? key = some item)
    (decided : item.shape? ≠ some .undecided) (steps : List (SymbolKey × Operation)) :
    reshapings table key steps = 0 := by
  induction steps generalizing table item with
  | nil => rfl
  | cons step later ih =>
      have same : ¬ reshapes table key step = true := by
        intro changed
        have undecided := (shapeAt?_of_reshapes changed).1
        rw [shapeAt?, present] at undecided
        exact decided undecided
      obtain ⟨found, standing, evolves⟩ := exists_get?_after present step
      have kept := evolves.shape.resolve_right decided
      rw [reshapings, if_neg same, Nat.zero_add]
      exact ih standing (kept ▸ decided)

theorem reshapings_le_one (table : SymbolTable) (key : SymbolKey)
    (steps : List (SymbolKey × Operation)) : reshapings table key steps ≤ 1 := by
  induction steps generalizing table with
  | nil => exact Nat.zero_le 1
  | cons step later ih =>
      rw [reshapings]
      split
      · next changed =>
          obtain ⟨found, standing, decided⟩ := (shapeAt?_of_reshapes changed).2
          exact Nat.le_of_eq (congrArg _ (reshapings_eq_zero standing decided later))
      · rw [Nat.zero_add]
        exact ih _

/-- The item that was added under a key is what the item there came from. -/
theorem Added.exists_get?_run {steps : List (SymbolKey × Operation)}
    (added : Added steps key item) :
    ∃ found, (run .empty steps).get? key = some found ∧ item.Evolves found := by
  obtain ⟨before, later, rfl, absent⟩ := added
  rw [run_append]
  exact Operation.exists_get?_run (get?_after_add_of_get?_eq_none absent item) later

/-- What holds of the table after any sequence of operations on the empty one. It has as many
items as were added. Under a key there is an item if one was added: the item is what the first
one has become, it stays as what it was declared, and it stands in the way of another one. No
item is taken away later, and it only becomes what it may become. A constant has nothing of a
storage item and is given nothing of one, and a storage item neither has nor is given the value
of a constant. The shape of an item is changed at most once, and only if it was undecided. An
operation leaves the items under other keys as they are, so that the item under a key depends
on the operations on that key alone. -/
theorem run_empty (steps : List (SymbolKey × Operation)) :
    (run .empty steps).size = additions .empty steps ∧
    (∀ key, (run .empty steps).contains key = true ↔ ∃ item, Added steps key item) ∧
    (∀ key item, Added steps key item →
      (∃ found, (run .empty steps).get? key = some found ∧ item.Evolves found) ∧
      ∀ another,
        (run .empty steps).add key another = .error ⟨item.identifier, item.line⟩ ∧
        after (run .empty steps) (key, .add another) = run .empty steps) ∧
    (∀ later key item, (run .empty steps).get? key = some item →
      ∃ found, (run .empty (steps ++ later)).get? key = some found ∧ item.Evolves found) ∧
    (∀ key item, (run .empty steps).get? key = some item →
      (item.isConstant = true →
        (item.type? = none ∧ item.pictureLength? = none ∧ item.initialValue? = none ∧
          item.shape? = none ∧ item.isElementary = false ∧ item.isGroup = false) ∧
        ∀ operation, isForStorage operation = true →
          (after (run .empty steps) (key, operation)).get? key = some item) ∧
      (item.isConstant = false → item.constantValue? = none ∧ ∀ value,
        (after (run .empty steps) (key, .setValue value)).get? key = some item)) ∧
    (∀ key, reshapings .empty key steps ≤ 1 ∧
      ∀ step, reshapes (run .empty steps) key step = true →
        shapeAt? (run .empty steps) key = some .undecided) ∧
    (∀ key other operation, other ≠ key →
      (after (run .empty steps) (key, operation)).get? other = (run .empty steps).get? other) ∧
    ∀ key, (run .empty steps).get? key = (run .empty (steps.filter (·.1 = key))).get? key := by
  refine ⟨?size, fun key => ⟨fun present => ?first, ?present⟩, fun key item added => ?second,
    fun later key item present => ?later, fun key item present => ?classes, fun key => ?shape,
    fun key other operation differs => get?_after_of_ne _ differs operation,
    fun key => get?_run_filter rfl steps⟩
  case size => rw [size_run, SymbolTable.size, SymbolTable.empty, List.length_nil, Nat.zero_add]
  case first =>
    rcases exists_of_contains_run present with already | ⟨before, item, later, rfl, absent⟩
    · cases already
    · exact ⟨item, before, later, rfl, absent⟩
  case present =>
    rintro ⟨item, added⟩
    obtain ⟨found, present, _⟩ := added.exists_get?_run
    rw [SymbolTable.contains, present, Option.isSome_some]
  case second =>
    obtain ⟨found, present, evolves⟩ := added.exists_get?_run
    refine ⟨⟨found, present, evolves⟩, fun another =>
      ⟨?_, after_add_of_get?_eq_some present another⟩⟩
    rw [SymbolTable.add_of_get?_eq_some present, evolves.identifier_eq, evolves.line_eq]
  case later =>
    rw [run_append]
    exact exists_get?_run present later
  case classes =>
    refine ⟨fun isConstant => ⟨Item.views_of_isConstant isConstant, fun operation forStorage => ?_⟩,
      fun isStorage => ⟨Item.constantValue?_of_isConstant_eq_false isStorage, fun value => ?_⟩⟩
    · rw [get?_after_of_get?_eq_some present, change_of_isConstant forStorage isConstant]
    · rw [get?_after_of_get?_eq_some present, setValue_of_isConstant_eq_false isStorage]
  case shape =>
    exact ⟨reshapings_le_one .empty key steps, fun step changed =>
      (shapeAt?_of_reshapes changed).1⟩

/-- A record and a constant, with attempts to declare them again and to change what they are. -/
def attempts : List (SymbolKey × Operation) :=
  [(⟨"P", "A"⟩, .add (.storage "A" 1 3)), (⟨"P", "C"⟩, .add (.constant "C" 1 4)),
    (⟨"P", "A"⟩, .setShape .group), (⟨"P", "A"⟩, .add (.storage "A" 5 9)),
    (⟨"P", "C"⟩, .setType .numeric), (⟨"P", "A"⟩, .setShape .elementary)]

/-- There are two items after these operations, and the record is a group from its line on. -/
theorem run_attempts :
    additions .empty attempts = 2 ∧ (run .empty attempts).size = 2 ∧
      shapeAt? (run .empty attempts) ⟨"P", "A"⟩ = some .group ∧
      reshapings .empty ⟨"P", "A"⟩ attempts ≤ 1 ∧
      (run .empty attempts).add ⟨"P", "A"⟩ (.storage "A" 5 9) = .error ⟨"A", 3⟩ := by
  have kept := run_empty attempts
  have added : Added attempts ⟨"P", "A"⟩ (.storage "A" 1 3) := ⟨[], attempts.tail, rfl, rfl⟩
  have two : additions .empty attempts = 2 := by decide
  exact ⟨two, kept.1.trans two, by decide, (kept.2.2.2.2.2.1 _).1,
    ((kept.2.2.1 _ _ added).2 _).1⟩

end Operation

end CobolCheck
