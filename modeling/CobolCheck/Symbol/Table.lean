import CobolCheck.Symbol.Item

/-!
# Symbol tables

A symbol table holds the declared data items of a run, each under the name of
its unit and its own name. Items are added once, in the order of their
declaration, and changed afterwards. Its view is `get?`: the lemmas below say
what each operation does to it.
-/

namespace CobolCheck

/-- The key of a data item: the name of the unit that declares it, and its own. -/
structure SymbolKey where
  unit : String
  name : String
  deriving DecidableEq

namespace SymbolKey

/-- The key as it is written out. -/
def text (key : SymbolKey) : String :=
  key.unit ++ "#" ++ key.name

/-- Keys are ordered by unit and then by name. -/
def le (first second : SymbolKey) : Bool :=
  first.unit < second.unit || (first.unit == second.unit && first.name ≤ second.name)

end SymbolKey

/-- The item that stands in the way of a second one under the same key. -/
structure Duplicate where
  identifier : String
  line : Nat
  deriving DecidableEq

/-- The declared items in the order of declaration, at most one for a key. -/
structure SymbolTable where
  entries : List (SymbolKey × Item)
  nodup_keys : (entries.map Prod.fst).Nodup

namespace SymbolTable

/-- The table without items. -/
def empty : SymbolTable :=
  ⟨[], List.nodup_nil⟩

/-- The keys of a table, in the order of declaration. -/
def keys (table : SymbolTable) : List SymbolKey :=
  table.entries.map Prod.fst

/-- The item under a key. -/
def get? (table : SymbolTable) (key : SymbolKey) : Option Item :=
  table.entries.lookup key

/-- Whether there is an item under a key. -/
def contains (table : SymbolTable) (key : SymbolKey) : Bool :=
  (table.get? key).isSome

/-- The number of items. -/
def size (table : SymbolTable) : Nat :=
  table.entries.length

/-- The entries in the order of their keys. -/
def sorted (table : SymbolTable) : List (SymbolKey × Item) :=
  table.entries.mergeSort fun first second => first.1.le second.1

theorem get?_eq_none_iff {table : SymbolTable} {key : SymbolKey} :
    table.get? key = none ↔ key ∉ table.keys := by
  rw [get?, List.lookup_eq_none_iff, keys]
  constructor
  · intro absent member
    obtain ⟨entry, inside, rfl⟩ := List.mem_map.mp member
    simpa using absent entry inside
  · intro absent entry inside
    rw [bne_iff_ne]
    rintro rfl
    exact absent (List.mem_map_of_mem inside)

theorem contains_iff_mem_keys {table : SymbolTable} {key : SymbolKey} :
    table.contains key = true ↔ key ∈ table.keys := by
  rw [contains, Option.isSome_iff_ne_none, Ne, get?_eq_none_iff, Classical.not_not]

/-! ## Adding an item -/

/-- Adds an item under a new key. An item that is there already stays as it is
and is named instead. -/
def add (table : SymbolTable) (key : SymbolKey) (item : Item) :
    Except Duplicate SymbolTable :=
  match absent : table.get? key with
  | some existing => .error ⟨existing.identifier, existing.line⟩
  | none =>
      .ok ⟨table.entries ++ [(key, item)], by
        rw [List.map_append, List.nodup_append]
        refine ⟨table.nodup_keys, by simp, fun first inside second single => ?_⟩
        rintro rfl
        obtain rfl : first = key := by simpa using single
        exact get?_eq_none_iff.mp absent inside⟩

theorem add_of_get?_eq_some {table : SymbolTable} {key : SymbolKey} {existing : Item}
    (present : table.get? key = some existing) (item : Item) :
    table.add key item = .error ⟨existing.identifier, existing.line⟩ := by
  unfold add
  split <;> simp_all

theorem exists_add_of_get?_eq_none {table : SymbolTable} {key : SymbolKey}
    (absent : table.get? key = none) (item : Item) : ∃ next, table.add key item = .ok next := by
  unfold add
  split
  · next existing present => simp [absent] at present
  · exact ⟨_, rfl⟩

theorem entries_of_add_eq_ok {table next : SymbolTable} {key : SymbolKey} {item : Item}
    (added : table.add key item = .ok next) : next.entries = table.entries ++ [(key, item)] := by
  unfold add at added
  split at added
  · simp at added
  · cases added
    rfl

theorem get?_of_add_eq_ok {table next : SymbolTable} {key : SymbolKey} {item : Item}
    (added : table.add key item = .ok next) (other : SymbolKey) :
    next.get? other = if other = key then some item else table.get? other := by
  have absent : table.get? key = none := by
    cases present : table.get? key with
    | none => rfl
    | some existing => simp [add_of_get?_eq_some present] at added
  unfold get? at absent ⊢
  rw [entries_of_add_eq_ok added, List.lookup_append]
  by_cases equal : other = key
  · subst equal
    simp [absent]
  · simp [List.lookup_cons, beq_false_of_ne equal, equal]

theorem size_of_add_eq_ok {table next : SymbolTable} {key : SymbolKey} {item : Item}
    (added : table.add key item = .ok next) : next.size = table.size + 1 := by
  simp [size, entries_of_add_eq_ok added]

/-! ## Changing an item -/

/-- Changes the item under a key. Without such an item nothing happens. -/
def update (table : SymbolTable) (key : SymbolKey) (change : Item → Item) : SymbolTable :=
  ⟨table.entries.map fun entry => if entry.1 = key then (entry.1, change entry.2) else entry, by
    have same : (Prod.fst ∘ fun entry : SymbolKey × Item =>
        if entry.1 = key then (entry.1, change entry.2) else entry) = Prod.fst := by
      funext entry
      simp only [Function.comp_apply]
      split <;> rfl
    simpa [same] using table.nodup_keys⟩

theorem get?_update (table : SymbolTable) (key : SymbolKey) (change : Item → Item)
    (other : SymbolKey) :
    (table.update key change).get? other =
      if other = key then (table.get? other).map change else table.get? other := by
  change (table.entries.map fun entry =>
      if entry.1 = key then (entry.1, change entry.2) else entry).lookup other =
    if other = key then (table.entries.lookup other).map change else table.entries.lookup other
  induction table.entries with
  | nil => simp
  | cons entry rest ih =>
      obtain ⟨name, item⟩ := entry
      by_cases equal : other = name
      · subst equal
        by_cases same : other = key <;> simp [same]
      · rw [List.map_cons]
        split
        · simpa [List.lookup_cons, beq_false_of_ne equal] using ih
        · simpa [List.lookup_cons, beq_false_of_ne equal] using ih

theorem keys_update (table : SymbolTable) (key : SymbolKey) (change : Item → Item) :
    (table.update key change).keys = table.keys := by
  rw [keys, keys, update, List.map_map]
  apply List.map_congr_left
  intro entry _
  rw [Function.comp_apply]
  split <;> rfl

@[simp]
theorem size_update (table : SymbolTable) (key : SymbolKey) (change : Item → Item) :
    (table.update key change).size = table.size := by
  simp [size, update]

end SymbolTable

end CobolCheck
