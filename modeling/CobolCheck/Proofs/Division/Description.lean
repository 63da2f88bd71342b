import CobolCheck.Division.Entry
import CobolCheck.Proofs.Source.Role

/-!
# Data descriptions

Data divisions as data: clauses, entries and sections, each with the words that
it is written in and with the items that it declares. An item is described by all
of its clauses at once, whatever order they come in.
-/

namespace CobolCheck

/-- An item of a unit in the table of its symbols, whatever line it stands in. -/
def Item.unlined (item : Item) : Item :=
  { item with line := 0 }

namespace Grammar

/-- A word that may be left out. -/
def optionalWord (word : String) (present : Bool) : List String :=
  if present then [word] else []

/-! ## Clauses -/

/-- A clause of a data description entry. In four of them the word IS may be left out. -/
inductive Clause where
  /-- `[IS] EXTERNAL [AS literal]` -/
  | external (is : Bool) (name : Option String)
  /-- `[IS] GLOBAL` -/
  | global (is : Bool)
  /-- `[IS] TYPEDEF` -/
  | typedef (is : Bool)
  /-- `BASED` -/
  | based
  /-- `(PIC | PICTURE) [IS] type(digits)[V9(digits)]` -/
  | picture (keyword : String) (is : Bool) (type : PictureType) (digits : String)
      (scale : Option String)
  /-- `VALUE literal` -/
  | value (literal : String)
  /-- Any other word that begins a clause. -/
  | other (word : String)

namespace Clause

/-- The words that name an item outside its program. -/
def asWords : Option String → List String
  | none => []
  | some literal => ["AS", literal]

/-- The name of an item outside its program, which is its own unless there is another. -/
def outsideName (name : String) : Option String → String
  | none => name
  | some literal => unquote literal

/-- The words of a scale, the count of digits after the decimal point. -/
def scaleWords : Option String → List String
  | none => []
  | some scale => ["V9", "(", scale, ")"]

/-- The length of a picture: `digits` or `digitsVscale`. -/
def lengthText (digits : String) : Option String → String
  | none => digits
  | some scale => digits ++ "V" ++ scale

/-- The words of a clause. -/
def words : Clause → List String
  | external is name => optionalWord "IS" is ++ "EXTERNAL" :: asWords name
  | global is => optionalWord "IS" is ++ ["GLOBAL"]
  | typedef is => optionalWord "IS" is ++ ["TYPEDEF"]
  | based => ["BASED"]
  | picture keyword is type digits scale =>
      keyword :: (optionalWord "IS" is ++ (type.code :: "(" :: digits :: ")" :: scaleWords scale))
  | value literal => ["VALUE", literal]
  | other word => [word]

/-- The words of the clauses that say something about an item, and the word IS. -/
def keywords : List String :=
  ["EXTERNAL", "GLOBAL", "TYPEDEF", "BASED", "PIC", "PICTURE", "VALUE", "IS"]

/-- Whether the parts of a clause are of the kinds that it must have. Only numbers
have a scale. -/
def WellFormed : Clause → Prop
  | external _ name => ∀ literal ∈ name, IsOperand [.string] literal
  | picture keyword _ type digits scale =>
      keyword ∈ ["PIC", "PICTURE"] ∧ IsOperand [.numeric] digits ∧
        ∀ places ∈ scale, type.isNumeric = true ∧ IsOperand [.numeric] places
  | value literal => IsOperand [.string, .numeric] literal
  | other word => word ∈ Word.clauseWords ∧ word ∉ keywords
  | _ => True

/-- The name that a clause gives to an item outside its program. -/
def externalName? (name : String) : Clause → Option String
  | external _ literal => some (outsideName name literal)
  | _ => none

/-- The type that a picture gives to an item. -/
def type? : Clause → Option PictureType
  | picture _ _ type _ _ => some type
  | _ => none

/-- The length that a picture gives to an item. -/
def length? : Clause → Option String
  | picture _ _ _ digits scale => some (lengthText digits scale)
  | _ => none

/-- The value that an item begins with. -/
def value? : Clause → Option String
  | value literal => some literal
  | _ => none

/-- Whether a clause shares an item with nested programs. -/
def isGlobal : Clause → Bool
  | global _ => true
  | _ => false

/-- Whether a clause makes an item one without storage of its own. -/
def isBased : Clause → Bool
  | based => true
  | _ => false

/-- Whether a clause is a picture. -/
def isPicture (clause : Clause) : Bool :=
  clause.type?.isSome

/-- What a clause changes in the item of a name. -/
def change (name : String) : Clause → Item → Item
  | external _ literal => Operation.change (.setExternal (outsideName name literal))
  | global _ => Operation.change .setGlobal
  | typedef _ => id
  | based => Operation.change .setBased
  | picture _ _ type digits scale =>
      Operation.change (.setPictureLength (lengthText digits scale)) ∘
        Operation.change (.setType type)
  | value literal => Operation.change (.setInitialValue literal)
  | other _ => id

/-- The last part of a kind that some clauses give. -/
def last? {α : Type} (part : Clause → Option α) (clauses : List Clause) : Option α :=
  clauses.reverse.findSome? part

@[simp]
theorem last?_nil {α : Type} (part : Clause → Option α) : last? part [] = none :=
  rfl

@[simp]
theorem last?_cons {α : Type} (part : Clause → Option α) (clause : Clause)
    (clauses : List Clause) :
    last? part (clause :: clauses) = (last? part clauses).or (part clause) := by
  cases found : part clause <;> simp [last?, found]

/-- What clauses change in the item of a name, one after the other. -/
def changes (name : String) (clauses : List Clause) (item : Item) : Item :=
  clauses.foldl (fun item clause => clause.change name item) item

/-- Of several clauses of one kind the last counts, and what no clause says stays
as it was. -/
theorem changes_eq (name : String) (clauses : List Clause) (item : Item) :
    changes name clauses item =
      { item with
        externalName := (last? (externalName? name) clauses).or item.externalName
        isExternal := (last? (externalName? name) clauses).isSome || item.isExternal
        isGlobal := clauses.any isGlobal || item.isGlobal
        isBased := clauses.any isBased || item.isBased
        body := item.body.mapStorage fun attributes =>
          { attributes with
            type := (last? type? clauses).or attributes.type
            pictureLength := (last? length? clauses).or attributes.pictureLength
            initialValue := (last? value? clauses).or attributes.initialValue } } := by
  induction clauses generalizing item with
  | nil =>
      obtain ⟨_, _, _, _, _, _, _, _, _, body⟩ := item
      cases body <;> rfl
  | cons clause clauses ih =>
      have step : changes name (clause :: clauses) item =
          changes name clauses (clause.change name item) := rfl
      rw [step, ih]
      obtain ⟨_, _, _, _, _, _, _, _, _, body⟩ := item
      cases clause with
      | external is literal =>
          simp [change, Operation.change, Item.setExternal, externalName?, isGlobal, isBased,
            type?, length?, value?]
      | picture keyword is type digits scale =>
          cases body <;>
            simp [change, Operation.change, Item.mapStorage, ItemBody.mapStorage, externalName?,
              isGlobal, isBased, type?, length?, value?]
      | value literal =>
          cases body <;>
            simp [change, Operation.change, Item.mapStorage, ItemBody.mapStorage, externalName?,
              isGlobal, isBased, type?, length?, value?]
      | _ =>
          simp [change, Operation.change, externalName?, isGlobal, isBased, type?, length?, value?]

end Clause

/-! ## Entries -/

/-- `level name {clause}.` -/
structure StorageEntry where
  level : String
  name : String
  clauses : List Clause

namespace StorageEntry

/-- The words of an entry. -/
def words (entry : StorageEntry) : List String :=
  entry.level :: entry.name :: (entry.clauses.flatMap Clause.words ++ ["."])

/-- Whether the parts of an entry are of the kinds that it must have. -/
structure WellFormed (entry : StorageEntry) : Prop where
  level : IsOperand [.numeric] entry.level
  name : IsName entry.name
  clauses : ∀ clause ∈ entry.clauses, clause.WellFormed

/-- The item that an entry declares. -/
def item (kind : DataSection) (entry : StorageEntry) : Item :=
  { identifier := entry.name
    level := (Level.ofText? entry.level).getD 0
    line := 0
    inSection := some kind
    externalName := Clause.last? (Clause.externalName? entry.name) entry.clauses
    isExternal := (Clause.last? (Clause.externalName? entry.name) entry.clauses).isSome
    isGlobal := entry.clauses.any Clause.isGlobal
    isBased := entry.clauses.any Clause.isBased
    body := .storage
      { type := Clause.last? Clause.type? entry.clauses
        pictureLength := Clause.last? Clause.length? entry.clauses
        initialValue := Clause.last? Clause.value? entry.clauses
        shape := if entry.clauses.any Clause.isPicture then .elementary else .group } }

/-- The clauses of an entry make its item out of one without attributes. -/
theorem unlined_setShape_changes (kind : DataSection) (entry : StorageEntry) (line : Nat) :
    (Item.setShape (if entry.clauses.any Clause.isPicture then .elementary else .group)
      (Clause.changes entry.name entry.clauses
        { Item.storage entry.name ((Level.ofText? entry.level).getD 0) line with
          inSection := some kind })).unlined = entry.item kind := by
  rw [Clause.changes_eq]
  simp [item, Item.unlined, Item.storage, Item.setShape, Item.mapStorage, ItemBody.mapStorage]

end StorageEntry

/-- `level name CONSTANT [[IS] GLOBAL] ([AS] literal | FROM name).` The words IS and
AS may be left out. -/
structure ConstantEntry where
  level : String
  name : String
  share : Option Bool
  as : Bool
  value : ConstantValue

namespace ConstantEntry

/-- The words that share a constant with nested programs. -/
def shareWords (entry : ConstantEntry) : List String :=
  match entry.share with
  | none => []
  | some is => optionalWord "IS" is ++ ["GLOBAL"]

/-- The words that give the value of a constant. -/
def valueWords (entry : ConstantEntry) : List String :=
  match entry.value with
  | .literal text => optionalWord "AS" entry.as ++ [text]
  | .ofItem name => ["FROM", name]

/-- The words of an entry. -/
def words (entry : ConstantEntry) : List String :=
  entry.level :: entry.name :: "CONSTANT" :: (entry.shareWords ++ entry.valueWords ++ ["."])

/-- Whether the parts of an entry are of the kinds that it must have. -/
structure WellFormed (entry : ConstantEntry) : Prop where
  level : entry.level ∈ ["01", "1"]
  name : IsName entry.name
  value : match entry.value with
    | .literal text => IsOperand [.string, .numeric, .figurative] text
    | .ofItem name => IsName name

/-- The constant that an entry declares. -/
def item (kind : DataSection) (entry : ConstantEntry) : Item :=
  { identifier := entry.name
    level := (Level.ofText? entry.level).getD 0
    line := 0
    inSection := some kind
    isGlobal := entry.share.isSome
    body := .constant (some entry.value) }

/-- The value of an entry completes its constant. -/
theorem unlined_setValue (kind : DataSection) (entry : ConstantEntry) (line : Nat) :
    (Item.setValue entry.value
      { Item.constant entry.name ((Level.ofText? entry.level).getD 0) line with
        inSection := some kind, isGlobal := entry.share.isSome }).unlined = entry.item kind :=
  rfl

end ConstantEntry

/-! ## Descriptions -/

/-- An entry that may begin a description, with the entries that belong to it. -/
inductive Description where
  /-- An item of level 77. -/
  | independent (entry : StorageEntry)
  /-- A record of level 01 and its items, of levels 02 to 49. -/
  | record (entry : StorageEntry) (items : List StorageEntry)
  | constant (entry : ConstantEntry)

namespace Description

/-- The words of a description. -/
def words : Description → List String
  | independent entry => entry.words
  | record entry items => entry.words ++ items.flatMap StorageEntry.words
  | constant entry => entry.words

/-- Whether a description has the levels and the parts that it must have. -/
def WellFormed : Description → Prop
  | independent entry => entry.level = "77" ∧ entry.WellFormed
  | record entry items =>
      entry.level ∈ ["01", "1"] ∧ entry.WellFormed ∧
        ∀ item ∈ items, Level.isSubordinate item.level = true ∧ item.WellFormed
  | constant entry => entry.WellFormed

/-- The items that a description declares, in order. -/
def items (kind : DataSection) : Description → List Item
  | independent entry => [entry.item kind]
  | record entry items => entry.item kind :: items.map (StorageEntry.item kind)
  | constant entry => [entry.item kind]

end Description

/-- The descriptions in each section of a data division, of which any may be missing. -/
abbrev Descriptions :=
  DataSection → Option (List Description)

namespace Descriptions

/-- The words of a section, if it is there. -/
def sectionWords (descriptions : Descriptions) (kind : DataSection) : List String :=
  match descriptions kind with
  | some listed => kind.keyword :: "SECTION" :: "." :: listed.flatMap Description.words
  | none => []

/-- The words of a data division. -/
def words (descriptions : Descriptions) : List String :=
  "DATA" :: "DIVISION" :: "." :: DataSection.all.flatMap descriptions.sectionWords

/-- The items of a section. -/
def sectionItems (descriptions : Descriptions) (kind : DataSection) : List Item :=
  ((descriptions kind).getD []).flatMap (Description.items kind)

/-- All items of a data division, in the order of their entries. -/
def items (descriptions : Descriptions) : List Item :=
  DataSection.all.flatMap descriptions.sectionItems

/-- Whether all descriptions of a data division are well formed. -/
def WellFormed (descriptions : Descriptions) : Prop :=
  ∀ kind, ∀ listed ∈ descriptions kind, ∀ description ∈ listed, description.WellFormed

end Descriptions

end Grammar

end CobolCheck
