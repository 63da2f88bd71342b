/-!
# Data items

What is known of an item that a data division declares: where it was declared,
how it is shared, and either the attributes of a storage item or the value of a
constant.
-/

namespace CobolCheck

/-- A section of the data division. -/
inductive DataSection where
  | workingStorage
  | localStorage
  | linkage
  deriving DecidableEq

namespace DataSection

/-- The word that names the section. -/
def keyword : DataSection → String
  | .workingStorage => "WORKING-STORAGE"
  | .localStorage => "LOCAL-STORAGE"
  | .linkage => "LINKAGE"

/-- The sections in the order in which a data division may have them. -/
def all : List DataSection :=
  [.workingStorage, .localStorage, .linkage]

/-- The section that a word names. -/
def ofKeyword? (word : String) : Option DataSection :=
  all.find? (·.keyword == word)

theorem ofKeyword?_keyword (kind : DataSection) : ofKeyword? kind.keyword = some kind := by
  cases kind <;> decide

end DataSection

/-- The type code of a PICTURE clause. -/
inductive PictureType where
  | signedNumeric
  | numeric
  | alphanumeric
  | alphabetic
  | national
  | bit
  deriving DecidableEq

namespace PictureType

/-- The code as it is written. -/
def code : PictureType → String
  | .signedNumeric => "S9"
  | .numeric => "9"
  | .alphanumeric => "X"
  | .alphabetic => "A"
  | .national => "N"
  | .bit => "1"

/-- Every picture type. -/
def all : List PictureType :=
  [.signedNumeric, .numeric, .alphanumeric, .alphabetic, .national, .bit]

/-- The picture type that a code stands for. -/
def ofCode? (word : String) : Option PictureType :=
  all.find? (·.code == word)

/-- Whether the type may have a scale, the count of digits after an implied
decimal point. -/
def isNumeric : PictureType → Bool
  | .signedNumeric => true
  | .numeric => true
  | _ => false

theorem ofCode?_code (type : PictureType) : ofCode? type.code = some type := by
  cases type <;> decide

theorem ofCode?_eq_some_iff {word : String} {type : PictureType} :
    ofCode? word = some type ↔ word = type.code := by
  constructor
  · intro found
    have equal := List.find?_some found
    exact (beq_iff_eq.mp equal).symm
  · rintro rfl
    exact ofCode?_code type

end PictureType

/-- Whether a storage item holds data itself or groups other items. It is
undecided until the whole entry has been read. -/
inductive Shape where
  | undecided
  | elementary
  | group
  deriving DecidableEq

/-- What a constant stands for: a literal, or the value of another item. -/
inductive ConstantValue where
  | literal (text : String)
  | ofItem (name : String)
  deriving DecidableEq

/-- The attributes of a storage item. The picture length is a count of digits,
followed by `V` and the scale if the picture has one. -/
structure Storage where
  type : Option PictureType := none
  pictureLength : Option String := none
  initialValue : Option String := none
  shape : Shape := .undecided
  deriving DecidableEq

/-- The two kinds of data item. -/
inductive ItemBody where
  | storage (attributes : Storage)
  | constant (value : Option ConstantValue)
  deriving DecidableEq

namespace ItemBody

/-- Changes the attributes of a storage item. A constant has none to change. -/
def mapStorage (change : Storage → Storage) : ItemBody → ItemBody
  | storage attributes => storage (change attributes)
  | constant value => constant value

/-- Gives a constant its value. A storage item takes none. -/
def setValue (value : ConstantValue) : ItemBody → ItemBody
  | storage attributes => storage attributes
  | constant _ => constant (some value)

/-- The attributes of a storage item. -/
def attributes? : ItemBody → Option Storage
  | storage attributes => some attributes
  | constant _ => none

/-- The value of a constant, if it has one. -/
def value? : ItemBody → Option ConstantValue
  | storage _ => none
  | constant value => value

@[simp]
theorem attributes?_mapStorage (change : Storage → Storage) (body : ItemBody) :
    (body.mapStorage change).attributes? = body.attributes?.map change := by
  cases body <;> rfl

@[simp]
theorem value?_mapStorage (change : Storage → Storage) (body : ItemBody) :
    (body.mapStorage change).value? = body.value? := by
  cases body <;> rfl

@[simp]
theorem attributes?_setValue (value : ConstantValue) (body : ItemBody) :
    (body.setValue value).attributes? = body.attributes? := by
  cases body <;> rfl

end ItemBody

/-- A declared data item. Its level number is at most 255. -/
structure Item where
  identifier : String
  level : Nat
  line : Nat
  inSection : Option DataSection := none
  parent : Option String := none
  externalName : Option String := none
  isExternal : Bool := false
  isGlobal : Bool := false
  isBased : Bool := false
  body : ItemBody
  deriving DecidableEq

namespace Item

/-- A storage item without attributes. -/
def storage (identifier : String) (level line : Nat) : Item :=
  { identifier, level, line, body := .storage {} }

/-- A constant without a value. -/
def constant (identifier : String) (level line : Nat) : Item :=
  { identifier, level, line, body := .constant none }

/-! ## Views -/

/-- The attributes of a storage item; a constant has none. -/
def attributes? (item : Item) : Option Storage :=
  item.body.attributes?

/-- The value of a constant, if it has one. -/
def constantValue? (item : Item) : Option ConstantValue :=
  item.body.value?

/-- Whether the item is a constant. -/
def isConstant (item : Item) : Bool :=
  item.attributes?.isNone

/-- Whether the item is a storage item that holds data itself. -/
def isElementary (item : Item) : Bool :=
  item.attributes?.any (·.shape == .elementary)

/-- Whether the item is a storage item that groups others. -/
def isGroup (item : Item) : Bool :=
  item.attributes?.any (·.shape == .group)

/-- The type of a storage item. -/
def type? (item : Item) : Option PictureType :=
  item.attributes?.bind Storage.type

/-- The picture length of a storage item. -/
def pictureLength? (item : Item) : Option String :=
  item.attributes?.bind Storage.pictureLength

/-- The initial value of a storage item. -/
def initialValue? (item : Item) : Option String :=
  item.attributes?.bind Storage.initialValue

/-! ## Changes

Attributes of storage items are never given to a constant, and a constant's
value is never given to a storage item. -/

/-- Changes the attributes of a storage item. -/
def mapStorage (change : Storage → Storage) (item : Item) : Item :=
  { item with body := item.body.mapStorage change }

/-- Gives a constant its value. -/
def setValue (value : ConstantValue) (item : Item) : Item :=
  { item with body := item.body.setValue value }

/-- Decides the shape of a storage item. Only the first decision counts. -/
def setShape (shape : Shape) : Item → Item :=
  mapStorage fun attributes =>
    if attributes.shape = .undecided then { attributes with shape } else attributes

/-- Shares an item under a name outside the program. -/
def setExternal (name : String) (item : Item) : Item :=
  { item with isExternal := true, externalName := some name }

@[simp]
theorem attributes?_mapStorage (change : Storage → Storage) (item : Item) :
    (item.mapStorage change).attributes? = item.attributes?.map change :=
  item.body.attributes?_mapStorage change

@[simp]
theorem isConstant_mapStorage (change : Storage → Storage) (item : Item) :
    (item.mapStorage change).isConstant = item.isConstant := by
  simp [isConstant]

@[simp]
theorem isConstant_setValue (value : ConstantValue) (item : Item) :
    (item.setValue value).isConstant = item.isConstant :=
  congrArg Option.isNone (item.body.attributes?_setValue value)

/-- A shape, once decided, stays. -/
theorem setShape_setShape {first : Shape} (decided : first ≠ .undecided) (second : Shape)
    (item : Item) : (item.setShape first).setShape second = item.setShape first := by
  cases body : item.body with
  | constant value => simp [setShape, mapStorage, ItemBody.mapStorage, body]
  | storage attributes =>
      by_cases undecided : attributes.shape = .undecided <;>
        simp [setShape, mapStorage, ItemBody.mapStorage, body, undecided, decided]

end Item

end CobolCheck
