import Mathlib.Data.List.Chain
import CobolCheck.Division.SourceText
import CobolCheck.Proofs.Analysis.Segment

/-!
# The shape of source units

What the parts of a source text look like from outside, and what they say: which
names the entries of a data division declare, which item a procedure division
returns, and which unit an END marker closes. A shape is a property of tokens. It
does not mention the analysis that reads them.
-/

namespace CobolCheck

open State (Then)

/-- What a source unit says of itself. -/
structure UnitText where
  kind : UnitKind
  name : String
  /-- The names that the entries of its data division declare, in order. -/
  declared : List String
  /-- The item that its procedure division returns. -/
  returned : Option String
  /-- Whether it has an END marker. -/
  closed : Bool
  deriving DecidableEq

/-- The keys of the items that a unit declares. -/
def UnitText.keys (unit : UnitText) : List SymbolKey :=
  unit.declared.map (SymbolKey.mk unit.name)

/-- A function returns an item and has an END marker. -/
def UnitText.FunctionComplete (unit : UnitText) : Prop :=
  unit.kind = .function → unit.returned.isSome ∧ unit.closed = true

namespace Shape

/-- Tokens that spell out some words. -/
def Words (words : List String) (read : List Token) : Prop :=
  read.map Token.value = words

theorem Words.append {first second : List String} {front rest : List Token}
    (early : Words first front) (late : Words second rest) :
    Words (first ++ second) (front ++ rest) := by
  rw [Words, List.map_append, early, late]

/-- A single number. -/
def Level (read : List Token) : Prop :=
  read.map Token.category = [.numeric]

/-- A single identifier. -/
def Name (name : String) (read : List Token) : Prop :=
  read.map (fun token => (token.category, token.value)) = [(.identifier, name)]

instance (words : List String) (read : List Token) : Decidable (Words words read) :=
  inferInstanceAs (Decidable (_ = _))

theorem Level.single {token : Token} (category_eq : token.category = .numeric) : Level [token] := by
  rw [Level, List.map_singleton, category_eq]

theorem Name.single {token : Token} (category_eq : token.category = .identifier) :
    Name token.value [token] := by
  rw [Name, List.map_singleton, category_eq]

/-- Some things one after the other, each in tokens of its shape. -/
inductive Row {α : Type} (shape : α → List Token → Prop) : List α → List Token → Prop
  | nil : Row shape [] []
  | cons {value : α} {values : List α} {front rest : List Token} (first : shape value front)
      (others : Row shape values rest) : Row shape (value :: values) (front ++ rest)

namespace Row

variable {α : Type} {shape : α → List Token → Prop}

theorem single {value : α} {read : List Token} (first : shape value read) :
    Row shape [value] read := by
  have row := Row.cons first .nil
  rwa [List.append_nil] at row

theorem append {values others : List α} {front rest : List Token} (early : Row shape values front)
    (late : Row shape others rest) : Row shape (values ++ others) (front ++ rest) := by
  induction early with
  | nil => exact late
  | cons first _ ih =>
      rw [List.append_assoc]
      exact .cons first ih

end Row

/-! ## Data divisions -/

/-- The word that begins the ID paragraph of a unit. -/
def idWord : UnitKind → String
  | .program => "PROGRAM-ID"
  | .function => "FUNCTION-ID"

/-- The words that begin an ID paragraph. -/
def idWords : List String :=
  ["PROGRAM-ID", "FUNCTION-ID"]

/-- Tokens without a period and without a word that begins an ID paragraph. -/
def Inside (read : List Token) : Prop :=
  ∀ token ∈ read, token.value ∉ "." :: idWords

/-- `level name` -/
def EntryHead (name : String) : List Token → Prop :=
  Then Level (Name name)

/-- What follows the name of an entry, up to the first period. -/
def EntryTail : List Token → Prop :=
  Then Inside (Words ["."])

/-- `level name ... .` -/
def Entry (name : String) : List Token → Prop :=
  Then (EntryHead name) EntryTail

/-- `division DIVISION.` -/
def Header (division : Division) : List Token → Prop :=
  Words [division.keyword, "DIVISION", "."]

/-- The header of a division, which may be left out. -/
def OptionalHeader (division : Division) (read : List Token) : Prop :=
  read = [] ∨ Header division read

/-- `section SECTION.` and its entries. -/
def Section (part : DataSection × List String) : List Token → Prop :=
  Then (Words [part.1.keyword, "SECTION", "."]) (Row Entry part.2)

/-- Some sections, each at most once and in the order of `kinds`. -/
def Sections (kinds : List DataSection) (declared : List String) (read : List Token) : Prop :=
  ∃ parts : List (DataSection × List String), (parts.map Prod.fst).Sublist kinds ∧
    parts.flatMap Prod.snd = declared ∧ Row Section parts read

/-- `DATA DIVISION.` and its sections. -/
def DataDivision (declared : List String) : List Token → Prop :=
  Then (Header .data) (Sections DataSection.all declared)

/-- A data division, which may be left out. -/
def OptionalData (declared : List String) (read : List Token) : Prop :=
  declared = [] ∧ read = [] ∨ DataDivision declared read

/-! ## Source units -/

/-- `[IDENTIFICATION DIVISION.] (PROGRAM-ID | FUNCTION-ID). name.` -/
def Identification (kind : UnitKind) (name : String) : List Token → Prop :=
  Then (OptionalHeader .identification) (Then (Words [idWord kind, "."])
    (Then (Name name) (Words ["."])))

/-- `[RETURNING name]` -/
def Returning : Option String → List Token → Prop
  | none => (· = [])
  | some name => Then (Words ["RETURNING"]) (Name name)

/-- `PROCEDURE DIVISION [RETURNING name].` -/
def ProcedureHeader (returned : Option String) : List Token → Prop :=
  Then (Words ["PROCEDURE", "DIVISION"]) (Then (Returning returned) (Words ["."]))

/-- Tokens among which no ID paragraph begins: no word that begins one stands before a
period, nor at the end. -/
structure Body (read : List Token) : Prop where
  chain : read.IsChain fun word next => next.value = "." → word.value ∉ idWords
  last : ∀ word ∈ read.getLast?, word.value ∉ idWords

/-- Tokens among which no END marker begins: the word END neither comes first nor
follows a period. -/
structure Unended (read : List Token) : Prop where
  first : ∀ word ∈ read.head?, word.value ≠ "END"
  chain : read.IsChain fun word next => word.value = "." → next.value ≠ "END"

/-- `END (PROGRAM | FUNCTION) name.`, if there is an END marker. -/
def EndMarker (kind : UnitKind) (name : String) : Bool → List Token → Prop
  | true => Then (Words ["END", kind.keyword]) (Then (Name name) (Words ["."]))
  | false => (· = [])

/-- `PROCEDURE DIVISION [RETURNING name]. body [END kind name.]` -/
def ProcedureAround (body : List Token → Prop) (unit : UnitText) : List Token → Prop :=
  Then (ProcedureHeader unit.returned) (Then body (EndMarker unit.kind unit.name unit.closed))

/-- A procedure division and the END marker of its unit. A function returns an item and
has an END marker. -/
def Procedure (unit : UnitText) (read : List Token) : Prop :=
  (unit.kind = .function → unit.returned.isSome ∧ unit.closed = true) ∧
    Then (ProcedureHeader unit.returned)
      (Then Body (EndMarker unit.kind unit.name unit.closed)) read

/-- The divisions of a source unit around the body of its procedure division. -/
def DivisionsAround (body : List Token → Prop) (unit : UnitText) : List Token → Prop :=
  Then (OptionalHeader .environment)
    (Then (OptionalData unit.declared) (ProcedureAround body unit))

/-- What follows the ID paragraph of a source unit. -/
def Divisions (unit : UnitText) : List Token → Prop :=
  Then (OptionalHeader .environment) (Then (OptionalData unit.declared) (Procedure unit))

end Shape

open Shape

/-- The shape of a source unit. -/
def UnitText.Shapes (unit : UnitText) : List Token → Prop :=
  Then (Identification unit.kind unit.name) (Divisions unit)

/-- The format of a source unit around the body of its procedure division. -/
def UnitText.ShapesAround (body : List Token → Prop) (unit : UnitText) : List Token → Prop :=
  Then (Identification unit.kind unit.name) (DivisionsAround body unit)

/-- A unit in whose body no ID paragraph begins has the shape of a source unit. -/
theorem UnitText.ShapesAround.shapes {unit : UnitText} {read : List Token}
    (around : unit.ShapesAround Body read) (complete : unit.FunctionComplete) :
    unit.Shapes read := by
  obtain ⟨id, _, rfl, identified, environment, _, rfl, header, data, procedure, rfl, declared,
    rest⟩ := around
  exact ⟨id, _, rfl, identified, environment, _, rfl, header, data, procedure, rfl, declared,
    complete, rest⟩

/-- Whether each unit returns an item only under a key that is one of some keys, or one
that the unit or a unit before it declares. -/
def ReturnsDeclared (keys : List SymbolKey) : List UnitText → Prop
  | [] => True
  | unit :: units => (∀ name ∈ unit.returned, ⟨unit.name, name⟩ ∈ keys ++ unit.keys) ∧
      ReturnsDeclared (keys ++ unit.keys) units

theorem ReturnsDeclared.append {keys : List SymbolKey} {units others : List UnitText}
    (early : ReturnsDeclared keys units)
    (late : ReturnsDeclared (keys ++ units.flatMap UnitText.keys) others) :
    ReturnsDeclared keys (units ++ others) := by
  induction units generalizing keys with
  | nil => simpa using late
  | cons unit units ih =>
      rw [List.flatMap_cons, ← List.append_assoc] at late
      exact ⟨early.1, ih early.2 late⟩

namespace Shape

/-! ## Procedure divisions without ID paragraphs -/

theorem forall_mem_getLast?_append {p : Token → Prop} {front rest : List Token}
    (early : ∀ word ∈ front.getLast?, p word) (late : ∀ word ∈ rest.getLast?, p word) :
    ∀ word ∈ (front ++ rest).getLast?, p word := by
  intro word found
  rw [List.getLast?_append, Option.mem_def, Option.or_eq_some_iff] at found
  rcases found with found | ⟨-, found⟩
  · exact late word found
  · exact early word found

theorem Body.append {front rest : List Token} (early : Body front) (late : Body rest) :
    Body (front ++ rest) where
  chain := early.chain.append late.chain fun word found _ _ _ => early.last word found
  last := forall_mem_getLast?_append early.last late.last

/-- No ID paragraph begins among tokens without the words that begin one. -/
theorem Body.of_forall {read : List Token} (other : ∀ token ∈ read, token.value ∉ idWords) :
    Body read where
  chain := List.Pairwise.isChain
    (List.pairwise_of_forall_mem_list fun word inside _ _ _ => other word inside)
  last word found := other word (List.mem_of_getLast? found)

/-- No ID paragraph begins among tokens without a period, unless with the last of them. -/
theorem Body.of_forall_ne {read : List Token} (other : ∀ token ∈ read, token.value ≠ ".")
    (last : ∀ word ∈ read.getLast?, word.value ∉ idWords) : Body read where
  chain := List.Pairwise.isChain
    (List.pairwise_of_forall_mem_list fun _ _ next inside period =>
      absurd period (other next inside))
  last := last

/-! ## Procedure divisions without END markers -/

theorem Unended.append {front rest : List Token} (early : Unended front) (late : Unended rest) :
    Unended (front ++ rest) where
  first word found := by
    rw [List.head?_append, Option.mem_def, Option.or_eq_some_iff] at found
    rcases found with found | ⟨-, found⟩
    · exact early.first word found
    · exact late.first word found
  chain := early.chain.append late.chain fun _ _ next found _ => late.first next found

/-- No END marker begins among tokens without the word END. -/
theorem Unended.of_forall {read : List Token} (other : ∀ token ∈ read, token.value ≠ "END") :
    Unended read where
  first word found := other word (List.mem_of_mem_head? found)
  chain := List.Pairwise.isChain
    (List.pairwise_of_forall_mem_list fun _ _ next inside _ => other next inside)

/-- No END marker begins among tokens without a period, unless with the first of them. -/
theorem Unended.of_forall_ne {read : List Token} (other : ∀ token ∈ read, token.value ≠ ".")
    (first : ∀ word ∈ read.head?, word.value ≠ "END") : Unended read where
  first := first
  chain := List.Pairwise.isChain
    (List.pairwise_of_forall_mem_list fun word inside _ _ period =>
      absurd period (other word inside))

end Shape

end CobolCheck
