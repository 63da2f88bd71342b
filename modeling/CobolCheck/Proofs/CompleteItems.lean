import CobolCheck.Proofs.Division.Complete
import CobolCheck.Proofs.Returning
import CobolCheck.Proofs.Source.Numeral

/-!
# Complete items

All items of an accepted source text are complete: every level number is one that a
data item may have, every elementary item has a type and a length, every constant has a
value, and every item belongs to a unit with a name. The length of a picture is made of
numbers in parentheses. It is a count of digits as long as these numbers have neither a
sign nor a decimal point, which is not checked.
-/

namespace CobolCheck

open Analysis Shape

variable {file source : String} {output : List Token}

/-! ## Lengths of pictures -/

theorem Enclosed.isNumeral {text : String} (enclosed : Enclosed (Source.tokenize source) text) :
    IsNumeral text.toList := by
  obtain ⟨opening, number, inside, -, numeric, rfl⟩ := enclosed
  exact Source.isNumeral_of_mem (inside.subset (by simp)) numeric

/-- Only a length with a scale has a V in it. -/
theorem IsPictureLength.isNumeric {type : PictureType} {length : String}
    (known : IsPictureLength (Source.tokenize source) type length) (scaled : 'V' ∈ length.toList) :
    type.isNumeric = true := by
  cases known with
  | count count =>
      rcases count.isNumeral.mem 'V' scaled with digit | point | sign
      · exact absurd digit (by decide)
      · exact absurd point (by decide)
      · exact absurd sign (by decide)
  | scaled numeric => exact numeric

/-- One or more digits and, if there is a scale, a V and one or more digits after it. -/
inductive IsDigitCount : List Char → Prop
  | count {digits : List Char} (whole : AreDigits digits) : IsDigitCount digits
  | scaled {digits scale : List Char} (whole : AreDigits digits) (places : AreDigits scale) :
      IsDigitCount (digits ++ 'V' :: scale)

theorem IsPictureLength.isDigitCount {tokens : List Token} {type : PictureType} {length : String}
    (known : IsPictureLength tokens type length)
    (plain : ∀ text, Enclosed tokens text → AreDigits text.toList) :
    IsDigitCount length.toList := by
  cases known with
  | count count => exact .count (plain _ count)
  | @scaled digits scale _ count places =>
      have split_eq : (digits ++ "V" ++ scale).toList = digits.toList ++ 'V' :: scale.toList := by
        simp
      rw [split_eq]
      exact .scaled (plain _ count) (plain _ places)

/-! ## Accepted items -/

/-- Nothing is missing of an item of an accepted source text. -/
theorem complete_of_accepted (accepted : (checkSource file source).result = .ok output)
    {key : SymbolKey} {item : Item}
    (found : (checkSource file source).table.get? key = some item) :
    item.Complete (Source.tokenize source) := by
  have begun :
      (State.initial (Source.tokenize source) .empty).Settled (Source.tokenize source) := by
    refine ⟨rfl, (State.marks_sentinelAfter _).2.1, fun key item found => ?_⟩
    cases found
  obtain ⟨unreported, -, -, table_eq⟩ := sourceUnits_of_accepted accepted rfl
  have settled := ((units_settled (Source.tokenize source)).obeys_sourceUnits (by decide)
    maxNesting _).holds unreported begun
  apply settled.complete key item
  rw [← table_eq]
  exact found

/-- A unit has the name of an identifier, which is not empty. -/
theorem UnitText.Shapes.name_ne_empty {unit : UnitText} {read : List Token}
    (shapes : unit.Shapes read) (inside : ∀ token ∈ read, token ∈ Source.tokenize source) :
    unit.name ≠ "" := by
  obtain ⟨_, _, rfl, ⟨header, _, rfl, -, words, _, rfl, -, name, period, rfl, named, -⟩, -⟩ :=
    shapes
  rw [Name, List.map_eq_singleton_iff] at named
  obtain ⟨token, rfl, token_eq⟩ := named
  rw [Prod.mk.injEq] at token_eq
  rw [← token_eq.2]
  exact Source.value_ne_empty_of_identifier (inside token (by simp)) token_eq.1

theorem Shape.Row.names_ne_empty {units : List UnitText} {read : List Token}
    (row : Row UnitText.Shapes units read)
    (inside : ∀ token ∈ read, token ∈ Source.tokenize source) :
    ∀ unit ∈ units, unit.name ≠ "" := by
  induction row with
  | nil => simp
  | cons first _ ih =>
      rw [List.forall_mem_append] at inside
      rw [List.forall_mem_cons]
      exact ⟨first.name_ne_empty inside.1, ih inside.2⟩

/-- The keys of an accepted source text are those of its units, which have names. -/
theorem exists_named_units_of_accepted (accepted : (checkSource file source).result = .ok output) :
    ∃ units, Source.Comprises source units ∧
      (checkSource file source).table.keys = units.flatMap UnitText.keys ∧
      ∀ unit ∈ units, unit.name ≠ "" := by
  obtain ⟨read, line, column, tokens_eq, units, row, keys_eq, -⟩ :=
    exists_read_of_spells accepted rfl (State.told_sourceUnits maxNesting _)
  have table_eq := (sourceUnits_of_accepted accepted rfl).2.2.2
  have inside : ∀ token ∈ read, token ∈ Source.tokenize source := by
    intro token member
    rw [tokens_eq]
    exact List.mem_append_left _ member
  refine ⟨units, ⟨read, line, column, tokens_eq, row⟩, ?_, row.names_ne_empty inside⟩
  rw [checkSource, checkTokens, table_eq, keys_eq]
  rfl

/-- Every item of an accepted source text has a level number from 1 to 49 or 77. An
elementary item has a type and a length, in which a V stands only if the type is numeric.
A constant has level 1 and a value. The key of every item names a unit of the text. -/
theorem complete_items_of_accepted (accepted : (checkSource file source).result = .ok output) :
    (∀ key item, (checkSource file source).table.get? key = some item →
      (1 ≤ item.level ∧ item.level ≤ 49 ∨ item.level = 77) ∧
      (item.isElementary = true → ∃ type length, item.type? = some type ∧
        item.pictureLength? = some length ∧
        ('V' ∈ length.toList → type = .signedNumeric ∨ type = .numeric)) ∧
      (item.isConstant = true → item.level = 1 ∧ item.constantValue?.isSome)) ∧
    ∃ units, Source.Comprises source units ∧
      ∀ key ∈ (checkSource file source).table.keys,
        key.unit ≠ "" ∧ ∃ unit ∈ units, unit.name = key.unit := by
  constructor
  · intro key item found
    have complete := complete_of_accepted accepted found
    refine ⟨complete.level, fun elementary => ?_, complete.constant⟩
    rw [Item.isElementary, Option.any_eq_true] at elementary
    obtain ⟨attributes, shown, elementary⟩ := elementary
    obtain ⟨type, type_eq, length, length_eq, known⟩ :=
      complete.elementary attributes shown (beq_iff_eq.mp elementary)
    refine ⟨type, length, ?_, ?_, fun scaled => ?_⟩
    · rw [Item.type?, shown, Option.bind_some, type_eq]
    · rw [Item.pictureLength?, shown, Option.bind_some, length_eq]
    · have numeric := known.isNumeric scaled
      cases type with
      | signedNumeric => exact .inl rfl
      | numeric => exact .inr rfl
      | alphanumeric => cases numeric
      | alphabetic => cases numeric
      | national => cases numeric
      | bit => cases numeric
  · obtain ⟨units, comprises, keys_eq, named⟩ := exists_named_units_of_accepted accepted
    refine ⟨units, comprises, fun key member => ?_⟩
    rw [keys_eq, List.mem_flatMap] at member
    obtain ⟨unit, listed, member⟩ := member
    rw [UnitText.mem_keys_iff] at member
    refine ⟨?_, unit, listed, member.1.symm⟩
    rw [member.1]
    exact named unit listed

/-- A program with a record, an item that stands for itself and a constant. -/
def itemsProgram : String :=
  "PROGRAM-ID. A. DATA DIVISION. WORKING-STORAGE SECTION. 01 R. 02 X PIC S9(3)V9(2). " ++
  "77 Y PIC X(4). 01 C CONSTANT AS 7. PROCEDURE DIVISION. MOVE C TO X."

theorem accepted_itemsProgram :
    (checkSource "a.cob" itemsProgram).result = .ok (Source.tokenize itemsProgram) := by
  rw [Outcome.result_eq_ok_iff]
  decide +kernel

/-- The scaled item of the record is signed. -/
theorem complete_items_itemsProgram :
    ∃ item type length,
      (checkSource "a.cob" itemsProgram).table.get? ⟨"A", "X"⟩ = some item ∧
      item.type? = some type ∧ item.pictureLength? = some length ∧ 'V' ∈ length.toList ∧
      (type = .signedNumeric ∨ type = .numeric) := by
  have shown : ((checkSource "a.cob" itemsProgram).table.get? ⟨"A", "X"⟩).map
      (fun item => (item.isElementary, item.pictureLength?)) = some (true, some "3V2") := by
    decide +kernel
  obtain ⟨item, found, item_eq⟩ := Option.map_eq_some_iff.mp shown
  rw [Prod.mk.injEq] at item_eq
  obtain ⟨type, length, type_eq, length_eq, numeric⟩ :=
    ((complete_items_of_accepted accepted_itemsProgram).1 _ item found).2.1 item_eq.1
  have scaled : 'V' ∈ length.toList := by
    rw [item_eq.2, Option.some.injEq] at length_eq
    rw [← length_eq]
    decide
  exact ⟨item, type, length, found, type_eq, length_eq, scaled, numeric scaled⟩

/-- The length of an elementary item of an accepted source text is a count of digits,
with a scale if there is one, as long as every number right after an opening parenthesis
is written in digits only. -/
theorem isDigitCount_of_accepted (accepted : (checkSource file source).result = .ok output)
    (plain : ∀ text, Enclosed (Source.tokenize source) text → AreDigits text.toList)
    {key : SymbolKey} {item : Item}
    (found : (checkSource file source).table.get? key = some item)
    (elementary : item.isElementary = true) :
    ∃ length, item.pictureLength? = some length ∧ IsDigitCount length.toList := by
  have complete := complete_of_accepted accepted found
  rw [Item.isElementary, Option.any_eq_true] at elementary
  obtain ⟨attributes, shown, elementary⟩ := elementary
  obtain ⟨type, -, length, length_eq, known⟩ :=
    complete.elementary attributes shown (beq_iff_eq.mp elementary)
  refine ⟨length, ?_, known.isDigitCount plain⟩
  rw [Item.pictureLength?, shown, Option.bind_some, length_eq]

/-- Numbers in parentheses are found among the pairs of neighbours. -/
theorem Enclosed.exists_mem_zip {tokens : List Token} {text : String}
    (enclosed : Enclosed tokens text) :
    ∃ pair ∈ tokens.zip tokens.tail, pair.1.value = "(" ∧ pair.2.category = .numeric ∧
      pair.2.value = text := by
  obtain ⟨opening, number, ⟨front, rest, rfl⟩, opens, numeric, text_eq⟩ := enclosed
  refine ⟨(opening, number), ?_, opens, numeric, text_eq⟩
  induction front with
  | nil => simp
  | cons first front ih =>
      cases front with
      | nil => simp
      | cons second front => exact List.mem_cons_of_mem _ ih

/-- The length with a scale is a count of digits. -/
theorem isDigitCount_itemsProgram :
    ∃ item length, (checkSource "a.cob" itemsProgram).table.get? ⟨"A", "X"⟩ = some item ∧
      item.pictureLength? = some length ∧ IsDigitCount length.toList := by
  have shown : ((checkSource "a.cob" itemsProgram).table.get? ⟨"A", "X"⟩).map
      Item.isElementary = some true := by
    decide +kernel
  have digits : ((Source.tokenize itemsProgram).zip (Source.tokenize itemsProgram).tail).all
      (fun pair => pair.1.value != "(" || pair.2.category != .numeric ||
        decide (AreDigits pair.2.value.toList)) = true := by
    decide +kernel
  obtain ⟨item, found, elementary⟩ := Option.map_eq_some_iff.mp shown
  have plain : ∀ text, Enclosed (Source.tokenize itemsProgram) text → AreDigits text.toList := by
    intro text enclosed
    obtain ⟨pair, listed, opens, numeric, rfl⟩ := enclosed.exists_mem_zip
    simpa [opens, numeric] using List.all_eq_true.mp digits pair listed
  obtain ⟨length, length_eq, count⟩ :=
    isDigitCount_of_accepted accepted_itemsProgram plain found elementary
  exact ⟨item, length, found, length_eq, count⟩

/-- A program that declares an item whose length has a sign. -/
def signedLengthProgram : String :=
  "PROGRAM-ID. P.\nDATA DIVISION.\nWORKING-STORAGE SECTION.\n01 X PIC 9(+4).\n" ++
  "PROCEDURE DIVISION.\nSTOP RUN.\nEND PROGRAM P.\n"

/-- A sign in the length of a picture is not reported, and becomes part of the length. -/
theorem accepted_signed_length :
    (checkSource "signed.cob" signedLengthProgram).diagnostics = [] ∧
      ((checkSource "signed.cob" signedLengthProgram).table.get? ⟨"P", "X"⟩).bind
        Item.pictureLength? = some "+4" ∧
      ¬IsDigitCount "+4".toList := by
  refine ⟨by decide +kernel, by decide +kernel, fun count => ?_⟩
  generalize text_eq : "+4".toList = text at count
  cases count with
  | count digits =>
      subst text_eq
      exact absurd digits (by decide)
  | @scaled digits scale _ _ =>
      have member : 'V' ∈ "+4".toList := by simp [text_eq]
      exact absurd member (by decide)

end CobolCheck
