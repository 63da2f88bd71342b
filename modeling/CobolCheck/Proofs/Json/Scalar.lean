import CobolCheck.Json.Printer
import CobolCheck.Json.Reader
import CobolCheck.Proofs.Runs

/-!
# Strings and numbers read back

A string that is written between quotes is read back as the same text, whatever its characters
are, and a natural number is read back from its digits. Both are read up to their end only: what
follows is left as it is.
-/

namespace CobolCheck.Json

/-! ## Characters -/

/-- The letter of an escape stands for the character that it was written for. -/
theorem unescape_letter {c letter : Char} (escaped : letterEscapes.lookup c = some letter)
    (rest : List Char) : unescape (letter :: rest) = some (some c, rest) := by
  obtain ⟨before, after, split, -⟩ := List.lookup_eq_some_iff.mp escaped
  have member : (c, letter) ∈ letterEscapes := by
    rw [split]
    exact List.mem_append_right before List.mem_cons_self
  simp only [letterEscapes, List.mem_cons, Prod.mk.injEq, List.not_mem_nil, or_false] at member
  rcases member with ⟨rfl, rfl⟩ | ⟨rfl, rfl⟩ | ⟨rfl, rfl⟩ | ⟨rfl, rfl⟩ | ⟨rfl, rfl⟩ | ⟨rfl, rfl⟩ |
    ⟨rfl, rfl⟩ <;> rfl

theorem hexDigit?_digitChar : ∀ digit < 16, hexDigit? (Nat.digitChar digit) = some digit := by
  decide

/-- The four digits of a control character stand for it. -/
theorem unescape_control {c : Char} (control : c.toNat < 0x20) (rest : List Char) :
    unescape ('u' :: '0' :: '0' :: Nat.digitChar (c.toNat / 16) :: Nat.digitChar (c.toNat % 16) ::
      rest) = some (some c, rest) := by
  have zero : hexDigit? '0' = some 0 := rfl
  have high := hexDigit?_digitChar (c.toNat / 16) (by omega)
  have low := hexDigit?_digitChar (c.toNat % 16) (by omega)
  have unit : ((0 * 16 + 0) * 16 + c.toNat / 16) * 16 + c.toNat % 16 = c.toNat := by omega
  have single : isHighSurrogate c.toNat = false ∧ isLowSurrogate c.toNat = false := by
    simp only [isHighSurrogate, isLowSurrogate, Bool.and_eq_false_iff, decide_eq_false_iff_not]
    omega
  simp only [unescape, codeUnit?, zero, high, low, unit, Option.bind_eq_bind, Option.bind_some,
    ofCodeUnit, single, Bool.false_eq_true, if_false, Char.ofNat_toNat]

/-- An escaped character is read back, and the rest of the string after it. -/
theorem readCharacters_escape (room : Nat) (c : Char) (rest : List Char) :
    readCharacters (room + 1) (escape c ++ rest) =
      (readCharacters room rest).map fun (characters, rest) => (some c :: characters, rest) := by
  have backslash {after : List Char} (read : unescape after = some (some c, rest)) :
      readCharacters (room + 1) ('\\' :: after) =
        (readCharacters room rest).map fun (characters, rest) => (some c :: characters, rest) := by
    rw [readCharacters, if_neg (by decide), if_pos rfl, read, Option.bind_eq_bind, Option.bind_some]
    dsimp only
    cases readCharacters room rest <;> rfl
  unfold escape
  cases escaped : letterEscapes.lookup c with
  | some letter => exact backslash (unescape_letter escaped rest)
  | none =>
      dsimp only
      split
      · next control => exact backslash (unescape_control control rest)
      · next visible =>
        have quote : c ≠ '"' := by
          rintro rfl
          cases escaped
        have slash : c ≠ '\\' := by
          rintro rfl
          cases escaped
        rw [List.singleton_append, readCharacters, if_neg quote, if_neg slash, if_neg visible]
        cases readCharacters room rest <;> rfl

/-! ## Strings -/

theorem readCharacters_flatMap_escape {room : Nat} {text : List Char} (enough : text.length < room)
    (after : List Char) :
    readCharacters room (text.flatMap escape ++ '"' :: after) = some (text.map some, after) := by
  induction text generalizing room with
  | nil =>
      obtain ⟨room, rfl⟩ := Nat.exists_eq_add_one.mpr enough
      rfl
  | cons c text ih =>
      obtain ⟨room, rfl⟩ := Nat.exists_eq_add_one.mpr (Nat.zero_lt_of_lt enough)
      rw [List.flatMap_cons, List.append_assoc, readCharacters_escape,
        ih (Nat.lt_of_succ_lt_succ enough)]
      rfl

theorem mapM_id_map_some (text : List Char) : (text.map some).mapM id = some text := by
  induction text with
  | nil => rfl
  | cons c text ih =>
      rw [List.map_cons, List.mapM_cons, ih]
      rfl

/-- A text in quotes is read back, up to the closing quote. -/
theorem readText_quote (text : String) {room : Nat} (enough : text.toList.length < room)
    (after : List Char) :
    readText room (text.toList.flatMap escape ++ '"' :: after) = some (some text, after) := by
  rw [readText, readCharacters_flatMap_escape enough, Option.bind_eq_bind, Option.bind_some]
  dsimp only
  rw [mapM_id_map_some, Option.map_some, String.ofList_toList]

theorem length_lt_length_quote (text : String) : text.toList.length + 1 < (quote text).length := by
  have least : ∀ letters : List Char, letters.length ≤ (letters.flatMap escape).length := by
    intro letters
    induction letters with
    | nil => exact Nat.le_refl 0
    | cons c letters ih =>
        have one : 1 ≤ (escape c).length := by
          unfold escape
          split
          · simp
          · split <;> simp
        rw [List.flatMap_cons, List.length_append, List.length_cons]
        omega
  have inner := least text.toList
  rw [quote, List.length_append, List.length_cons, List.length_singleton]
  omega

/-! ## Numbers -/

/-- The characters that a number may go on with. -/
def isNumberRest (c : Char) : Bool :=
  c.isDigit || c == '.' || c == 'e' || c == 'E'

theorem isDigit_of_mem_toDigits {value : Nat} {c : Char} (member : c ∈ Nat.toDigits 10 value) :
    c.isDigit = true :=
  Nat.isDigit_of_mem_toDigits (by decide) (by decide) member

/-- A number begins with a digit. -/
theorem exists_toDigits_cons (value : Nat) :
    ∃ digit more, Nat.toDigits 10 value = digit :: more ∧ digit.isDigit = true := by
  obtain ⟨digit, more, digits_eq⟩ := List.exists_cons_of_ne_nil
    (Nat.toDigits_ne_nil (n := value) (b := 10))
  exact ⟨digit, more, digits_eq, isDigit_of_mem_toDigits (digits_eq ▸ List.mem_cons_self)⟩

/-- No number but zero begins with a zero. -/
theorem head?_toDigits_ne {value : Nat} (positive : 0 < value) :
    (Nat.toDigits 10 value).head? ≠ some '0' := by
  induction value using Nat.strongRecOn with
  | ind value ih =>
      by_cases single : value < 10
      · rw [Nat.toDigits_of_lt_base single]
        simpa using Nat.ne_of_gt positive
      · rw [Nat.toDigits_of_base_le (by decide) (by omega), List.head?_append]
        have front := ih (value / 10) (by omega) (by omega)
        cases first : (Nat.toDigits 10 (value / 10)).head? with
        | none => exact absurd (List.head?_eq_none_iff.mp first) Nat.toDigits_ne_nil
        | some digit => rwa [Option.some_or, ← first]

/-- The digits of a number are read back as a whole. -/
theorem readWhole_toDigits (value : Nat) {after : List Char} (stops : Stops Char.isDigit after) :
    readWhole (Nat.toDigits 10 value ++ after) = some (Nat.toDigits 10 value, after) := by
  rcases Nat.eq_zero_or_pos value with rfl | positive
  · rw [Nat.toDigits_zero]
    rfl
  · obtain ⟨digit, more, digits_eq, -⟩ := exists_toDigits_cons value
    have first := head?_toDigits_ne positive
    have read : readDigits (Nat.toDigits 10 value ++ after) =
        some (Nat.toDigits 10 value, after) := by
      rw [readDigits, stops.takeWhile_run fun _ => isDigit_of_mem_toDigits,
        stops.dropWhile_run fun _ => isDigit_of_mem_toDigits, digits_eq]
    rw [← read]
    unfold readWhole
    split
    · next zero =>
      rw [digits_eq, List.cons_append, List.cons.injEq] at zero
      rw [digits_eq, zero.1] at first
      contradiction
    · rfl

theorem readFraction_of_stops {after : List Char} (stops : Stops isNumberRest after) :
    readFraction after = some ([], after) := by
  unfold readFraction
  split
  · next rest =>
    have point := stops '.' rfl
    contradiction
  · rfl

theorem readExponent_of_stops {after : List Char} (stops : Stops isNumberRest after) :
    readExponent after = some ([], after) := by
  cases after with
  | nil => rfl
  | cons mark rest =>
      have other : ¬(mark = 'e' ∨ mark = 'E') := by
        rintro (rfl | rfl)
        all_goals
          have exponent := stops _ rfl
          contradiction
      simp only [readExponent, other, if_false]

/-- A natural number is read back up to where its digits end. -/
theorem readNumber_toDigits (value : Nat) {after : List Char} (stops : Stops isNumberRest after) :
    readNumber (Nat.toDigits 10 value ++ after) = some (natural value, after) := by
  have sign : (Nat.toDigits 10 value ++ after).takeWhile (· == '-') = [] := by
    obtain ⟨digit, more, digits_eq, isDigit⟩ := exists_toDigits_cons value
    rw [digits_eq, List.cons_append, List.takeWhile_cons_of_neg]
    intro minus
    rw [beq_iff_eq.mp minus] at isDigit
    contradiction
  have whole := readWhole_toDigits value
    (stops.mono fun c none => (Bool.or_eq_false_iff.mp (Bool.or_eq_false_iff.mp
      (Bool.or_eq_false_iff.mp none).1).1).1)
  rw [readNumber, sign]
  simp only [List.length_nil, Nat.not_lt_zero, if_false, List.drop_zero, whole,
    readFraction_of_stops stops, readExponent_of_stops stops, Option.bind_eq_bind, Option.bind_some,
    and_self, if_true, Nat.ofDigitChars_ten_toDigits]

end CobolCheck.Json
