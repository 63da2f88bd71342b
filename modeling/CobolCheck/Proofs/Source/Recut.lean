import CobolCheck.Proofs.Runs
import CobolCheck.Proofs.Source.Layout
import CobolCheck.Proofs.Source.Numeral

/-!
# Pieces before a line feed

The text of a word, a literal or a symbol is cut off as a whole again where a line feed or
nothing follows it. A word is so in upper case too, and a signed numeral is so without its sign.
-/

namespace CobolCheck

/-! ## The end of a line -/

/-- The text is at its end, or its line is. -/
def Broken (text : List Char) : Prop :=
  ∀ c ∈ text.head?, c = '\n'

theorem broken_nil : Broken [] :=
  fun _ found => nomatch found

theorem broken_cons (text : List Char) : Broken ('\n' :: text) :=
  fun _ found => (Option.some.inj found).symm

theorem Broken.stops {text : List Char} (broken : Broken text) {p : Char → Bool}
    (feed : p '\n' = false) : Stops p text := by
  intro c found
  rw [broken c found]
  exact feed

namespace Piece

/-! ## Numerals before a line feed -/

theorem fraction_of_broken {after : List Char} (broken : Broken after) : fraction after = [] := by
  cases after with
  | nil => rfl
  | cons c rest =>
      obtain rfl := broken c rfl
      rfl

/-- Only a decimal point begins a fraction. -/
theorem fraction_cons_of_ne {point : Char} (other : point ≠ '.') (rest : List Char) :
    fraction (point :: rest) = [] := by
  unfold fraction
  split
  · next found => exact absurd (List.cons.inj found).1 other
  · rfl

theorem numberRest_of_digits {more after : List Char} (digits : ∀ c ∈ more, c.isDigit = true)
    (stops : Stops Char.isDigit after) : numberRest (more ++ after) = more ++ fraction after := by
  have whole := stops.takeWhile_run digits
  have split := List.takeWhile_append_dropWhile (p := Char.isDigit) (l := more ++ after)
  rw [whole, List.append_cancel_left_eq] at split
  rw [numberRest, whole, split]

/-- An unsigned numeral begins with a digit, which goes on with the rest of it up to a line
feed. -/
theorem exists_cons_of_isUnsigned {text : List Char} (numeral : IsUnsigned text) :
    ∃ first more, text = first :: more ∧ first.isDigit = true ∧
      ∀ after, Broken after → numberRest (more ++ after) = more := by
  cases numeral with
  | whole whole =>
      obtain ⟨first, more, rfl⟩ := List.exists_cons_of_ne_nil whole.1
      have digits := List.forall_mem_cons.mp whole.2
      refine ⟨first, more, rfl, digits.1, fun after broken => ?_⟩
      rw [numberRest_of_digits digits.2 (broken.stops (by decide)), fraction_of_broken broken,
        List.append_nil]
  | fraction whole fraction =>
      obtain ⟨first, further, rfl⟩ := List.exists_cons_of_ne_nil whole.1
      obtain ⟨tenth, others, rfl⟩ := List.exists_cons_of_ne_nil fraction.1
      have digits := List.forall_mem_cons.mp whole.2
      have decimals := List.forall_mem_cons.mp fraction.2
      refine ⟨first, further ++ '.' :: tenth :: others, rfl, digits.1, fun after broken => ?_⟩
      have others_eq : (others ++ after).takeWhile Char.isDigit = others :=
        (broken.stops (by decide)).takeWhile_run decimals.2
      rw [List.append_assoc, List.cons_append, List.cons_append,
        numberRest_of_digits digits.2 (stops_cons (by decide) _), Piece.fraction,
        if_pos decimals.1, others_eq]

theorem cut_of_isDigit {first : Char} (digit : first.isDigit = true) (rest : List Char) :
    cut first rest = digitRest rest := by
  have differs (mark : Char) (other : mark.isDigit = false) : first ≠ mark := by
    rintro rfl
    rw [digit] at other
    cases other
  simp [cut, isBlank, differs, digit]

/-- An unsigned numeral before a line feed is cut off as a number. -/
theorem cut_of_isUnsigned {first : Char} {more after : List Char}
    (numeral : IsUnsigned (first :: more)) (broken : Broken after) :
    cut first (more ++ after) = (.numeric, more) := by
  obtain ⟨_, _, text_eq, digit, rest_eq⟩ := exists_cons_of_isUnsigned numeral
  obtain ⟨rfl, rfl⟩ := List.cons.inj text_eq
  rw [cut_of_isDigit digit, digitRest, rest_eq after broken,
    (broken.stops (by decide)).takeWhile_append]
  exact if_neg (Nat.not_lt.mpr (List.takeWhile_prefix _).length_le)

/-- What a sign begins depends on whether a digit follows it. -/
theorem cut_of_isSign {sign : Char} (signs : isSign sign = true) (rest : List Char) :
    cut sign rest =
      if (rest.head?.map Char.isDigit).getD false then (.numeric, numberRest rest)
      else (.symbol, []) := by
  have cases : sign = '+' ∨ sign = '-' := by simpa [isSign] using signs
  have single : symbolRest sign rest = [] := by
    cases rest with
    | nil => rfl
    | cons second rest => rcases cases with rfl | rfl <;> simp [symbolRest]
  rw [← single]
  rcases cases with rfl | rfl <;> simp [cut, isBlank, isSign]

/-- A signed numeral before a line feed is cut off as a number. -/
theorem cut_of_signed {sign : Char} {text after : List Char} (signs : isSign sign = true)
    (numeral : IsUnsigned text) (broken : Broken after) :
    cut sign (text ++ after) = (.numeric, text) := by
  obtain ⟨first, more, rfl, digit, rest_eq⟩ := exists_cons_of_isUnsigned numeral
  rw [cut_of_isSign signs, List.cons_append, List.head?_cons, Option.map_some, Option.getD_some,
    if_pos digit, numberRest_cons digit, rest_eq after broken]

/-- A sign before a line feed is a symbol. -/
theorem cut_of_sign {sign : Char} {after : List Char} (signs : isSign sign = true)
    (broken : Broken after) : cut sign after = (.symbol, []) := by
  rw [cut_of_isSign signs]
  cases after with
  | nil => rfl
  | cons c rest =>
      obtain rfl := broken c rfl
      rfl

/-! ## Quoted literals before a line feed -/

/-- A quoted literal does not go on with a line feed. -/
theorem quotedRest_of_broken {quote : Char} (visible : quote ≠ '\n') {after : List Char}
    (broken : Broken after) (pending : Bool) : quotedRest quote pending after = ([], pending) := by
  cases after with
  | nil => rfl
  | cons c after =>
      obtain rfl := broken c rfl
      cases pending <;> simp [quotedRest, visible.symm]

/-- A quoted literal, closed or not, is not looked at beyond its line. -/
theorem quotedRest_append {quote : Char} (visible : quote ≠ '\n') {after : List Char}
    (broken : Broken after) (pending : Bool) (rest : List Char) :
    quotedRest quote pending ((quotedRest quote pending rest).1 ++ after) =
      quotedRest quote pending rest := by
  have ended := quotedRest_of_broken visible broken
  induction rest generalizing pending with
  | nil => exact ended pending
  | cons c rest ih =>
      rw [quotedRest]
      split
      · next same =>
        subst same
        dsimp only
        rw [List.cons_append, quotedRest, if_pos rfl, ih]
      · next other =>
        split
        · next closing =>
          subst closing
          exact ended true
        · next inside =>
          split
          · rw [List.nil_append, ended, (Bool.not_eq_true pending).mp inside]
          · next feed =>
            dsimp only
            rw [List.cons_append, quotedRest, if_neg other, if_neg inside, if_neg feed, ih]

theorem cut_of_quote {first : Char} (quote : first = '"' ∨ first = '\x27') (rest : List Char) :
    cut first rest =
      (if (quotedRest first false rest).2 then .string else .symbol,
        (quotedRest first false rest).1) := by
  rcases quote with rfl | rfl <;> simp [cut, isBlank]

/-! ## Symbols before a line feed -/

theorem symbolRest_of_broken (first : Char) {after : List Char} (broken : Broken after) :
    symbolRest first after = [] := by
  cases after with
  | nil => rfl
  | cons c after =>
      obtain rfl := broken c rfl
      simp [symbolRest]

/-- A symbol goes on with nothing, or with the second of two characters. -/
theorem symbolRest_append (first : Char) (rest : List Char) {after : List Char}
    (broken : Broken after) : symbolRest first (symbolRest first rest ++ after) =
      symbolRest first rest := by
  have single := symbolRest_of_broken first broken
  cases rest with
  | nil => exact single
  | cons second rest =>
      rw [symbolRest]
      split
      · next pair => rw [List.singleton_append, symbolRest, if_pos pair]
      · exact single

/-- What follows the first character of a symbol is the second one, or a line feed. -/
theorem head?_symbolRest_append {first : Char} {rest after : List Char} (broken : Broken after) :
    ∀ c ∈ (symbolRest first rest ++ after).head?,
      c = '\n' ∨ (first, c) ∈ [('*', '*'), ('<', '='), ('>', '='), ('<', '>')] := by
  cases rest with
  | nil => exact fun c found => .inl (broken c found)
  | cons second rest =>
      rw [symbolRest]
      split
      · next pair =>
        intro c found
        exact .inr (Option.some.inj found ▸ pair)
      · exact fun c found => .inl (broken c found)

/-- A quoted text is cut off as it was. -/
theorem cut_quoted_append {first : Char} {rest more after : List Char} {kind : PieceKind}
    (quote : first = '"' ∨ first = '\x27') (cut_eq : cut first rest = (kind, more))
    (broken : Broken after) : cut first (more ++ after) = (kind, more) := by
  have visible : first ≠ '\n' := by rcases quote with rfl | rfl <;> decide
  rw [cut_of_quote quote] at cut_eq ⊢
  obtain ⟨rfl, rfl⟩ := Prod.mk.inj cut_eq
  rw [quotedRest_append visible broken]

theorem first_of_cut_eq_string {first : Char} {rest more : List Char}
    (cut_eq : cut first rest = (.string, more)) : first = '"' ∨ first = '\x27' := by
  by_contra other
  have digits := kind_digitRest rest
  unfold cut at cut_eq
  rw [if_neg other] at cut_eq
  have kind_eq := congrArg Prod.fst cut_eq
  repeat' split at kind_eq
  all_goals simp_all

/-- What is left to be a symbol is one before a line feed too. -/
theorem cut_symbol_append {first : Char} {rest more after : List Char}
    (cut_eq : cut first rest = (.symbol, more)) (broken : Broken after) :
    cut first (more ++ after) = (.symbol, more) := by
  have whole := cut_eq
  unfold cut at cut_eq
  split at cut_eq
  · cases cut_eq
  next blank =>
  split at cut_eq
  · cases cut_eq
  split at cut_eq
  · next quote => exact cut_quoted_append quote whole broken
  next quote =>
  split at cut_eq
  · have digits := kind_digitRest rest
    rw [cut_eq] at digits
    simp at digits
  next digit =>
  split at cut_eq
  · cases cut_eq
  next letter =>
  split at cut_eq
  · cases cut_eq
  obtain ⟨-, rfl⟩ := Prod.mk.inj cut_eq
  have follows := @head?_symbolRest_append first rest after broken
  have plain : ¬(first = '*' ∧ (symbolRest first rest ++ after).head? = some '>') := by
    rintro ⟨rfl, found⟩
    simpa using follows '>' found
  have unsigned : ¬(isSign first ∧
      ((symbolRest first rest ++ after).head?.map Char.isDigit).getD false) := by
    rintro ⟨-, found⟩
    cases next : (symbolRest first rest ++ after).head? with
    | none => simp [next] at found
    | some c =>
        rw [next, Option.map_some, Option.getD_some] at found
        rcases follows c next with rfl | pair
        · cases found
        · simp only [List.mem_cons, Prod.mk.injEq, List.not_mem_nil, or_false] at pair
          rcases pair with ⟨-, rfl⟩ | ⟨-, rfl⟩ | ⟨-, rfl⟩ | ⟨-, rfl⟩ <;> cases found
  rw [cut, if_neg blank, if_neg plain, if_neg quote, if_neg digit, if_neg letter,
    if_neg unsigned, symbolRest_append first rest broken]

/-! ## Words before a line feed -/

/-- A piece in upper case. -/
def toUpper (piece : Piece) : Piece :=
  ⟨piece.kind, piece.first.toUpper, piece.more.map Char.toUpper⟩

@[simp]
theorem text_toUpper (piece : Piece) : piece.toUpper.text = piece.text.map Char.toUpper :=
  rfl

theorem isDigit_toUpper (c : Char) : c.toUpper.isDigit = c.isDigit := by
  cases lower : c.isLower with
  | false => rw [toUpper_eq_self lower]
  | true =>
      obtain ⟨least, greatest, shifted⟩ := toNat_toUpper_of_isLower lower
      rw [Bool.eq_iff_iff, Char.isDigit_iff_toNat, Char.isDigit_iff_toNat]
      simp
      omega

theorem isWordRest_toUpper (c : Char) : isWordRest c.toUpper = isWordRest c := by
  have hyphen : (c.toUpper == '-') = (c == '-') := by
    rw [Bool.eq_iff_iff, beq_iff_eq, beq_iff_eq, toUpper_eq_iff (by decide)]
  rw [isWordRest, isWordRest, Char.isAlphanum, Char.isAlphanum, isAlpha_toUpper, isDigit_toUpper,
    hyphen]

/-- A word: it begins with a letter, or with a digit and is not in digits alone. -/
structure IsWord (first : Char) (more : List Char) : Prop where
  first : first.isAlpha = true ∨ first.isDigit = true ∧ ∃ c ∈ more, c.isDigit = false
  more : ∀ c ∈ more, isWordRest c = true

theorem IsWord.toUpper {first : Char} {more : List Char} (word : IsWord first more) :
    IsWord first.toUpper (more.map Char.toUpper) where
  first := by
    rw [isAlpha_toUpper, isDigit_toUpper]
    refine word.first.imp_right (And.imp_right ?_)
    rintro ⟨c, member, other⟩
    exact ⟨c.toUpper, List.mem_map_of_mem member, by rwa [isDigit_toUpper]⟩
  more := by
    intro c member
    obtain ⟨lower, inside, rfl⟩ := List.mem_map.mp member
    rw [isWordRest_toUpper]
    exact word.more lower inside

/-- Digits alone are not longer than the number that they are. -/
theorem length_le_numberRest {word rest : List Char} (isPrefix : word <+: rest)
    (digits : ∀ c ∈ word, c.isDigit = true) : word.length ≤ (numberRest rest).length := by
  obtain ⟨later, rfl⟩ := isPrefix
  rw [numberRest, List.takeWhile_append_of_pos digits, List.append_assoc, List.length_append]
  exact Nat.le_add_right _ _

theorem isWord_of_cut {first : Char} {rest more : List Char}
    (cut_eq : cut first rest = (.word, more)) : IsWord first more := by
  have passes : ∀ c ∈ rest.takeWhile isWordRest, isWordRest c = true :=
    List.all_eq_true.mp List.all_takeWhile
  unfold cut at cut_eq
  split at cut_eq
  · cases cut_eq
  split at cut_eq
  · cases cut_eq
  split at cut_eq
  · dsimp only at cut_eq
    split at cut_eq <;> cases cut_eq
  split at cut_eq
  · next digit =>
    unfold digitRest at cut_eq
    dsimp only at cut_eq
    split at cut_eq
    · next longer =>
      obtain ⟨-, rfl⟩ := Prod.mk.inj cut_eq
      refine ⟨.inr ⟨digit, ?_⟩, passes⟩
      by_contra none
      have digits : ∀ c ∈ rest.takeWhile isWordRest, c.isDigit = true := fun c member =>
        (Bool.not_eq_false _).mp fun other => none ⟨c, member, other⟩
      exact Nat.not_lt.mpr (length_le_numberRest (List.takeWhile_prefix _) digits) longer
    · cases cut_eq
  split at cut_eq
  · next letter =>
    obtain ⟨-, rfl⟩ := Prod.mk.inj cut_eq
    exact ⟨.inl letter, passes⟩
  split at cut_eq <;> cases cut_eq

theorem cut_of_isAlpha {first : Char} (letter : first.isAlpha = true) (rest : List Char) :
    cut first rest = (.word, rest.takeWhile isWordRest) := by
  have differs (mark : Char) (other : mark.isAlpha = false) : first ≠ mark := by
    rintro rfl
    rw [letter] at other
    cases other
  simp [cut, isBlank, differs, letter, isDigit_eq_false_of_isAlpha letter]

/-- The digits that a word begins with are a shorter number than the word. -/
theorem length_numberRest_lt {more after : List Char} (other : ∃ c ∈ more, c.isDigit = false)
    (word : ∀ c ∈ more, isWordRest c = true) :
    (numberRest (more ++ after)).length < more.length := by
  have split := List.takeWhile_append_dropWhile (p := Char.isDigit) (l := more)
  have digits : ∀ c ∈ more.takeWhile Char.isDigit, c.isDigit = true :=
    List.all_eq_true.mp List.all_takeWhile
  have stops := List.head?_dropWhile_not Char.isDigit more
  cases rest : more.dropWhile Char.isDigit with
  | nil =>
      rw [rest, List.append_nil] at split
      rw [split] at digits
      obtain ⟨c, member, fails⟩ := other
      rw [digits c member] at fails
      cases fails
  | cons c later =>
      rw [rest, List.head?_cons] at stops
      rw [rest] at split
      have visible : c ≠ '.' := by
        rintro rfl
        have inside := word '.' (split ▸ List.mem_append_right _ List.mem_cons_self)
        cases inside
      rw [← split, List.append_assoc, List.cons_append,
        numberRest_of_digits digits (stops_cons (by simpa using stops) _),
        fraction_cons_of_ne visible, List.append_nil, List.length_append, List.length_cons]
      exact Nat.lt_add_of_pos_right (Nat.succ_pos _)

/-- A word before a line feed is cut off as a word. -/
theorem IsWord.cut_append {first : Char} {more after : List Char} (word : IsWord first more)
    (broken : Broken after) : cut first (more ++ after) = (.word, more) := by
  have whole : (more ++ after).takeWhile isWordRest = more :=
    (broken.stops (by decide)).takeWhile_run word.more
  rcases word.first with letter | ⟨digit, other⟩
  · rw [cut_of_isAlpha letter, whole]
  · rw [cut_of_isDigit digit, digitRest, whole]
    exact if_pos (length_numberRest_lt other word.more)

/-- A word, a literal or a symbol is cut off before a line feed as it was. -/
theorem IsCut.cut_append {piece : Piece} (cuts : piece.IsCut) (visible : piece.kind ≠ .blank)
    (shown : piece.kind ≠ .comment) {after : List Char} (broken : Broken after) :
    cut piece.first (piece.more ++ after) = (piece.kind, piece.more) := by
  obtain ⟨rest, cut_eq⟩ := cuts
  cases kind : piece.kind with
  | blank => exact absurd kind visible
  | comment => exact absurd kind shown
  | word =>
      rw [kind] at cut_eq
      exact (isWord_of_cut cut_eq).cut_append broken
  | numeric =>
      rw [kind] at cut_eq
      rcases cut_eq_numeric cut_eq with ⟨digit, more_eq⟩ | ⟨sign, unsigned⟩
      · have numeral := isUnsigned_numberRest digit rest
        rw [← more_eq] at numeral
        exact cut_of_isUnsigned numeral broken
      · exact cut_of_signed sign unsigned broken
  | string =>
      rw [kind] at cut_eq
      exact cut_quoted_append (first_of_cut_eq_string cut_eq) cut_eq broken
  | symbol =>
      rw [kind] at cut_eq
      exact cut_symbol_append cut_eq broken

end Piece

end CobolCheck
