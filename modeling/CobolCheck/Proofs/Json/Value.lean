import CobolCheck.Proofs.Json.Scalar

/-!
# Values read back

A value without numbers other than natural ones, all of whose strings have a text, is read back as
it is from what is written of it, in every layout. The main statement is `parse?_render`.
-/

namespace CobolCheck.Json

/-- Whether all numbers of a value are natural ones and all its strings have a text. -/
inductive IsExact : Json → Prop
  | null : IsExact null
  | bool (value : Bool) : IsExact (bool value)
  | natural (value : Nat) : IsExact (natural value)
  | string (text : String) : IsExact (string text)
  | array {elements : List Json} (each : ∀ element ∈ elements, IsExact element) :
      IsExact (array elements)
  | object {fields : List (String × Json)} (each : ∀ field ∈ fields, IsExact field.2) :
      IsExact (object fields)

/-- Whether a value is read back in every layout, after blanks and up to where no number goes
on. -/
def ReadsBack (json : Json) : Prop :=
  ∀ (layout : Layout) (room : Nat) (after : List Char), (json.render layout).length ≤ room →
    Stops isNumberRest after → readValue room (json.render layout ++ after) = some (json, after)

/-! ## Blanks -/

/-- Characters that only separate the parts of a value. -/
def AreSpaces (text : List Char) : Prop :=
  ∀ c ∈ text, isSpace c = true

theorem areSpaces_nil : AreSpaces [] :=
  fun _ member => nomatch member

theorem areSpaces_gap (layout : Layout) : AreSpaces layout.gap := by
  cases layout with
  | compact => exact areSpaces_nil
  | indented depth =>
      intro c member
      rw [Layout.gap, List.mem_cons, List.mem_replicate] at member
      rcases member with rfl | ⟨-, rfl⟩ <;> rfl

theorem AreSpaces.skipSpaces_append {spaces : List Char} (blank : AreSpaces spaces)
    (text : List Char) : skipSpaces (spaces ++ text) = skipSpaces text :=
  List.dropWhile_append_of_pos blank

theorem skipSpaces_cons {c : Char} (visible : isSpace c = false) (text : List Char) :
    skipSpaces (c :: text) = c :: text :=
  List.dropWhile_cons_of_neg (by simp [visible])

/-- A value is read after blanks as it is without them. -/
theorem AreSpaces.readValue_append {spaces : List Char} (blank : AreSpaces spaces) (room : Nat)
    (text : List Char) : readValue room (spaces ++ text) = readValue room text := by
  cases room with
  | zero => rfl
  | succ room => rw [readValue, readValue, blank.skipSpaces_append]

/-- No number goes on with a blank. -/
theorem AreSpaces.stops_append {spaces : List Char} (blank : AreSpaces spaces) {text : List Char}
    (stops : Stops isNumberRest text) : Stops isNumberRest (spaces ++ text) := by
  cases spaces with
  | nil => exact stops
  | cons c spaces =>
      refine stops_cons ?_ _
      have space := blank c List.mem_cons_self
      simp only [isSpace, Bool.or_eq_true, beq_iff_eq] at space
      rcases space with ((rfl | rfl) | rfl) | rfl <;> rfl

/-! ## What a value begins with -/

theorem isSpace_of_isDigit {c : Char} (digit : c.isDigit = true) : isSpace c = false := by
  rw [← Bool.not_eq_true]
  intro space
  simp only [isSpace, Bool.or_eq_true, beq_iff_eq] at space
  rcases space with ((rfl | rfl) | rfl) | rfl <;> cases digit

/-- A value begins with a character of its own, which closes no array. -/
theorem IsExact.exists_render_cons {json : Json} (exact : json.IsExact) (layout : Layout) :
    ∃ c more, json.render layout = c :: more ∧ isSpace c = false ∧ c ≠ ']' := by
  cases exact with
  | null => exact ⟨'n', _, by rw [render], rfl, by decide⟩
  | bool value =>
      cases value
      · exact ⟨'f', _, by rw [render], rfl, by decide⟩
      · exact ⟨'t', _, by rw [render], rfl, by decide⟩
  | natural value =>
      obtain ⟨digit, more, digits_eq, isDigit⟩ := exists_toDigits_cons value
      refine ⟨digit, more, by rw [render, digits_eq], isSpace_of_isDigit isDigit, ?_⟩
      rintro rfl
      cases isDigit
  | string text => exact ⟨'"', _, by rw [render]; rfl, rfl, by decide⟩
  | @array elements each =>
      refine ⟨'[', (render layout (Json.array elements)).tail, ?_, rfl, by decide⟩
      cases elements <;> rw [render] <;> rfl
  | @object fields each =>
      refine ⟨'\x7b', (render layout (Json.object fields)).tail, ?_, rfl, by decide⟩
      cases fields <;> rw [render] <;> rfl

/-! ## Elements -/

/-- A bracket begins an array that has elements, unless it is closed at once. -/
theorem readValue_bracket {spaces : List Char} (blank : AreSpaces spaces) {c : Char}
    (visible : isSpace c = false) (other : c ≠ ']') (room : Nat) (more : List Char) :
    readValue (room + 1) ('[' :: (spaces ++ c :: more)) =
      (readElements room (c :: more)).map fun (elements, rest) => (array elements, rest) := by
  have begun : skipSpaces (spaces ++ c :: more) = c :: more := by
    rw [blank.skipSpaces_append, skipSpaces_cons visible]
  rw [readValue, skipSpaces_cons rfl]
  split
  case h_5 inner same =>
    rw [← (List.cons.inj same).2, begun]
    split
    · next closed => exact absurd (List.cons.inj closed).1 other
    · cases readElements room (c :: more) <;> rfl
  case h_7 none _ => exact absurd rfl (none _)
  all_goals
    next same => exact absurd (List.cons.inj same).1 (by decide)

/-- After an element, a comma leads to the others. -/
theorem readElements_of_comma {room : Nat} {input rest more : List Char} {first : Json}
    (read : readValue room input = some (first, rest)) (comma : skipSpaces rest = ',' :: more) :
    readElements (room + 1) input =
      (readElements room more).map fun (others, rest) => (first :: others, rest) := by
  rw [readElements, read, Option.bind_eq_bind, Option.bind_some]
  dsimp only
  rw [comma]
  cases read : readElements room more <;> exact (congrArg (Option.bind · _) read).trans rfl

/-- After an element, a bracket ends the array. -/
theorem readElements_of_bracket {room : Nat} {input rest more : List Char} {first : Json}
    (read : readValue room input = some (first, rest)) (bracket : skipSpaces rest = ']' :: more) :
    readElements (room + 1) input = some ([first], more) := by
  rw [readElements, read, Option.bind_eq_bind, Option.bind_some]
  dsimp only
  rw [bracket]
  rfl

/-- The elements of an array are read back with its closing bracket, after blanks. -/
theorem readElements_render (layout outer : Layout) {first : Json} {others : List Json}
    (each : ∀ element ∈ first :: others, element.ReadsBack) {before : List Char}
    (blank : AreSpaces before) {room : Nat}
    (enough : (first.render layout).length + (renderElements layout others).length < room)
    (after : List Char) :
    readElements room
        (before ++ (first.render layout ++ (renderElements layout others ++
          (outer.gap ++ ']' :: after)))) =
      some (first :: others, after) := by
  rw [List.forall_mem_cons] at each
  obtain ⟨room, rfl⟩ := Nat.exists_eq_add_one.mpr (Nat.zero_lt_of_lt enough)
  induction others generalizing first before room with
  | nil =>
      have closing : Stops isNumberRest (outer.gap ++ ']' :: after) :=
        (areSpaces_gap outer).stops_append (stops_cons rfl after)
      rw [renderElements, List.length_nil] at enough
      have read := each.1 layout room _ (by omega) closing
      rw [← blank.readValue_append] at read
      exact readElements_of_bracket read ((areSpaces_gap outer).skipSpaces_append _)
  | cons second others ih =>
      have later := List.forall_mem_cons.mp each.2
      rw [renderElements, List.length_append, List.length_append, List.length_cons] at enough
      -- The comma alone is longer than the room that the first element takes from the others.
      obtain ⟨less, rfl⟩ : ∃ less, room = less + 1 := Nat.exists_eq_add_one.mpr (by omega)
      have rest := ih later (areSpaces_gap layout) less (by omega)
      simp only [renderElements, List.append_assoc, List.cons_append]
      have read (more : List Char) :=
        each.1 layout (less + 1) (',' :: more) (by omega) (stops_cons rfl more)
      rw [readElements_of_comma ((blank.readValue_append _ _).trans (read _))
        (skipSpaces_cons rfl _), rest]
      rfl

/-! ## Fields -/

/-- A brace begins an object, whose first field begins with a quote. -/
theorem readValue_brace {spaces : List Char} (blank : AreSpaces spaces) (room : Nat)
    (more : List Char) :
    readValue (room + 1) ('\x7b' :: (spaces ++ '"' :: more)) =
      (readFields room ('"' :: more)).map fun (fields, rest) => (ofFields fields, rest) := by
  have begun : skipSpaces (spaces ++ '"' :: more) = '"' :: more := by
    rw [blank.skipSpaces_append, skipSpaces_cons rfl]
  rw [readValue, skipSpaces_cons rfl]
  split
  case h_6 inner same =>
    rw [← (List.cons.inj same).2, begun]
    split
    · next closed => exact absurd (List.cons.inj closed).1 (by decide)
    · cases readFields room ('"' :: more) <;> rfl
  case h_7 none => exact absurd rfl (none _)
  all_goals
    next same => exact absurd (List.cons.inj same).1 (by decide)

theorem colon_inner (layout : Layout) : layout.inner.colon = layout.colon := by
  cases layout <;> rfl

theorem exists_colon_eq (layout : Layout) :
    ∃ spaces, layout.colon = ':' :: spaces ∧ AreSpaces spaces := by
  cases layout with
  | compact => exact ⟨[], rfl, areSpaces_nil⟩
  | indented depth =>
      refine ⟨[' '], rfl, fun c member => ?_⟩
      rw [List.mem_singleton.mp member]
      rfl

/-- A quote begins the name of a field. -/
theorem readFields_of_quote {room : Nat} {input inner rest more : List Char} {name : Option String}
    (quoted : skipSpaces input = '"' :: inner) (text : readText room inner = some (name, rest))
    (colon : skipSpaces rest = ':' :: more) {value : Json} {last : List Char}
    (read : readValue room more = some (value, last)) :
    readFields (room + 1) input =
      match skipSpaces last with
      | ',' :: next => do
          let (others, after) ← readFields room next
          some ((name, value) :: others, after)
      | '\x7d' :: next => some ([(name, value)], next)
      | _ => none := by
  rw [readFields, quoted]
  refine (congrArg (Option.bind · _) text).trans ?_
  rw [Option.bind_some]
  dsimp only
  rw [colon]
  refine (congrArg (Option.bind · _) read).trans ?_
  rfl

/-- A field is read back up to the end of its value, after blanks. -/
theorem readFields_quote {layout : Layout} {name : String} {value : Json} (first : value.ReadsBack)
    {before : List Char} (blank : AreSpaces before) {room : Nat}
    (enough : (quote name).length + (value.render layout).length ≤ room) {after : List Char}
    (stops : Stops isNumberRest after) :
    readFields (room + 1)
        (before ++ (quote name ++ (layout.colon ++ (value.render layout ++ after)))) =
      match skipSpaces after with
      | ',' :: rest => do
          let (others, rest) ← readFields room rest
          some ((some name, value) :: others, rest)
      | '\x7d' :: rest => some ([(some name, value)], rest)
      | _ => none := by
  have shorter := length_lt_length_quote name
  obtain ⟨spaces, colon_eq, separate⟩ := exists_colon_eq layout
  have read := first layout room after (by omega) stops
  rw [← separate.readValue_append] at read
  rw [colon_eq, quote, List.append_assoc, List.cons_append, List.cons_append]
  exact readFields_of_quote ((blank.skipSpaces_append _).trans (skipSpaces_cons rfl _))
    (readText_quote name (by omega) _) (skipSpaces_cons rfl _) read

/-- The fields of an object are read back with its closing bracket, after blanks. -/
theorem readFields_render (layout outer : Layout) (name : String) {value : Json}
    {others : List (String × Json)} (first : value.ReadsBack)
    (each : ∀ field ∈ others, field.2.ReadsBack) {before : List Char} (blank : AreSpaces before)
    {room : Nat}
    (enough : (quote name).length + (value.render layout).length +
      (renderFields layout others).length < room)
    (after : List Char) :
    readFields room
        (before ++ (quote name ++ (layout.colon ++ (value.render layout ++
          (renderFields layout others ++ (outer.gap ++ '\x7d' :: after)))))) =
      some ((some name, value) :: others.map fun field => (some field.1, field.2), after) := by
  obtain ⟨room, rfl⟩ := Nat.exists_eq_add_one.mpr (Nat.zero_lt_of_lt enough)
  induction others generalizing name value before room with
  | nil =>
      have closing : Stops isNumberRest (outer.gap ++ '\x7d' :: after) :=
        (areSpaces_gap outer).stops_append (stops_cons rfl after)
      rw [renderFields, List.length_nil] at enough
      rw [renderFields, List.nil_append, readFields_quote first blank (by omega) closing,
        (areSpaces_gap outer).skipSpaces_append, skipSpaces_cons rfl]
      rfl
  | cons second others ih =>
      obtain ⟨secondName, secondValue⟩ := second
      have later := List.forall_mem_cons.mp each
      simp only [renderFields, List.length_append, List.length_cons] at enough
      obtain ⟨less, rfl⟩ : ∃ less, room = less + 1 := Nat.exists_eq_add_one.mpr (by omega)
      have rest := ih secondName later.1 later.2 (areSpaces_gap layout) less
        (by dsimp only; omega)
      simp only [renderFields, List.append_assoc, List.cons_append]
      have stops (more : List Char) : Stops isNumberRest (',' :: more) := stops_cons rfl more
      rw [readFields_quote first blank (by omega) (stops _), skipSpaces_cons rfl]
      refine (congrArg (Option.bind · _) rest).trans ?_
      rfl

/-- Fields whose names have a text are those of an object. -/
theorem ofFields_map_some (fields : List (String × Json)) :
    ofFields (fields.map fun field => (some field.1, field.2)) = object fields := by
  have named : ((fields.map fun field => (some field.1, field.2)).mapM
      fun field : Option String × Json => field.1.map fun name => (name, field.2)) =
        some fields := by
    induction fields with
    | nil => rfl
    | cons field fields ih => rw [List.map_cons, List.mapM_cons, ih]; rfl
  rw [ofFields, named]

/-! ## Values -/

theorem readsBack_natural (value : Nat) : (natural value).ReadsBack := by
  intro layout room after enough stops
  rw [render] at enough ⊢
  have read := readNumber_toDigits value stops
  obtain ⟨digit, more, digits_eq, isDigit⟩ := exists_toDigits_cons value
  rw [digits_eq] at enough read ⊢
  obtain ⟨room, rfl⟩ := Nat.exists_eq_add_one.mpr (Nat.zero_lt_of_lt enough)
  rw [List.cons_append] at read ⊢
  rw [readValue, skipSpaces_cons (isSpace_of_isDigit isDigit)]
  -- No other value begins with a digit.
  split
  case h_7 => exact read
  all_goals
    next same =>
      rw [(List.cons.inj same).1] at isDigit
      contradiction

theorem readsBack_string (text : String) : (string text).ReadsBack := by
  intro layout room after enough stops
  have shorter := length_lt_length_quote text
  rw [render] at enough ⊢
  obtain ⟨room, rfl⟩ : ∃ less, room = less + 1 := Nat.exists_eq_add_one.mpr (by omega)
  have read : readText room (text.toList.flatMap escape ++ '"' :: after) =
      some (some text, after) := readText_quote text (by omega) after
  rw [quote, List.append_assoc, List.cons_append, readValue, skipSpaces_cons rfl]
  refine (congrArg (Option.bind · _) read).trans ?_
  rfl

theorem readsBack_array {elements : List Json} (exact : ∀ element ∈ elements, element.IsExact)
    (each : ∀ element ∈ elements, element.ReadsBack) : (array elements).ReadsBack := by
  intro layout room after enough stops
  cases elements with
  | nil =>
      rw [render] at enough ⊢
      obtain ⟨room, rfl⟩ := Nat.exists_eq_add_one.mpr (Nat.lt_of_lt_of_le (by decide) enough)
      rfl
  | cons first others =>
      simp only [render, List.length_append, List.length_cons] at enough
      obtain ⟨room, rfl⟩ : ∃ less, room = less + 1 := Nat.exists_eq_add_one.mpr (by omega)
      obtain ⟨c, more, first_eq, visible, other⟩ :=
        (exact first List.mem_cons_self).exists_render_cons layout.inner
      have read := readElements_render layout.inner layout each areSpaces_nil
        (by omega : _ < room) after
      simp only [render, List.append_assoc, List.cons_append, List.nil_append] at read ⊢
      rw [first_eq, List.cons_append] at read ⊢
      rw [readValue_bracket (areSpaces_gap layout.inner) visible other, read]
      rfl

theorem readsBack_object {fields : List (String × Json)}
    (each : ∀ field ∈ fields, field.2.ReadsBack) : (object fields).ReadsBack := by
  intro layout room after enough stops
  cases fields with
  | nil =>
      rw [render] at enough ⊢
      obtain ⟨room, rfl⟩ := Nat.exists_eq_add_one.mpr (Nat.lt_of_lt_of_le (by decide) enough)
      rfl
  | cons first others =>
      obtain ⟨name, value⟩ := first
      rw [List.forall_mem_cons] at each
      simp only [render, List.length_append, List.length_cons] at enough
      obtain ⟨room, rfl⟩ : ∃ less, room = less + 1 := Nat.exists_eq_add_one.mpr (by omega)
      have read := readFields_render layout.inner layout name each.1 each.2 areSpaces_nil
        (by dsimp only; omega : _ < room) after
      simp only [render, quote, colon_inner, List.append_assoc, List.cons_append,
        List.nil_append] at read ⊢
      rw [readValue_brace (areSpaces_gap layout.inner), read, Option.map_some, ← ofFields_map_some]
      rfl

/-- A value is read back from what is written of it. -/
theorem IsExact.readsBack {json : Json} (exact : json.IsExact) : json.ReadsBack := by
  induction exact with
  | null =>
      intro layout room after enough _
      rw [render] at enough ⊢
      obtain ⟨room, rfl⟩ := Nat.exists_eq_add_one.mpr (Nat.zero_lt_of_lt enough)
      rfl
  | bool value =>
      intro layout room after enough _
      cases value
      all_goals
        rw [render] at enough ⊢
        obtain ⟨room, rfl⟩ := Nat.exists_eq_add_one.mpr (Nat.zero_lt_of_lt enough)
        rfl
  | natural value => exact readsBack_natural value
  | string text => exact readsBack_string text
  | array exact each => exact readsBack_array exact each
  | object _ each => exact readsBack_object each

/-- A written value is the only one of its text, which may go on with blanks. -/
theorem parse?_render {json : Json} (exact : json.IsExact) (layout : Layout) {spaces : List Char}
    (blank : AreSpaces spaces) :
    parse? (String.ofList (json.render layout ++ spaces)) = some json := by
  have stops : Stops isNumberRest spaces := by
    simpa using blank.stops_append (stops_nil isNumberRest)
  have read := exact.readsBack layout (2 * (json.render layout ++ spaces).length + 1) spaces
    (by rw [List.length_append]; omega) stops
  have rest := blank.skipSpaces_append []
  rw [List.append_nil] at rest
  simp only [parse?, String.toList_ofList, read, rest]
  rfl

end CobolCheck.Json
