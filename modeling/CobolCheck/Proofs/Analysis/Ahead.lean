import CobolCheck.Proofs.Analysis.Closed
import CobolCheck.Proofs.Source.Role

/-!
# The words ahead

A state sees no more than the words ahead of it. Tests are answered by these words
alone, so where the words of a text are known, so are all answers.
-/

namespace CobolCheck

namespace Grammar

/-- The text at an offset in a list of words, which the end of the input follows. -/
def textAt (words : List String) (offset : Nat) : String :=
  words[offset]?.getD "EOF"

/-- The role of the word at an offset in a list of words. -/
def roleAt (words : List String) (offset : Nat) : Category × Context :=
  (words[offset]?.bind Source.role?).getD (.eof, .plain)

@[simp]
theorem textAt_cons_zero (word : String) (words : List String) :
    textAt (word :: words) 0 = word :=
  rfl

@[simp]
theorem textAt_cons_succ (word : String) (words : List String) (offset : Nat) :
    textAt (word :: words) (offset + 1) = textAt words offset :=
  rfl

@[simp]
theorem roleAt_cons_succ (word : String) (words : List String) (offset : Nat) :
    roleAt (word :: words) (offset + 1) = roleAt words offset :=
  rfl

theorem roleAt_cons_zero {word : String} {role : Category × Context}
    (role_eq : Source.role? word = some role) (words : List String) :
    roleAt (word :: words) 0 = role := by
  simp [roleAt, role_eq]

end Grammar

open Grammar

/-- The answer to a test where the words ahead are known. -/
def Test.on (words : List String) : Test → Bool
  | word offset asked => asked.contains (textAt words offset)
  | category offset categories => categories.contains (roleAt words offset).1
  | .context expected => (roleAt words 0).2 == expected
  | endMarker => Word.isEndMarker (textAt words 0)
  | subordinate =>
      (roleAt words 0).1 == .numeric && Level.isSubordinate (textAt words 0)
  | not test => !test.on words
  | and first second => first.on words && second.on words
  | or first second => first.on words || second.on words

namespace State

/-- The tokens ahead are those of some words, and the end of the input follows. -/
structure Ahead (state : State) (words : List String) : Prop where
  exists_tokens : ∃ front line column,
    state.ahead = front ++ [Token.endOfInput line column] ∧ front.map Token.value = words ∧
      ∀ token ∈ front, token.Spelled
  sentinel : Landmark.endOfInput.Marks state.sentinel

variable {state before middle after : State} {words : List String}

theorem Ahead.lookahead (ahead : state.Ahead words) (offset : Nat) :
    (state.lookahead offset).value = textAt words offset ∧
      ((state.lookahead offset).category, (state.lookahead offset).context) =
        roleAt words offset := by
  obtain ⟨⟨front, line, column, ahead_eq, rfl, spelled⟩, sentinel⟩ := ahead
  rw [State.lookahead, ahead_eq, textAt, roleAt, List.getElem?_map]
  rcases Nat.lt_trichotomy offset front.length with inside | rfl | beyond
  · rw [List.getElem?_append_left inside, List.getElem?_eq_getElem inside]
    have role := spelled _ (List.getElem_mem inside)
    rw [Token.Spelled] at role
    simp [role]
  · simp [Token.endOfInput]
  · have none_front : front[offset]? = none := List.getElem?_eq_none (by omega)
    have none_all : (front ++ [Token.endOfInput line column])[offset]? = none :=
      List.getElem?_eq_none (by simp; omega)
    obtain ⟨value_eq, category_eq, context_eq⟩ := sentinel
    rw [none_front, none_all]
    simp [value_eq, category_eq, context_eq, Landmark.endOfInput]

theorem Ahead.current_value (ahead : state.Ahead words) : state.current.value = textAt words 0 :=
  (ahead.lookahead 0).1

/-- A test is answered by the words ahead. -/
theorem Ahead.holds_eq (ahead : state.Ahead words) (test : Test) :
    test.holds state = test.on words := by
  have role (offset : Nat) := Prod.mk.injEq .. ▸ (ahead.lookahead offset).2
  induction test with
  | word offset asked => simp only [Test.holds, Test.on, (ahead.lookahead offset).1]
  | category offset categories =>
      simp only [Test.holds, Test.on, ← (ahead.lookahead offset).2]
  | context expected => simp only [Test.holds, Test.on, State.current, ← (ahead.lookahead 0).2]
  | endMarker => simp only [Test.holds, Test.on, ahead.current_value]
  | subordinate =>
      simp only [Test.holds, Test.on, ahead.current_value]
      rw [← (ahead.lookahead 0).2]
      rfl
  | not test ih => simp only [Test.holds_not, Test.on, ih]
  | and _ _ ihFirst ihSecond => simp only [Test.holds_and, Test.on, ihFirst, ihSecond]
  | or _ _ ihFirst ihSecond => simp only [Test.holds_or, Test.on, ihFirst, ihSecond]

/-- What is declared by what has been read: the unit and the symbol table. -/
def declared (state : State) : SourceUnit × SymbolTable :=
  (state.unit, state.table)

/-- A number of tokens have been accepted as they are, and nothing was reported. -/
structure Passed (count : Nat) (before after : State) : Prop where
  ahead_eq : after.ahead = before.ahead.drop count
  output_eq : after.output = (before.ahead.take count).reverse ++ before.output
  reports_eq : after.reports = before.reports
  sentinel_eq : after.sentinel = before.sentinel

theorem Passed.refl (state : State) : Passed 0 state state :=
  ⟨rfl, rfl, rfl, rfl⟩

theorem Passed.trans {first second : Nat} (early : Passed first before middle)
    (late : Passed second middle after) : Passed (first + second) before after where
  ahead_eq := by rw [late.ahead_eq, early.ahead_eq, List.drop_drop]
  output_eq := by
    rw [late.output_eq, early.output_eq, early.ahead_eq, List.take_add, List.reverse_append,
      List.append_assoc]
  reports_eq := late.reports_eq.trans early.reports_eq
  sentinel_eq := late.sentinel_eq.trans early.sentinel_eq

/-- What is declared changes nothing about the words. -/
theorem passed_declared (state : State) (unit : SourceUnit) (table : SymbolTable) :
    Passed 0 state { state with unit := unit, table := table } :=
  ⟨rfl, rfl, rfl, rfl⟩

/-- The words that were not accepted are still ahead. -/
theorem Ahead.of_passed {read rest : List String} (ahead : before.Ahead (read ++ rest))
    (passed : Passed read.length before after) : after.Ahead rest := by
  obtain ⟨⟨front, line, column, ahead_eq, values_eq, spelled⟩, sentinel⟩ := ahead
  have long : read.length ≤ front.length := by
    have lengths := congrArg List.length values_eq
    rw [List.length_map, List.length_append] at lengths
    omega
  refine ⟨⟨front.drop read.length, line, column, ?_, ?_, ?_⟩, ?_⟩
  · rw [passed.ahead_eq, ahead_eq, List.drop_append_of_le_length long]
  · rw [List.map_drop, values_eq, List.drop_left]
  · exact fun token member => spelled token (List.mem_of_mem_drop member)
  · rw [passed.sentinel_eq]
    exact sentinel

end State

namespace Analysis

variable {word : String} {rest : List String}

/-! ## Tests on one word -/

theorem on_is (word : String) (rest : List String) : (Test.is word).on (word :: rest) = true := by
  simp [Test.is, Test.on]

theorem on_is_eq_false (differs : textAt rest 0 ≠ word) : (Test.is word).on rest = false := by
  simpa [Test.is, Test.on] using differs

theorem on_has {categories : List Category} (operand : IsOperand categories word)
    (rest : List String) : (Test.has categories).on (word :: rest) = true := by
  obtain ⟨category, listed, role⟩ := operand
  simpa [Test.has, Test.on, roleAt_cons_zero role] using listed

end Analysis

namespace Grammar

/-! ## First words -/

/-- The first of the words is one of some choices. -/
def Begins (choices words : List String) : Prop :=
  ∃ word ∈ choices, ∃ more, words = word :: more

variable {choices others words more : List String} {word : String}

theorem begins_cons (listed : word ∈ choices) (more : List String) :
    Begins choices (word :: more) :=
  ⟨word, listed, more, rfl⟩

namespace Begins

theorem mono (begins : Begins choices words) (wider : ∀ word ∈ choices, word ∈ others) :
    Begins others words := by
  obtain ⟨word, listed, more, rfl⟩ := begins
  exact begins_cons (wider word listed) more

theorem append (begins : Begins choices words) (more : List String) :
    Begins choices (words ++ more) := by
  obtain ⟨word, listed, rest, rfl⟩ := begins
  exact begins_cons listed (rest ++ more)

/-- Words that may be left out begin as themselves or as what follows. -/
theorem optional (first : words = [] ∨ Begins choices words) (second : Begins others more) :
    Begins (choices ++ others) (words ++ more) := by
  rcases first with rfl | begins
  · exact second.mono fun word listed => List.mem_append_right _ listed
  · exact (begins.mono fun word listed => List.mem_append_left _ listed).append more

theorem textAt_notMem (begins : Begins choices words) {asked : List String}
    (disjoint : ∀ word ∈ asked, word ∉ choices) : textAt words 0 ∉ asked := by
  obtain ⟨word, listed, more, rfl⟩ := begins
  intro member
  exact disjoint word member listed

theorem textAt_ne (begins : Begins choices words) (other : word ∉ choices) :
    textAt words 0 ≠ word := by
  have differs := begins.textAt_notMem (List.forall_mem_singleton.mpr other)
  rwa [List.mem_singleton] at differs

theorem on_isAny_eq_false (begins : Begins choices words) {asked : List String}
    (disjoint : ∀ word ∈ asked, word ∉ choices) : (Test.isAny asked).on words = false := by
  have differs := begins.textAt_notMem disjoint
  simpa [Test.isAny, Test.on] using differs

theorem on_is_eq_false (begins : Begins choices words) (other : word ∉ choices) :
    (Test.is word).on words = false :=
  Analysis.on_is_eq_false (begins.textAt_ne other)

/-- No operand stands at a word of the grammar. -/
theorem on_has_eq_false (begins : Begins choices words)
    (known : ∀ word ∈ choices, word ∈ vocabulary) {categories : List Category}
    (within : ∀ category ∈ categories, category ∈ operandCategories) :
    (Test.has categories).on words = false := by
  obtain ⟨word, listed, more, rfl⟩ := begins
  obtain ⟨category, context, role, plain⟩ := exists_role?_vocabulary (known word listed)
  have other : category ∉ categories := fun member => plain (within category member)
  simpa [Test.has, Test.on, roleAt_cons_zero role] using other

end Begins

end Grammar

end CobolCheck
