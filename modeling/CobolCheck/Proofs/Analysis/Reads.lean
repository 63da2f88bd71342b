import CobolCheck.Proofs.Analysis.Ahead

/-!
# Reading given words

When the words ahead are known, what an analysis does is known as well. `Reads`
says that an analysis accepts some words before others and reports nothing, with
one rule for each way to put analyses together.
-/

namespace CobolCheck

open Grammar

namespace Analysis

/-! ## Reading -/

/-- An analysis accepts the words `read` before the words `rest` and reports
nothing, from what is declared before it to what `ends` says of its value and of
what is declared after it. -/
def Reads {α : Type} (start : SourceUnit × SymbolTable) (analysis : Analysis α)
    (read rest : List String) (ends : α → SourceUnit × SymbolTable → Prop) : Prop :=
  ∀ state : State, state.Ahead (read ++ rest) → state.declared = start →
    ends (analysis state).1 (analysis state).2.declared ∧
      State.Passed read.length state (analysis state).2

/-- An analysis accepts some words before others and declares nothing. -/
def Accepts {α : Type} (start : SourceUnit × SymbolTable) (analysis : Analysis α)
    (read rest : List String) : Prop :=
  Reads start analysis read rest fun _ declared => declared = start

variable {α β : Type} {start : SourceUnit × SymbolTable}
  {word : String} {read first second rest : List String} {test : Test}

namespace Reads

variable {ends other : α → SourceUnit × SymbolTable → Prop}
  {last : β → SourceUnit × SymbolTable → Prop}

theorem mono {analysis : Analysis α} (reads : Reads start analysis read rest ends)
    (wider : ∀ value declared, ends value declared → other value declared) :
    Reads start analysis read rest other := by
  intro state ahead begun
  obtain ⟨holds, passed⟩ := reads state ahead begun
  exact ⟨wider _ _ holds, passed⟩

theorem pure {value : α} (holds : ends value start) :
    Reads start (Pure.pure value) [] rest ends := by
  rintro state - rfl
  exact ⟨holds, .refl state⟩

theorem bind {analysis : Analysis α} {next : α → Analysis β}
    (early : Reads start analysis first (second ++ rest) ends)
    (late : ∀ value middle, ends value middle → Reads middle (next value) second rest last) :
    Reads start (analysis >>= next) (first ++ second) rest last := by
  intro state ahead begun
  rw [List.append_assoc] at ahead
  obtain ⟨between, passed⟩ := early state ahead begun
  obtain ⟨holds, further⟩ := late _ _ between _ (ahead.of_passed passed) rfl
  rw [run_bind, List.length_append]
  exact ⟨holds, passed.trans further⟩

/-- What follows an analysis may only look ahead. -/
theorem bind_nil {analysis : Analysis α} {next : α → Analysis β}
    (early : Reads start analysis read rest ends)
    (late : ∀ value middle, ends value middle → Reads middle (next value) [] rest last) :
    Reads start (analysis >>= next) read rest last := by
  rw [← List.append_nil read]
  exact bind early late

theorem discard_bind {analysis : Analysis β} {next : Unit → Analysis α}
    (reads : Reads start (analysis >>= fun _ => next ()) read rest ends) :
    Reads start (Functor.discard analysis >>= next) read rest ends :=
  reads

/-! ### Looking ahead -/

/-- The words ahead answer a question. -/
theorem ask_bind {next : Bool → Analysis α}
    (reads : Reads start (next (test.on (read ++ rest))) read rest ends) :
    Reads start (ask test >>= next) read rest ends := by
  intro state ahead begun
  rw [run_bind, run_ask, ahead.holds_eq test]
  exact reads state ahead begun

theorem held {yes no : Analysis α} (answer : test.on (read ++ rest) = true)
    (reads : Reads start yes read rest ends) :
    Reads start (do if ← ask test then yes else no) read rest ends := by
  apply ask_bind
  rw [answer, if_pos rfl]
  exact reads

theorem refused {yes no : Analysis α} (answer : test.on (read ++ rest) = false)
    (reads : Reads start no read rest ends) :
    Reads start (do if ← ask test then yes else no) read rest ends := by
  apply ask_bind
  rw [answer, if_neg Bool.false_ne_true]
  exact reads

theorem word_bind {next : String → Analysis α}
    (reads : Reads start (next (textAt (read ++ rest) 0)) read rest ends) :
    Reads start (Analysis.word >>= next) read rest ends := by
  intro state ahead begun
  have found : Analysis.word state = (textAt (read ++ rest) 0, state) := by
    rw [← (ahead.lookahead 0).1]
    rfl
  rw [run_bind, found]
  exact reads state ahead begun

theorem current_bind {next : Token → Analysis α}
    (reads : ∀ token : Token, token.value = textAt (read ++ rest) 0 →
      (token.category, token.context) = roleAt (read ++ rest) 0 →
      Reads start (next token) read rest ends) :
    Reads start (current >>= next) read rest ends := by
  intro state ahead begun
  exact reads state.current (ahead.lookahead 0).1 (ahead.lookahead 0).2 state ahead begun

/-- The token at the cursor has the text and the category of the word ahead. -/
theorem token_bind {next : Token → Analysis α} {category : Category} {context : Context}
    (role : Source.role? word = some (category, context))
    (reads : ∀ token : Token, token.value = word → token.category = category →
      Reads start (next token) (word :: read) rest ends) :
    Reads start (current >>= next) (word :: read) rest ends := by
  apply current_bind
  intro token value_eq role_eq
  rw [List.cons_append, roleAt_cons_zero role, Prod.mk.injEq] at role_eq
  exact reads token value_eq role_eq.1

end Reads

namespace Accepts

variable {ends : β → SourceUnit × SymbolTable → Prop}

/-- What was declared stays declared while words are accepted. -/
theorem bind {analysis : Analysis α} {next : α → Analysis β}
    (early : Accepts start analysis first (second ++ rest))
    (late : ∀ value, Reads start (next value) second rest ends) :
    Reads start (analysis >>= next) (first ++ second) rest ends := by
  apply Reads.bind early
  rintro value _ rfl
  exact late value

theorem discard {analysis : Analysis α} (accepts : Accepts start analysis read rest) :
    Accepts start (discard analysis) read rest := by
  intro state ahead begun
  exact accepts state ahead begun

theorem pure (value : α) : Accepts start (Pure.pure value) [] rest :=
  Reads.pure rfl

end Accepts

/-! ## Matchers -/

theorem accepts_accept (word : String) (rest : List String) :
    Accepts start accept [word] rest := by
  rintro state ⟨⟨front, line, column, ahead_eq, values_eq, -⟩, -⟩ begun
  cases front with
  | nil => cases values_eq
  | cons token front =>
      rw [List.cons_append] at ahead_eq
      have accepted : (accept state).2 = (state.emit token).skip := by
        change (state.emit state.current).skip = _
        rw [State.current_of_ahead_cons ahead_eq]
      have next : (state.emit token).ahead = token :: (front ++ [.endOfInput line column]) :=
        ahead_eq
      rw [accepted, State.skip_of_ahead_cons next]
      refine ⟨begun, ?_⟩
      constructor
      · rw [ahead_eq]
        rfl
      · rw [ahead_eq]
        rfl
      · rfl
      · rfl

theorem Reads.accept_bind {next : Unit → Analysis α} {ends : α → SourceUnit × SymbolTable → Prop}
    (reads : Reads start (next ()) read rest ends) :
    Reads start (accept >>= next) (word :: read) rest ends :=
  (accepts_accept word (read ++ rest)).bind fun _ => reads

/-- The word of a test on it is accepted. -/
theorem reads_acceptIf (cause : Cause) (answer : test.on (word :: rest) = true) :
    Reads start (acceptIf test cause) [word] rest
      fun accepted declared => accepted = true ∧ declared = start := by
  apply Reads.held answer
  exact .accept_bind (.pure ⟨rfl, rfl⟩)

theorem accepts_acceptIf (cause : Cause) (answer : test.on (word :: rest) = true) :
    Accepts start (acceptIf test cause) [word] rest :=
  (reads_acceptIf cause answer).mono fun _ _ ends => ends.2

theorem accepts_expect (word : String) (rest : List String) :
    Accepts start (expect word) [word] rest :=
  (accepts_acceptIf _ (on_is word rest)).discard

theorem accepts_expectOr (word : String) (problem : Problem) (rest : List String) :
    Accepts start (expectOr word problem) [word] rest :=
  Reads.held (on_is word rest) (accepts_accept word rest)

theorem reads_optional (word : String) (rest : List String) :
    Reads start (optional word) [word] rest
      fun present declared => present = true ∧ declared = start := by
  apply Reads.held (on_is word rest)
  exact .accept_bind (.pure ⟨rfl, rfl⟩)

theorem reads_optional_absent (differs : textAt rest 0 ≠ word) :
    Reads start (optional word) [] rest
      fun present declared => present = false ∧ declared = start :=
  Reads.refused (on_is_eq_false differs) (.pure ⟨rfl, rfl⟩)

/-- Words that are listed are accepted as they are. -/
theorem accepts_choose {literals : List String} (listed : word ∈ literals) (rest : List String) :
    Accepts start (choose literals none) [word] rest := by
  apply Reads.held _ (accepts_accept word rest)
  simpa [Test.isAny, Test.on] using listed

theorem accepts_operand {categories : List Category} (description : String)
    (operand : IsOperand categories word) (rest : List String) :
    Accepts start (Analysis.operand categories description) [word] rest :=
  accepts_acceptIf _ (on_has operand rest)

/-! ### One word and then the rest -/

namespace Reads

variable {ends : α → SourceUnit × SymbolTable → Prop}

theorem expect_bind {next : Unit → Analysis α} (reads : Reads start (next ()) read rest ends) :
    Reads start (expect word >>= next) (word :: read) rest ends :=
  (accepts_expect word (read ++ rest)).bind fun _ => reads

theorem optional_bind {next : Bool → Analysis α}
    (reads : Reads start (next true) read rest ends) :
    Reads start (optional word >>= next) (word :: read) rest ends := by
  apply bind (reads_optional word (read ++ rest))
  rintro _ _ ⟨rfl, rfl⟩
  exact reads

theorem absent_bind {next : Bool → Analysis α} (differs : textAt (read ++ rest) 0 ≠ word)
    (reads : Reads start (next false) read rest ends) :
    Reads start (optional word >>= next) read rest ends := by
  rw [← List.nil_append read]
  apply bind (reads_optional_absent differs)
  rintro _ _ ⟨rfl, rfl⟩
  exact reads

theorem operand_bind {categories : List Category} {description : String} {next : Bool → Analysis α}
    (operand : IsOperand categories word) (reads : Reads start (next true) read rest ends) :
    Reads start (Analysis.operand categories description >>= next) (word :: read) rest ends := by
  apply bind (reads_acceptIf _ (on_has operand (read ++ rest)))
  rintro _ _ ⟨rfl, rfl⟩
  exact reads

end Reads

/-! ## Loops -/

section Loops

variable {body : α → Analysis (Option α)} {value next : α}
  {ends : α → SourceUnit × SymbolTable → Prop}

/-- A loop ends with the first round that asks for no other. -/
theorem Reads.loop_none
    (round : Reads start (body value) read rest
      fun answer declared => answer = none ∧ ends value declared) :
    Reads start (loop body value) read rest ends := by
  intro state ahead begun
  obtain ⟨⟨answer, holds⟩, passed⟩ := round state ahead begun
  rw [loop_eq]
  generalize body value state = result at answer holds passed
  obtain ⟨result, after⟩ := result
  obtain rfl : result = none := answer
  exact ⟨holds, passed⟩

/-- Words that were accepted are no longer ahead. -/
theorem remaining_lt_of_passed {before after : State} (nonempty : first ≠ [])
    (ahead : before.Ahead (first ++ rest)) (passed : State.Passed first.length before after) :
    remaining after < remaining before := by
  obtain ⟨⟨front, line, column, ahead_eq, values_eq, -⟩, -⟩ := ahead
  have positive := List.length_pos_iff.mpr nonempty
  simp only [remaining, passed.ahead_eq, List.length_drop, ahead_eq, List.length_append,
    List.length_singleton]
  omega

/-- A round that accepts some words is followed by the other rounds. -/
theorem Reads.loop_some (between : α → SourceUnit × SymbolTable → Prop) (nonempty : first ≠ [])
    (round : Reads start (body value) first (second ++ rest)
      fun answer declared => ∃ next, answer = some next ∧ between next declared)
    (further : ∀ next middle, between next middle →
      Reads middle (loop body next) second rest ends) :
    Reads start (loop body value) (first ++ second) rest ends := by
  intro state ahead begun
  rw [List.append_assoc] at ahead
  obtain ⟨⟨next, answer, between⟩, passed⟩ := round state ahead begun
  rw [loop_eq]
  generalize body value state = result at answer between passed
  obtain ⟨result, after⟩ := result
  obtain rfl : result = some next := answer
  change State.Passed _ state after at passed
  have fewer := remaining_lt_of_passed nonempty ahead passed
  obtain ⟨holds, later⟩ := further _ _ between _ (ahead.of_passed passed) rfl
  simp only [fewer, if_true, List.length_append]
  exact ⟨holds, passed.trans later⟩

end Loops

theorem accepts_whilst_nil (body : Analysis Unit) (answer : test.on rest = false) :
    Accepts start (whilst test body) [] rest := by
  intro state ahead begun
  have failed : test.holds state = false := (ahead.holds_eq test).trans answer
  rw [whilst_eq, failed, if_neg Bool.false_ne_true]
  exact ⟨begun, .refl state⟩

/-- A loop under a test accepts some words in its first round and goes on. -/
theorem Reads.whilst_cons {body : Analysis Unit} {between : SourceUnit × SymbolTable → Prop}
    {ends : Unit → SourceUnit × SymbolTable → Prop} (nonempty : first ≠ [])
    (answer : test.on (first ++ (second ++ rest)) = true)
    (round : Reads start body first (second ++ rest) fun _ declared => between declared)
    (further : ∀ middle, between middle → Reads middle (whilst test body) second rest ends) :
    Reads start (whilst test body) (first ++ second) rest ends := by
  apply Reads.loop_some (fun _ declared => between declared) nonempty
  · intro state ahead begun
    have holds : test.holds state = true := (ahead.holds_eq test).trans answer
    obtain ⟨kept, passed⟩ := round state ahead begun
    simp only [holds, if_true]
    exact ⟨⟨(), trivial, kept⟩, passed⟩
  · rintro ⟨⟩ middle kept
    exact further middle kept

theorem Accepts.whilst_cons {body : Analysis Unit} (nonempty : first ≠ [])
    (answer : test.on (first ++ (second ++ rest)) = true)
    (round : Accepts start body first (second ++ rest))
    (further : Accepts start (whilst test body) second rest) :
    Accepts start (whilst test body) (first ++ second) rest := by
  apply Reads.whilst_cons nonempty answer round
  rintro _ rfl
  exact further

end Analysis

end CobolCheck
