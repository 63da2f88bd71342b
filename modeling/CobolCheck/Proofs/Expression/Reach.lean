import CobolCheck.Expression.Arithmetic
import CobolCheck.Expression.Condition
import CobolCheck.Proofs.Analysis.Closed

/-!
# How far expressions reach

A condition goes on to a word that cannot belong to it, and an arithmetic
expression to a token that cannot continue it. What they accept up to there is
no landmark, as long as the landmark is one at which they stop. A term of a
condition may take up several words, all but the first of which are connectives.
-/

namespace CobolCheck

/-! ## The words of a term -/

/-- The words that may follow the first word of a relational operator. -/
def relationWords : List String :=
  ["=", "<", ">", "<=", ">=", "<>", "EQUAL", "GREATER", "LESS", "THAN", "OR", "TO"]

/-- The words that may follow the first word of a term of several words. -/
def connectives : List String :=
  relationWords ++
    ["NUMERIC", "ALPHABETIC", "ALPHABETIC-LOWER", "ALPHABETIC-UPPER", "POSITIVE", "NEGATIVE",
     "ZERO", "ZEROS", "ZEROES"]

theorem mem_connectives_of_isClassWord {word : String} (classWord : Role.isClassWord word = true) :
    word ∈ connectives := by
  unfold Role.isClassWord at classWord
  exact List.mem_append_right _ (List.contains_iff_mem.mp classWord)

/-- A word that may be left out takes up one place or none. -/
theorem exists_append_of_head? (word : String) (known : word ∈ relationWords)
    (rest : List String) :
    ∃ front, rest = front ++ rest.drop (if rest.head? = some word then 1 else 0) ∧
      front.length = (if rest.head? = some word then 1 else 0) ∧
      ∀ other ∈ front, other ∈ relationWords := by
  cases rest with
  | nil => exact ⟨[], by simp⟩
  | cons first rest =>
      split
      · next found =>
        obtain rfl : first = word := by simpa using found
        refine ⟨[first], rfl, rfl, ?_⟩
        simpa using known
      · exact ⟨[], by simp⟩

/-- A relational operator is made of the words at whose beginning it is found. -/
theorem exists_append_of_relation?_eq_some {words : List String} {operator : String}
    {count : Nat} (found : relation? words = some (operator, count)) :
    ∃ front rest, words = front ++ rest ∧ front.length = count ∧
      ∀ word ∈ front, word ∈ relationWords := by
  unfold relation? at found
  split at found
  · simp at found
  · next word rest =>
    split at found
    · next comparison =>
      simp only [Option.some.injEq, Prod.mk.injEq] at found
      refine ⟨[word], rest, rfl, found.2, ?_⟩
      rw [List.forall_mem_singleton]
      exact List.mem_append_left _ (List.contains_iff_mem.mp comparison)
    · split at found
      · next equal =>
        simp only [Option.some.injEq, Prod.mk.injEq] at found
        obtain ⟨latter, rest_eq, latter_length, latter_known⟩ :=
          exists_append_of_head? "TO" (by decide) rest
        refine ⟨word :: latter, _, congrArg (word :: ·) rest_eq, ?_, ?_⟩
        · rw [List.length_cons, latter_length, ← found.2]
          split <;> rfl
        · rw [List.forall_mem_cons, equal]
          exact ⟨by decide, latter_known⟩
      · split at found
        · next ordering =>
          have word_known : word ∈ relationWords := by
            rcases ordering with rfl | rfl <;> decide
          obtain ⟨than, rest_eq, than_length, than_known⟩ :=
            exists_append_of_head? "THAN" (by decide) rest
          simp only at found
          split at found
          · next tail tail_eq =>
            simp only [Option.some.injEq, Prod.mk.injEq] at found
            obtain ⟨latter, tail_split, latter_length, latter_known⟩ :=
              exists_append_of_head? "TO" (by decide) tail
            refine ⟨word :: than ++ "OR" :: "EQUAL" :: latter,
              tail.drop (if tail.head? = some "TO" then 1 else 0), ?_, ?_, ?_⟩
            · rw [tail_eq] at rest_eq
              simp only [List.cons_append, List.append_assoc]
              rw [← tail_split, ← rest_eq]
            · rw [← found.2]
              simp only [List.length_append, List.length_cons, than_length, latter_length]
              split <;> split <;> rfl
            · rw [List.forall_mem_append, List.forall_mem_cons, List.forall_mem_cons,
                List.forall_mem_cons]
              exact ⟨⟨word_known, than_known⟩, by decide, by decide, latter_known⟩
          · simp only [Option.some.injEq, Prod.mk.injEq] at found
            refine ⟨word :: than, _, congrArg (word :: ·) rest_eq, ?_, ?_⟩
            · rw [List.length_cons, than_length, ← found.2]
            · rw [List.forall_mem_cons]
              exact ⟨word_known, than_known⟩
        · simp at found

/-- The words that a term takes up after its first are connectives that follow it. -/
theorem Reading.exists_append_ofWords (afterOperand : Bool) (word : String)
    (following : List String) :
    ∃ front rest, following = front ++ rest ∧
      (ofWords afterOperand word following).count = front.length + 1 ∧
      ∀ other ∈ front, other ∈ connectives := by
  have alone : ∃ front rest, following = front ++ rest ∧ 1 = front.length + 1 ∧
      ∀ other ∈ front, other ∈ connectives := ⟨[], following, by simp⟩
  unfold ofWords
  split
  · exact alone
  split
  · split
    · next found =>
      obtain ⟨front, rest, split_eq, length_eq, known⟩ := exists_append_of_relation?_eq_some found
      exact ⟨front, rest, split_eq, congrArg (· + 1) length_eq.symm,
        fun other member => List.mem_append_left _ (known other member)⟩
    · cases following with
      | nil => exact alone
      | cons next rest =>
          simp only [List.head?_cons]
          split
          · next classWord =>
            rw [Bool.and_eq_true] at classWord
            refine ⟨[next], rest, rfl, rfl, ?_⟩
            rw [List.forall_mem_singleton]
            exact mem_connectives_of_isClassWord classWord.2
          · exact alone
  · split
    · next found =>
      obtain ⟨front, rest, split_eq, length_eq, known⟩ := exists_append_of_relation?_eq_some found
      cases front with
      | nil =>
          have positive := one_le_of_relation?_eq_some found
          simp only [List.length_nil] at length_eq
          omega
      | cons first front =>
          simp only [List.cons_append, List.cons.injEq] at split_eq
          rw [List.forall_mem_cons] at known
          exact ⟨front, rest, split_eq.2, length_eq.symm,
            fun other member => List.mem_append_left _ (known.2 other member)⟩
    · exact alone

/-- No relational operator goes up to a word that cannot belong to it. An operator takes up
five words at most, and the second one may be left out. -/
theorem relation?_append {stop : String} (other : stop ∉ relationWords)
    (front rest : List String) : relation? (front ++ stop :: rest) = relation? front := by
  simp only [relationWords, List.mem_cons, not_or] at other
  match front with
  | [] => simp [relation?, other]
  | [word] => simp [relation?, other]
  | [word, second] =>
      by_cases than : second = "THAN"
      · simp [relation?, other, than]
      · simp [relation?, other, than]
  | word :: second :: third :: front =>
      by_cases than : second = "THAN"
      · cases front with
        | nil => simp [relation?, other, than]
        | cons fourth front => cases front <;> simp [relation?, than] <;> grind
      · cases front <;> simp [relation?, than] <;> grind

theorem relation?_append_stop {stop : String} (other : stop ∉ relationWords)
    (front rest : List String) :
    relation? (front ++ stop :: rest) = relation? (front ++ [stop]) := by
  rw [relation?_append other, relation?_append other]

theorem Reading.ofWords_append_stop {stop : String} (other : stop ∉ relationWords)
    (afterOperand : Bool) (word : String) (front rest : List String) :
    ofWords afterOperand word (front ++ stop :: rest) =
      ofWords afterOperand word (front ++ [stop]) := by
  have first : (front ++ stop :: rest).head? = (front ++ [stop]).head? := by
    cases front <;> rfl
  have whole := relation?_append_stop other (word :: front) rest
  rw [List.cons_append, List.cons_append] at whole
  unfold ofWords
  rw [relation?_append_stop other, first, whole]

/-- What is read of a number of words does not depend on those after a word that
cannot belong to a relational operator. -/
theorem Reading.ofWords_take_append_stop {stop : String} (other : stop ∉ relationWords)
    (afterOperand : Bool) (word : String) (count : Nat) (front rest : List String) :
    ofWords afterOperand word ((front ++ stop :: rest).take count) =
      ofWords afterOperand word ((front ++ [stop]).take count) := by
  rw [List.take_append, List.take_append]
  cases count - front.length with
  | zero => rfl
  | succ room =>
      rw [List.take_succ_cons, List.take_succ_cons, List.take_nil]
      exact ofWords_append_stop other _ _ _ _

/-- A reading does not depend on a word that cannot belong to a term of several words, nor on
what comes after it. -/
theorem Reading.ofWords_append {stop : String} (other : stop ∉ connectives)
    (afterOperand : Bool) (word : String) (front rest : List String) :
    ofWords afterOperand word (front ++ stop :: rest) = ofWords afterOperand word front := by
  have unrelated : stop ∉ relationWords := fun known => other (List.mem_append_left _ known)
  have unclassed : Role.isClassWord stop = false :=
    Bool.eq_false_iff.mpr fun classWord => other (mem_connectives_of_isClassWord classWord)
  have whole := relation?_append unrelated (word :: front) rest
  rw [List.cons_append] at whole
  unfold ofWords
  rw [relation?_append unrelated, whole]
  cases front with
  | nil => simp [relation?, unclassed]
  | cons next front => rfl

theorem Reading.ofWords_take_append {stop : String} (other : stop ∉ connectives)
    (afterOperand : Bool) (word : String) (count : Nat) (front rest : List String) :
    ofWords afterOperand word ((front ++ stop :: rest).take count) =
      ofWords afterOperand word (front.take count) := by
  rw [List.take_append]
  cases count - front.length with
  | zero => rw [List.take_zero, List.append_nil]
  | succ room => exact ofWords_append other _ _ _ _

/-! ## Conditions -/

/-- Whether a condition that `delimiter` closes always ends before a landmark. -/
def Landmark.endsCondition (landmark : Landmark) (delimiter : String) : Bool :=
  ([delimiter, ".", "ELSE", "END-IF"].contains landmark.word || landmark.category == .eof ||
    landmark.context == .statement) && !connectives.contains landmark.word

namespace Guarded

open Analysis

variable {landmark : Landmark} {R : State → State → Prop}

/-- Several tokens may be accepted if no landmark is among them. -/
theorem obeysFrom_acceptMany (guarded : Guarded landmark R) (count : Nat) :
    ObeysFrom (fun state => ∀ offset < count, ¬ landmark.Marks (state.lookahead offset)) R
      (acceptMany count) := by
  induction count with
  | zero => exact fun state _ => guarded.refl state
  | succ count ih =>
      intro state clear
      refine guarded.trans (guarded.obeysFrom_accept state (clear 0 (Nat.succ_pos count))) (ih _ ?_)
      intro offset less
      change ¬ landmark.Marks ((state.emit state.current).skip.lookahead offset)
      rw [State.lookahead_skip, State.lookahead_emit]
      exact clear (offset + 1) (Nat.succ_lt_succ less)

theorem obeysFrom_acceptMany_of_holds (guarded : Guarded landmark R) {test : Test} {count : Nat}
    (avoided : ∀ offset < count, test.avoids landmark offset = true) :
    ObeysFrom (fun state => test.holds state = true) R (acceptMany count) :=
  fun state held => guarded.obeysFrom_acceptMany count state fun offset less =>
    Test.not_marks_of_holds (avoided offset less) held

/-- The words of the next term of a condition, after the first, are connectives. -/
theorem mem_connectives_of_lt_count (state : State) (afterOperand : Bool) {offset : Nat}
    (less : offset + 1 < (reading afterOperand state).1.count) :
    (state.lookahead (offset + 1)).value ∈ connectives := by
  obtain ⟨front, rest, split_eq, count_eq, known⟩ :=
    Reading.exists_append_ofWords afterOperand state.current.value
      (((state.ahead.drop 1).take 5).map Token.value)
  have inside : offset < front.length := by
    simp only [reading] at less
    omega
  have found : (((state.ahead.drop 1).take 5).map Token.value)[offset]? = some front[offset] := by
    rw [split_eq, List.getElem?_append_left inside, List.getElem?_eq_getElem inside]
  rw [List.getElem?_map, Option.map_eq_some_iff] at found
  obtain ⟨token, token_at, value_eq⟩ := found
  rw [List.getElem?_take, List.getElem?_drop, Option.ite_none_right_eq_some] at token_at
  have look : state.lookahead (offset + 1) = token := by
    rw [State.lookahead, Nat.add_comm offset 1, token_at.2, Option.getD_some]
  rw [look, value_eq]
  exact known _ (List.getElem_mem inside)

/-- Where a condition goes on is no landmark that ends it. -/
theorem not_marks_of_not_conditionEnd {delimiter : String}
    (ends : landmark.endsCondition delimiter = true) {state : State}
    (unended : (conditionEnd delimiter).holds state = false) : ¬ landmark.Marks state.current := by
  rw [Landmark.endsCondition, Bool.and_eq_true] at ends
  rintro ⟨value_eq, category_eq, context_eq⟩
  rw [State.current] at value_eq category_eq context_eq
  simp only [conditionEnd, Test.holds_or, Bool.or_eq_false_iff, Test.isAny, Test.eof, Test.has,
    Test.statement, Test.holds, State.current, value_eq, category_eq, context_eq] at unended
  obtain ⟨other, inside, begun, _⟩ := unended
  have either := ends.1
  rw [other, begun, Bool.false_or, Bool.or_false, beq_iff_eq] at either
  simp [either] at inside

theorem obeys_readTerm (guarded : Guarded landmark R) {delimiter : String}
    (ends : landmark.endsCondition delimiter = true) (terms : List Term) :
    Obeys R (readTerm delimiter terms) := by
  refine obeys_ask (fun state _ => guarded.refl state) (fun state unended => ?_)
  apply guarded.obeysFrom_acceptMany _ _
  intro offset less
  cases offset with
  | zero => exact not_marks_of_not_conditionEnd ends unended
  | succ offset =>
      rintro ⟨value_eq, _⟩
      have known := mem_connectives_of_lt_count state _ less
      rw [value_eq] at known
      rw [Landmark.endsCondition, Bool.and_eq_true] at ends
      have unknown := ends.2
      rw [List.contains_iff_mem.mpr known] at unknown
      contradiction

theorem obeys_conditionTerms (guarded : Guarded landmark R) {delimiter : String}
    (ends : landmark.endsCondition delimiter = true) : Obeys R (conditionTerms delimiter) :=
  guarded.obeys_bind (guarded.obeys_loop (guarded.obeys_readTerm ends) []) fun _ =>
    guarded.obeys_pure _

theorem obeys_judgeCondition (guarded : Guarded landmark R) (first : Token) (terms : List Term) :
    Obeys R (judgeCondition first terms) := by
  refine obeys_ite _ (guarded.obeys_reportHere _) ?_
  cases Term.fault? (Term.postorder terms) with
  | none =>
      have fine := guarded.obeys_pure ()
      exact obeys_ite _ (guarded.obeys_bind (guarded.obeys_report _ _) fun _ => fine) fine
  | some token =>
      have faulty := guarded.obeys_report token (.general .invalidCondition)
      exact obeys_ite _ (guarded.obeys_bind (guarded.obeys_report _ _) fun _ => faulty) faulty

theorem obeys_condition (guarded : Guarded landmark R) {delimiter : String}
    (ends : landmark.endsCondition delimiter = true) : Obeys R (condition delimiter) :=
  guarded.obeys_bind (guarded.obeys_look fun _ => rfl) fun first =>
    guarded.obeys_bind (guarded.obeys_conditionTerms ends) fun terms =>
      guarded.obeys_judgeCondition first terms

/-! ## Arithmetic expressions -/

end Guarded

/-- Whether an arithmetic expression always ends before a landmark. -/
def Landmark.endsArithmetic (landmark : Landmark) : Bool :=
  !([Category.identifier, .numeric].contains landmark.category) &&
    (landmark.category != .symbol ||
      !(["(", ")", "+", "-", "*", "/", "**"].contains landmark.word))

namespace Guarded

open Analysis

variable {landmark : Landmark} {R : State → State → Prop}

theorem obeys_complain (guarded : Guarded landmark R) (token : Token) (problem : Problem)
    (scan : ArithmeticScan) : Obeys R (complain token problem scan) :=
  guarded.obeys_bind (guarded.obeys_report _ _) fun _ => guarded.obeys_pure _

theorem obeys_complainOfTrailing (guarded : Guarded landmark R) (scan : ArithmeticScan) :
    Obeys R (complainOfTrailing scan) := by
  unfold complainOfTrailing
  split
  · exact guarded.obeys_complain _ _ _
  · exact guarded.obeys_pure _

/-- A complaint does not move the cursor. -/
theorem current_complainOfTrailing (scan : ArithmeticScan) (state : State) :
    (complainOfTrailing scan state).2.current = state.current := by
  unfold complainOfTrailing
  generalize scan.preceding = preceding
  match preceding with
  | .operator (some token) => rfl
  | .operator none | .start | .operand | .opening | .closing => rfl

/-- The token at the cursor may still be accepted after a complaint. -/
theorem obeysFrom_complaint (guarded : Guarded landmark R) {α β : Type} {complaint : Analysis α}
    (obeyed : Obeys R complaint)
    (still : ∀ state, (complaint state).2.current = state.current) (result : α → β) :
    ObeysFrom (fun state => ¬ landmark.Marks state.current) R
      (complaint >>= fun value => accept >>= fun _ => pure (result value)) := by
  intro state clear
  rw [← still] at clear
  exact guarded.trans (obeyed state) (guarded.obeysFrom_accept _ clear)

theorem obeysFrom_closeParenthesis (guarded : Guarded landmark R) (token : Token)
    (scan : ArithmeticScan) :
    ObeysFrom (fun state => ¬ landmark.Marks state.current) R (closeParenthesis token scan) := by
  unfold closeParenthesis
  dsimp only
  split
  · exact guarded.obeysFrom_complaint (guarded.obeys_complain _ _ _) (fun _ => rfl) _
  · exact guarded.obeysFrom_complaint (guarded.obeys_complainOfTrailing _)
      (current_complainOfTrailing _) _

theorem obeysFrom_readOperator (guarded : Guarded landmark R) (token : Token)
    (scan : ArithmeticScan) :
    ObeysFrom (fun state => ¬ landmark.Marks state.current) R (readOperator token scan) := by
  have complained (problem : Problem) (result : ArithmeticScan → ArithmeticScan) :=
    guarded.obeysFrom_complaint (guarded.obeys_complain token problem scan) (fun _ => rfl) result
  have silent (result : ArithmeticScan → ArithmeticScan) :=
    guarded.obeysFrom_complaint (guarded.obeys_pure scan) (fun _ => rfl) result
  unfold readOperator
  dsimp only
  split
  · exact complained _ _
  · split
    · exact complained _ _
    · exact silent _
  · split
    · exact complained _ _
    · exact silent _
  · exact silent _

theorem obeys_readArithmetic (guarded : Guarded landmark R) (ends : landmark.endsArithmetic = true)
    (scan : ArithmeticScan) : Obeys R (readArithmetic scan) := by
  rw [Landmark.endsArithmetic, Bool.and_eq_true] at ends
  have clear_of_category {token : Token}
      (operand : token.category ∈ [Category.identifier, .numeric]) : ¬ landmark.Marks token := by
    rintro ⟨_, category_eq, _⟩
    have other := ends.1
    rw [← category_eq, List.contains_iff_mem.mpr operand] at other
    contradiction
  have clear_of_word {token : Token} (symbol : token.category = .symbol)
      (word : token.value ∈ ["(", ")", "+", "-", "*", "/", "**"]) : ¬ landmark.Marks token := by
    rintro ⟨value_eq, category_eq, _⟩
    have other := ends.2
    rw [← value_eq, ← category_eq, symbol, List.contains_iff_mem.mpr word] at other
    contradiction
  have still {α : Type} (value : α) (start : State → Prop) :
      ObeysFrom start R (pure value : Analysis α) := fun state _ => guarded.refl state
  have accepted {token : Token} (clear : ¬ landmark.Marks token) (result : ArithmeticScan) :
      ObeysFrom (fun state => state.current = token) R
        (accept >>= fun _ => pure (some result)) := by
    rintro state rfl
    exact guarded.obeysFrom_accept state clear
  apply obeys_current
  intro token
  split
  · next identifier =>
    have clear : ¬ landmark.Marks token := clear_of_category (by simp [identifier])
    split
    · exact still _ _
    · exact accepted clear _
  · next numeric =>
    have clear : ¬ landmark.Marks token := clear_of_category (by simp [numeric])
    split
    · exact still _ _
    · exact accepted clear _
  · next symbol =>
    have clear := clear_of_word symbol
    split
    · next opening =>
      rw [Token.is_eq_true_iff] at opening
      split
      · exact still _ _
      · exact accepted (clear (by simp [opening])) _
    · split
      · next closing =>
        rw [Token.is_eq_true_iff] at closing
        rintro state rfl
        exact guarded.obeysFrom_closeParenthesis _ scan state (clear (by simp [closing]))
      · split
        · next operator =>
          rintro state rfl
          refine guarded.obeysFrom_readOperator _ scan state (clear ?_)
          have member := List.contains_iff_mem.mp operator
          exact List.mem_cons_of_mem _ (List.mem_cons_of_mem _ member)
        · split
          · exact still _ _
          · rintro state rfl
            exact guarded.refuse state _
  · exact still _ _

theorem obeys_arithmetic (guarded : Guarded landmark R) (ends : landmark.endsArithmetic = true) :
    Obeys R arithmetic := by
  unfold arithmetic
  apply guarded.obeys_bind (guarded.obeys_look fun _ => rfl)
  intro first
  apply guarded.obeys_bind (guarded.obeys_loop (guarded.obeys_readArithmetic ends) _)
  intro scan
  have balance (scan : ArithmeticScan) : Obeys R (if scan.crossed || scan.depth != 0 then
      complain first .unbalancedArithmetic scan >>= fun scan => pure scan.sound
      else pure scan >>= fun scan => pure scan.sound) :=
    obeys_ite _ (guarded.obeys_bind (guarded.obeys_complain _ _ _) fun _ => guarded.obeys_pure _)
      (guarded.obeys_pure _)
  refine obeys_ite _ ?_ ?_
  · exact guarded.obeys_bind (guarded.obeys_reportHere _) fun _ => balance _
  · exact guarded.obeys_bind (guarded.obeys_complainOfTrailing scan) balance

end Guarded

end CobolCheck
