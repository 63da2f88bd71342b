import CobolCheck.Proofs.Statement.Grammar

/-!
# Reading statements

Forms accept words by one rule for each way to put forms together. From these
follow the parts that statements have in common, and the simple statements, which
are accepted where another statement, a phrase, ELSE, an END marker or a period
follows.
-/

namespace CobolCheck

namespace Grammar

/-- The words before which a statement ends. -/
def followers : List String :=
  "." :: closers ++ Word.statementWords

end Grammar

open Grammar

namespace Form

/-! ## Reading forms -/

/-- A form accepts the words `read` before the words `rest`. -/
def Accepts (inner : Analysis Unit) (form : Form) (read rest : List String) : Prop :=
  ∀ start, Analysis.Accepts start (form.run inner) read rest

variable {inner : Analysis Unit} {form yes no : Form} {forms : List Form} {test : Test}
  {word : String} {read words more rest : List String} {categories : List Category}

theorem accepts_nil : (all []).Accepts inner [] rest :=
  fun _ => .pure ()

theorem accepts_done : done.Accepts inner [] rest :=
  fun _ => .pure ()

/-- Forms that follow one another accept words that follow one another. -/
theorem Accepts.cons (first : form.Accepts inner read (more ++ rest))
    (others : (all forms).Accepts inner more rest) :
    (all (form :: forms)).Accepts inner (read ++ more) rest :=
  fun start => (first start).bind fun _ => others start

/-- A form that accepts one word. -/
theorem Accepts.one (first : form.Accepts inner [word] (more ++ rest))
    (others : (all forms).Accepts inner more rest) :
    (all (form :: forms)).Accepts inner (word :: more) rest :=
  first.cons others

/-- A form after which nothing more is accepted. -/
theorem Accepts.last (first : form.Accepts inner read rest)
    (others : (all forms).Accepts inner [] rest) :
    (all (form :: forms)).Accepts inner read rest := by
  rw [← List.append_nil read]
  exact first.cons others

/-- A form that is left out. -/
theorem Accepts.absent (first : form.Accepts inner [] (more ++ rest))
    (others : (all forms).Accepts inner more rest) :
    (all (form :: forms)).Accepts inner more rest :=
  first.cons others

theorem Accepts.held (yields : yes.Accepts inner words rest)
    (answer : test.on (words ++ rest) = true) : (branch test yes no).Accepts inner words rest :=
  fun start => .held answer (yields start)

theorem Accepts.refused (yields : no.Accepts inner words rest)
    (answer : test.on (words ++ rest) = false) : (branch test yes no).Accepts inner words rest :=
  fun start => .refused answer (yields start)

/-! ## Leading to another form -/

/-- Before the words `rest`, a form accepts the words `read` and goes on as another one. -/
def Leads (inner : Analysis Unit) (form next : Form) (read rest : List String) : Prop :=
  ∀ state : State, state.Ahead (read ++ rest) → ∃ middle,
    State.Passed read.length state middle ∧ middle.declared = state.declared ∧
      form.run inner state = next.run inner middle

variable {next : Form}

/-- The last of several forms is what they lead to. -/
theorem leads_all_singleton : (all [next]).Leads inner next [] rest :=
  fun state _ => ⟨state, .refl state, rfl, rfl⟩

theorem Leads.cons (first : form.Accepts inner read (more ++ rest))
    (others : (all forms).Leads inner next more rest) :
    (all (form :: forms)).Leads inner next (read ++ more) rest := by
  intro state ahead
  rw [List.append_assoc] at ahead
  obtain ⟨declared, early⟩ := first state.declared state ahead rfl
  obtain ⟨middle, late, kept, runs⟩ := others _ (ahead.of_passed early)
  refine ⟨middle, ?_, kept.trans declared, runs⟩
  rw [List.length_append]
  exact early.trans late

theorem Leads.one (first : form.Accepts inner [word] (more ++ rest))
    (others : (all forms).Leads inner next more rest) :
    (all (form :: forms)).Leads inner next (word :: more) rest :=
  Leads.cons first others

/-- What comes before the form that is led to. -/
theorem leads_pair (first : form.Accepts inner read rest) :
    (all [form, next]).Leads inner next read rest := by
  rw [← List.append_nil read]
  exact Leads.cons first leads_all_singleton

/-- A form that leads on may be the last one. -/
theorem Leads.last (leads : form.Leads inner next read rest) :
    (all [form]).Leads inner next read rest :=
  leads

theorem Leads.held (leads : yes.Leads inner next read rest)
    (answer : test.on (read ++ rest) = true) : (branch test yes no).Leads inner next read rest := by
  intro state ahead
  obtain ⟨middle, passed, declared, runs⟩ := leads state ahead
  refine ⟨middle, passed, declared, ?_⟩
  rw [← runs, Form.run, Analysis.run_bind, Analysis.run_ask, ahead.holds_eq, answer, if_pos rfl]

theorem Leads.refused (leads : no.Leads inner next read rest)
    (answer : test.on (read ++ rest) = false) :
    (branch test yes no).Leads inner next read rest := by
  intro state ahead
  obtain ⟨middle, passed, declared, runs⟩ := leads state ahead
  refine ⟨middle, passed, declared, ?_⟩
  rw [← runs, Form.run, Analysis.run_bind, Analysis.run_ask, ahead.holds_eq, answer,
    if_neg Bool.false_ne_true]

/-- What the form that is led to accepts is accepted. -/
theorem Leads.accepts (leads : form.Leads inner next read (words ++ rest))
    (others : next.Accepts inner words rest) : form.Accepts inner (read ++ words) rest := by
  intro start state ahead begun
  rw [List.append_assoc] at ahead
  obtain ⟨middle, early, declared, runs⟩ := leads state ahead
  obtain ⟨kept, late⟩ := others start middle (ahead.of_passed early) (declared.trans begun)
  rw [runs, List.length_append]
  exact ⟨kept, early.trans late⟩

/-! ## Reading single words -/

theorem accepts_accept (word : String) : accept.Accepts inner [word] rest :=
  fun _ => Analysis.accepts_accept word rest

theorem accepts_expect (word : String) : (expect word).Accepts inner [word] rest :=
  fun _ => Analysis.accepts_expect word rest

theorem accepts_operand {description : String} (operand : IsOperand categories word) :
    (Form.operand categories description).Accepts inner [word] rest :=
  fun _ => (Analysis.accepts_operand description operand rest).discard

/-! ### Optional words -/

theorem accepts_optional (word : String) : (optional word).Accepts inner [word] rest :=
  (accepts_accept word).held (Analysis.on_is word rest)

theorem accepts_optional_absent (answer : (Test.is word).on rest = false) :
    (optional word).Accepts inner [] rest :=
  accepts_done.refused answer

theorem accepts_whenever_absent (answer : test.on rest = false) :
    (whenever test forms).Accepts inner [] rest :=
  accepts_done.refused answer

/-- A word is left out or accepted. -/
theorem accepts_optional_of_mem (listed : words ∈ [[], [word]])
    (other : (Test.is word).on rest = false) : (optional word).Accepts inner words rest := by
  rcases (by simpa using listed : words = [] ∨ words = [word]) with rfl | rfl
  · exact accepts_optional_absent other
  · exact accepts_optional word

/-! ### Operands -/

/-- Operands are accepted up to a word that is none. -/
theorem accepts_operands (operands : ∀ word ∈ words, IsOperand categories word)
    (ended : (Test.has categories).on rest = false) :
    (Form.operands categories).Accepts inner words rest := by
  intro start
  induction words with
  | nil => exact Analysis.accepts_whilst_nil _ ended
  | cons word words ih =>
      rw [List.forall_mem_cons] at operands
      exact Analysis.Accepts.whilst_cons (List.cons_ne_nil word [])
        (Analysis.on_has operands.1 _) (Analysis.accepts_accept word _) (ih operands.2)

theorem on_has_of_operands (operands : Operands categories words) :
    (Test.has categories).on (words ++ rest) = true := by
  obtain ⟨nonempty, operands⟩ := operands
  cases words with
  | nil => contradiction
  | cons word words => exact Analysis.on_has (operands word List.mem_cons_self) _

theorem accepts_operands₁ {description : String} (operands : Operands categories words)
    (ended : (Test.has categories).on rest = false) :
    (operands₁ categories description).Accepts inner words rest := by
  have answer : (Test.has categories).on (words ++ rest) = true := on_has_of_operands operands
  have checked : (branch (.has categories) done
      (report (.expectedCategory description))).Accepts inner [] (words ++ rest) :=
    accepts_done.held answer
  intro start
  exact (checked start).bind fun _ => accepts_operands operands.operands ended start

/-- A list of operands that ends a statement. -/
theorem accepts_operandList {problem : Problem} (operands : Operands categories words)
    (ended : (Test.has categories).on rest = false) (finished : Test.statementEnd.on rest = true) :
    (operandList categories problem).Accepts inner words rest := by
  have finishes : (finish problem).Accepts inner [] rest := accepts_done.held finished
  have items : (seq (many (.has categories) accept) (finish problem)).Accepts inner words rest := by
    intro start
    rw [← List.append_nil words]
    exact (accepts_operands operands.operands ended start).bind fun _ => finishes start
  exact items.held (on_has_of_operands operands)

end Form

/-! ## Simple statements -/

namespace Grammar

variable {rest : List String}

theorem Begins.statementEnd (follows : Begins followers rest) :
    Test.statementEnd.on rest = true := by
  obtain ⟨word, listed, more, rfl⟩ := follows
  rcases List.mem_append.mp listed with closer | statement
  · have ends : ∀ word ∈ "." :: closers, (Word.isEndMarker word || [".", "END", "ELSE", "NOT",
        "ON", "INVALID", "AT", "EXCEPTION", "SIZE"].contains word) = true := by
      decide
    have ended := ends word closer
    rw [Bool.or_eq_true] at ended
    simp only [Test.statementEnd, Test.on, Test.isAny, textAt_cons_zero, Bool.or_eq_true]
    exact .inr (.inr ended)
  · simp [Test.statementEnd, Test.on, Test.statement, roleAt_cons_zero
      (role?_statementWord word statement)]

theorem followers_of_closers (follows : Begins closers rest) : Begins followers rest :=
  follows.mono fun _ listed => List.mem_append_left _ (List.mem_cons_of_mem _ listed)

theorem followers_subset : ∀ word ∈ followers, word ∈ vocabulary := by
  decide

theorem Begins.on_has (follows : Begins followers rest) {categories : List Category}
    (within : ∀ category ∈ categories, category ∈ operandCategories) :
    (Test.has categories).on rest = false :=
  follows.on_has_eq_false followers_subset within

end Grammar

namespace Form

variable {inner : Analysis Unit} {words rest : List String}

/-- A simple statement is accepted before a word at which statements end. -/
theorem accepts_simple (simple : Simple words) (follows : Begins followers rest) :
    ∃ keyword more, words = keyword :: more ∧ keyword ∈ Word.statementWords ∧
      (ofKeyword keyword).Accepts inner words rest := by
  cases simple with
  | @display values operands =>
      refine ⟨"DISPLAY", values, rfl, by decide, ?_⟩
      apply Accepts.one (accepts_expect _)
      apply Accepts.last (accepts_operands₁ operands (follows.on_has (by decide)))
      apply Accepts.last (accepts_whenever_absent (follows.on_is_eq_false (by decide)))
      apply Accepts.last (accepts_whenever_absent (follows.on_isAny_eq_false (by decide)))
      exact .last (accepts_optional_absent (follows.on_is_eq_false (by decide))) accepts_nil
  | @move source targets value names =>
      refine ⟨"MOVE", source :: "TO" :: targets, rfl, by decide, ?_⟩
      apply Accepts.one (accepts_expect _)
      apply Accepts.last _ accepts_nil
      apply Accepts.refused
      · apply Accepts.one ((accepts_accept _).held (Analysis.on_has value _))
        apply Accepts.one (accepts_expect _)
        exact .last (accepts_operandList names (follows.on_has (by decide)) follows.statementEnd)
          accepts_nil
      · have other : source ∉ ["CORRESPONDING", "CORR"] :=
          value.notMem (fun _ => id) (by decide)
        simpa [Test.isAny, Test.on] using other
  | continuing =>
      refine ⟨"CONTINUE", [], rfl, by decide, ?_⟩
      apply Accepts.one (accepts_expect _)
      exact .last (accepts_whenever_absent (follows.on_is_eq_false (by decide))) accepts_nil
  | @call name operand =>
      refine ⟨"CALL", [name], rfl, by decide, ?_⟩
      apply Accepts.one (accepts_expect _)
      apply Accepts.one (accepts_operand operand)
      exact .last (accepts_optional_absent (follows.on_is_eq_false (by decide))) accepts_nil
  | @goTo name named =>
      refine ⟨"GO", ["TO", name], rfl, by decide, ?_⟩
      apply Accepts.one (accepts_expect _)
      apply Accepts.one (accepts_optional _)
      apply Accepts.one (accepts_operand named)
      apply Accepts.last _ accepts_nil
      apply accepts_whenever_absent
      rw [Test.on, follows.on_is_eq_false (by decide), Bool.false_or]
      exact follows.on_has (by decide)
  | stop =>
      refine ⟨"STOP", ["RUN"], rfl, by decide, ?_⟩
      apply Accepts.one (accepts_expect _)
      apply Accepts.one (accepts_expect _)
      exact .last (accepts_whenever_absent (follows.on_isAny_eq_false (by decide))) accepts_nil

/-! ## Parts of statements -/

theorem on_has_eq_false_of_known {word : String} (known : word ∈ vocabulary)
    {categories : List Category} (within : ∀ category ∈ categories, category ∈ operandCategories)
    (more : List String) : (Test.has categories).on (word :: more) = false :=
  (begins_cons (List.mem_singleton_self word) more).on_has_eq_false
    (List.forall_mem_singleton.mpr known) within

/-- An operand is no word of the grammar. -/
theorem on_is_eq_false_of_operand {word other : String} {categories : List Category}
    (operand : IsOperand categories word) (known : other ∈ vocabulary)
    (within : ∀ category ∈ categories, category ∈ operandCategories) (more : List String) :
    (Test.is other).on (word :: more) = false := by
  have differs := operand.notMem within (List.forall_mem_singleton.mpr known)
  rw [List.mem_singleton] at differs
  exact Analysis.on_is_eq_false differs

/-- The second word of a list of names, or the word after the only one, is a name
or a word at which statements end. -/
theorem textAt_one_ne {word : String} (names : Operands [.identifier] words)
    (follows : Begins followers rest) (known : word ∈ vocabulary) (other : word ∉ followers) :
    textAt (words ++ rest) 1 ≠ word := by
  obtain ⟨nonempty, operands⟩ := names
  match words with
  | [] => contradiction
  | [_] => exact follows.textAt_ne other
  | first :: second :: _ =>
      have named : IsName second := operands second (by simp)
      have differs := named.notMem (by decide) (List.forall_mem_singleton.mpr known)
      rwa [List.mem_singleton] at differs

theorem accepts_giving {targets : List String} (names : Operands [.identifier] targets)
    (follows : Begins followers rest) : giving.Accepts inner ("GIVING" :: targets) rest := by
  apply Accepts.one (accepts_expect _)
  exact .last (accepts_operands₁ names (follows.on_has (by decide))) accepts_nil

/-- A word and the targets after it. -/
theorem accepts_direct {word : String} {no : Form} {targets : List String}
    (names : Operands [.identifier] targets) (follows : Begins followers rest) :
    (branch (.is word) (all [accept, identifiers]) no).Accepts inner (word :: targets) rest := by
  apply Accepts.held
  · apply Accepts.one (accepts_accept _)
    exact .last (accepts_operands₁ names (follows.on_has (by decide))) accepts_nil
  · exact Analysis.on_is word _

theorem on_givingAfter {word value : String} {links : List String} (linked : word ∈ links)
    (more : List String) : (givingAfter links).on (word :: value :: "GIVING" :: more) = true := by
  simpa [givingAfter, Test.on, Test.isAny] using linked

/-- The two forms in which targets may be given are told apart by the word GIVING. -/
theorem accepts_target {word : String} {links : List String} {yes no : Form}
    (linked : word ∈ links) (target : Target word words) (follows : Begins followers rest)
    (giving : ∀ value targets, IsOperand [.identifier, .numeric] value →
      Operands [.identifier] targets →
        yes.Accepts inner (word :: value :: "GIVING" :: targets) rest)
    (direct : ∀ targets, Operands [.identifier] targets →
      no.Accepts inner (word :: targets) rest) :
    (branch (givingAfter links) yes no).Accepts inner words rest := by
  cases target with
  | @direct targets names =>
      apply (direct targets names).refused
      have other := textAt_one_ne names follows (by decide : "GIVING" ∈ vocabulary) (by decide)
      simpa [givingAfter, Test.on] using fun _ => other
  | @giving value targets operand names =>
      exact (giving value targets operand names).held (on_givingAfter linked _)

/-- The form with GIVING, as most statements have it. -/
theorem accepts_operandGiving {word value : String} {targets : List String}
    (operand : IsOperand [.identifier, .numeric] value) (names : Operands [.identifier] targets)
    (follows : Begins followers rest) :
    (all [expect word, identifierOrNumber, giving]).Accepts inner
      (word :: value :: "GIVING" :: targets) rest := by
  apply Accepts.one (accepts_expect _)
  apply Accepts.one (accepts_operand operand)
  exact .last (accepts_giving names follows) accepts_nil

/-- An arithmetic expression is accepted before a word at which statements end, and before
the other words of the grammar. -/
theorem accepts_arithmetic (expression : Arithmetic true words)
    (follows : Begins (followers ++ particles) rest) : arithmetic.Accepts inner words rest := by
  intro start
  apply Analysis.accepts_arithmetic expression
  obtain ⟨word, listed, more, rfl⟩ := follows
  simp only [followers, List.cons_append, List.append_assoc, List.mem_cons,
    List.mem_append] at listed
  rcases listed with rfl | closer | statement | particle
  · exact .inr (begins_cons List.mem_cons_self more)
  · rw [roleAt_cons_zero (role?_closer word closer)]
    exact .inl rfl
  · rw [roleAt_cons_zero (role?_statementWord word statement)]
    exact .inl rfl
  · rw [roleAt_cons_zero (role?_particle word particle)]
    exact .inl rfl

/-- No optional word stands where an arithmetic expression begins. -/
theorem on_is_eq_false_of_arithmetic {word : String} (expression : Arithmetic true words)
    (known : word ∈ particles) (more : List String) : (Test.is word).on (words ++ more) = false := by
  obtain ⟨first, front, rfl, other⟩ := expression.exists_cons
  apply Analysis.on_is_eq_false
  rintro rfl
  exact other known

theorem accepts_retry (again : Retry words) : retry.Accepts inner words rest := by
  have seconds : Begins (followers ++ particles) ("SECONDS" :: rest) := begins_cons (by decide) rest
  have times : Begins (followers ++ particles) ("TIMES" :: rest) := begins_cons (by decide) rest
  cases again with
  | forever =>
      apply Accepts.one (accepts_expect _)
      exact .last ((accepts_accept _).held (Analysis.on_is _ _)) accepts_nil
  | @seconds noise time optional expression =>
      rw [List.cons_append, List.cons_append, List.append_assoc]
      apply Accepts.one (accepts_expect _)
      apply Accepts.last _ accepts_nil
      rcases (by simpa using optional : noise = [] ∨ noise = ["FOR"]) with rfl | rfl
      · rw [List.nil_append]
        apply Accepts.refused
        · apply Accepts.refused
          · apply Accepts.cons (accepts_arithmetic expression seconds)
            exact .last ((accepts_accept _).held (Analysis.on_is _ _)) accepts_nil
          · rw [List.append_assoc]
            exact on_is_eq_false_of_arithmetic expression (by decide) _
        · rw [List.append_assoc]
          exact on_is_eq_false_of_arithmetic expression (by decide) _
      · rw [List.singleton_append]
        apply Accepts.refused
        · apply Accepts.held
          · apply Accepts.one (accepts_accept _)
            apply Accepts.cons (accepts_arithmetic expression seconds)
            exact .last (accepts_expect _) accepts_nil
          · exact Analysis.on_is _ _
        · exact Analysis.on_is_eq_false (by simp)
  | @times count expression =>
      rw [List.cons_append]
      apply Accepts.one (accepts_expect _)
      apply Accepts.last _ accepts_nil
      apply Accepts.refused
      · apply Accepts.refused
        · apply Accepts.cons (accepts_arithmetic expression times)
          apply Accepts.last _ accepts_nil
          exact (accepts_expect _).refused (Analysis.on_is_eq_false (by simp))
        · rw [List.append_assoc]
          exact on_is_eq_false_of_arithmetic expression (by decide) _
      · rw [List.append_assoc]
        exact on_is_eq_false_of_arithmetic expression (by decide) _

theorem begins_retry (again : Optional Retry words) : words = [] ∨ Begins ["RETRY"] words := by
  rcases again with absent | again
  · exact .inl absent
  · cases again <;> exact .inr (begins_cons (by decide) _)

theorem accepts_optionalRetry (again : Optional Retry words)
    (ended : (Test.is "RETRY").on rest = false) : optionalRetry.Accepts inner words rest := by
  rcases again with rfl | again
  · exact accepts_whenever_absent ended
  · apply Accepts.held
    · exact .last (accepts_retry again) accepts_nil
    · cases again <;> exact Analysis.on_is _ _

theorem begins_lock (locked : Optional (· ∈ locks) words) :
    words = [] ∨ Begins ["WITH", "LOCK", "NO"] words := by
  have first : ∀ words ∈ locks, Begins ["WITH", "LOCK", "NO"] words := by
    simp [locks, Begins]
  exact locked.imp_right (first words)

theorem accepts_lock (locked : Optional (· ∈ locks) words)
    (ended : (Test.isAny ["WITH", "LOCK", "NO"]).on rest = false) :
    (whenever (.isAny ["WITH", "LOCK", "NO"]) [lockMode]).Accepts inner words rest := by
  rcases locked with rfl | listed
  · exact accepts_whenever_absent ended
  · have bare : (branch (.is "LOCK") accept (all [expect "NO", expect "LOCK"])).Accepts inner
        ["LOCK"] rest :=
      (accepts_accept _).held (Analysis.on_is _ _)
    have negated : (branch (.is "LOCK") accept (all [expect "NO", expect "LOCK"])).Accepts inner
        ["NO", "LOCK"] rest := by
      apply Accepts.refused
      · exact .one (accepts_expect _) (.last (accepts_expect _) accepts_nil)
      · exact Analysis.on_is_eq_false (by simp)
    apply Accepts.held
    · apply Accepts.last _ accepts_nil
      rcases (by simpa [locks] using listed :
          words = ["LOCK"] ∨ words = ["NO", "LOCK"] ∨ words = ["WITH", "LOCK"] ∨
            words = ["WITH", "NO", "LOCK"]) with rfl | rfl | rfl | rfl
      · exact .absent (accepts_optional_absent (Analysis.on_is_eq_false (by simp)))
          (.last bare accepts_nil)
      · exact .absent (accepts_optional_absent (Analysis.on_is_eq_false (by simp)))
          (.last negated accepts_nil)
      · exact .one (accepts_optional _) (.last bare accepts_nil)
      · exact .one (accepts_optional _) (.last negated accepts_nil)
    · have nonempty : words ≠ [] := by
        rintro rfl
        exact absurd listed (by decide)
      obtain ⟨word, known, more, rfl⟩ := (begins_lock (.inr listed)).resolve_left nonempty
      simpa [Test.isAny, Test.on] using known

theorem begins_pair {word : String} {categories : List Category}
    (pair : Optional (Pair word categories) words) : words = [] ∨ Begins [word] words := by
  rcases pair with absent | ⟨operand, -, rfl⟩
  · exact .inl absent
  · exact .inr (begins_cons List.mem_cons_self _)

theorem accepts_optionally {word description : String} {categories : List Category}
    (pair : Optional (Pair word categories) words) (ended : (Test.is word).on rest = false) :
    (optionally word [operand categories description]).Accepts inner words rest := by
  rcases pair with rfl | ⟨operand, known, rfl⟩
  · exact accepts_whenever_absent ended
  · apply Accepts.held _ (Analysis.on_is _ _)
    apply Accepts.one (accepts_accept _)
    exact .last (accepts_operand known) accepts_nil

end Form

end CobolCheck
