import CobolCheck.Proofs.Statement.Reads

/-!
# Reading statements with conditional phrases

A statement that may have conditional phrases is read up to where these begin, or
the END marker does. One lemma for each of its forms shows that the form leads there.
-/

namespace CobolCheck

open Grammar

namespace Form

variable {inner : Analysis Unit} {head words rest : List String}

theorem leads_compute {targets value : List String} (names : Operands [.identifier] targets)
    (expression : Arithmetic true value) (follows : Begins followers rest) :
    compute.Leads inner (conditional .sizeError "END-COMPUTE")
      ("COMPUTE" :: targets ++ "=" :: value) rest := by
  apply Leads.one (accepts_expect _)
  apply Leads.cons (accepts_operands₁ names _)
  · apply Leads.one (accepts_expect _)
    apply leads_pair (accepts_arithmetic expression _)
    exact follows.mono fun _ listed => List.mem_append_left _ listed
  · exact on_has_eq_false_of_known (by decide) (by decide) _

theorem leads_addTo {values target : List String}
    (operands : Operands [.identifier, .numeric] values) (place : Target "TO" target)
    (follows : Begins followers rest) :
    add.Leads inner (conditional .sizeError "END-ADD") ("ADD" :: values ++ target) rest := by
  apply Leads.one (accepts_expect _)
  apply Leads.cons (accepts_operands₁ operands _)
  · apply leads_pair
    apply accepts_target List.mem_cons_self place follows
    · intro value targets operand names
      exact accepts_operandGiving operand names follows
    · intro targets names
      exact (accepts_direct names follows).refused (Analysis.on_is_eq_false (by simp))
  · cases place <;> exact on_has_eq_false_of_known (by decide) (by decide) _

theorem leads_addGiving {values targets : List String}
    (operands : Operands [.identifier, .numeric] values) (names : Operands [.identifier] targets)
    (follows : Begins followers rest) :
    add.Leads inner (conditional .sizeError "END-ADD")
      ("ADD" :: values ++ "GIVING" :: targets) rest := by
  apply Leads.one (accepts_expect _)
  apply Leads.cons (accepts_operands₁ operands _)
  · apply leads_pair
    apply Accepts.refused
    · exact (accepts_giving names follows).held (Analysis.on_is _ _)
    · rfl
  · exact on_has_eq_false_of_known (by decide) (by decide) _

theorem leads_subtract {values target : List String}
    (operands : Operands [.identifier, .numeric] values) (minuend : Target "FROM" target)
    (follows : Begins followers rest) :
    subtract.Leads inner (conditional .sizeError "END-SUBTRACT")
      ("SUBTRACT" :: values ++ target) rest := by
  apply Leads.one (accepts_expect _)
  apply Leads.cons (accepts_operands₁ operands _)
  · apply leads_pair
    apply accepts_target List.mem_cons_self minuend follows
    · intro value targets operand names
      exact accepts_operandGiving operand names follows
    · intro targets names
      exact accepts_direct names follows
  · cases minuend <;> exact on_has_eq_false_of_known (by decide) (by decide) _

theorem leads_multiply {value : String} {target : List String}
    (operand : IsOperand [.identifier, .numeric] value) (factor : Target "BY" target)
    (follows : Begins followers rest) :
    multiply.Leads inner (conditional .sizeError "END-MULTIPLY")
      ("MULTIPLY" :: value :: target) rest := by
  apply Leads.one (accepts_expect _)
  apply Leads.one (accepts_operand operand)
  apply leads_pair
  apply accepts_target List.mem_cons_self factor follows
  · intro value targets operand names
    exact accepts_operandGiving operand names follows
  · intro targets names
    exact accepts_direct names follows

theorem leads_divideInto {value : String} {targets : List String}
    (operand : IsOperand [.identifier, .numeric] value) (names : Operands [.identifier] targets)
    (follows : Begins followers rest) :
    divide.Leads inner (conditional .sizeError "END-DIVIDE")
      ("DIVIDE" :: value :: "INTO" :: targets) rest := by
  apply Leads.one (accepts_expect _)
  apply Leads.one (accepts_operand operand)
  apply leads_pair
  apply (accepts_direct names follows).refused
  have other := textAt_one_ne names follows (by decide : "GIVING" ∈ vocabulary) (by decide)
  simpa [givingAfter, Test.on] using fun _ => other

theorem leads_divide {value word other : String} {result : List String}
    (operand : IsOperand [.identifier, .numeric] value) (listed : word ∈ ["BY", "INTO"])
    (second : IsOperand [.identifier, .numeric] other)
    (given : (branch (.next "REMAINDER") (all [identifier, expect "REMAINDER", identifier])
      identifiers).Accepts inner result rest) :
    divide.Leads inner (conditional .sizeError "END-DIVIDE")
      ("DIVIDE" :: value :: word :: other :: "GIVING" :: result) rest := by
  apply Leads.one (accepts_expect _)
  apply Leads.one (accepts_operand operand)
  apply leads_pair
  apply Accepts.held _ (on_givingAfter listed _)
  apply Accepts.one fun _ => Analysis.accepts_choose listed _
  apply Accepts.one (accepts_operand second)
  apply Accepts.one (accepts_expect _)
  exact .last given accepts_nil

theorem leads_deleteFile {override files again : List String}
    (optional : override ∈ [[], ["OVERRIDE"]]) (names : Operands [.identifier] files)
    (retry : Optional Retry again) (follows : Begins followers rest) :
    delete.Leads inner (conditional .onException "END-DELETE")
      ("DELETE" :: "FILE" :: override ++ files ++ again) rest := by
  obtain ⟨nonempty, operands⟩ := names
  cases files with
  | nil => contradiction
  | cons first files =>
      rw [List.forall_mem_cons] at operands
      have after : Begins ("RETRY" :: followers) (again ++ rest) :=
        .optional (begins_retry retry) follows
      have ended : (Test.has [.identifier]).on (again ++ rest) = false :=
        after.on_has_eq_false (by decide) (by decide)
      have words_eq : "DELETE" :: "FILE" :: override ++ first :: files ++ again =
          "DELETE" :: "FILE" :: (override ++ first :: (files ++ again)) := by
        simp
      rw [words_eq]
      apply Leads.one (accepts_expect _)
      apply Leads.last
      apply Leads.held _ (Analysis.on_is _ _)
      apply Leads.one (accepts_accept _)
      apply Leads.cons (accepts_optional_of_mem optional _)
      · apply Leads.one (accepts_operand operands.1)
        apply Leads.cons (accepts_operands operands.2 ended)
        exact leads_pair (accepts_optionalRetry retry (follows.on_is_eq_false (by decide)))
      · exact on_is_eq_false_of_operand operands.1 (by decide) (by decide) _

theorem leads_deleteRecord {name : String} {record again : List String} (named : IsName name)
    (optional : record ∈ [[], ["RECORD"]]) (retry : Optional Retry again)
    (follows : Begins followers rest) :
    delete.Leads inner (conditional .invalidKey "END-DELETE")
      ("DELETE" :: name :: record ++ again) rest := by
  have after : Begins ("RETRY" :: followers) (again ++ rest) :=
    .optional (begins_retry retry) follows
  apply Leads.one (accepts_expect _)
  apply Leads.last
  apply Leads.refused
  · apply Leads.one (accepts_operand named)
    apply Leads.cons (accepts_optional_of_mem optional (after.on_is_eq_false (by decide)))
    exact leads_pair (accepts_optionalRetry retry (follows.on_is_eq_false (by decide)))
  · exact on_is_eq_false_of_operand named (by decide) (by decide) _

/-- The phrases at the end of a REWRITE statement, before the conditional ones. -/
theorem leads_rewriteEnd {again lock : List String} (retry : Optional Retry again)
    (locked : Optional (· ∈ locks) lock) (follows : Begins followers rest) :
    (all [optionalRetry, whenever (.isAny ["WITH", "LOCK", "NO"]) [lockMode],
      conditional .invalidKey "END-REWRITE"]).Leads inner (conditional .invalidKey "END-REWRITE")
      (again ++ lock) rest := by
  have after : Begins (["WITH", "LOCK", "NO"] ++ followers) (lock ++ rest) :=
    .optional (begins_lock locked) follows
  apply Leads.cons (accepts_optionalRetry retry (after.on_is_eq_false (by decide)))
  exact leads_pair (accepts_lock locked (follows.on_isAny_eq_false (by decide)))

theorem leads_rewriteFile {name value : String} {again lock : List String}
    (named : IsName name) (operand : IsOperand [.identifier, .numeric, .string] value)
    (retry : Optional Retry again) (locked : Optional (· ∈ locks) lock)
    (follows : Begins followers rest) :
    replaceRecord.Leads inner (conditional .invalidKey "END-REWRITE")
      ("REWRITE" :: "FILE" :: name :: "RECORD" :: "FROM" :: value :: again ++ lock) rest := by
  have words_eq : "REWRITE" :: "FILE" :: name :: "RECORD" :: "FROM" :: value :: again ++ lock =
      "REWRITE" :: (["FILE", name, "RECORD", "FROM", value] ++ (again ++ lock)) := by
    simp
  rw [words_eq]
  apply Leads.one (accepts_expect _)
  apply Leads.cons _ (leads_rewriteEnd retry locked follows)
  apply Accepts.held _ (Analysis.on_is _ _)
  apply Accepts.one (accepts_accept _)
  apply Accepts.one (accepts_operand named)
  apply Accepts.one (accepts_expect _)
  apply Accepts.one (accepts_expect _)
  exact .last (accepts_operand operand) accepts_nil

theorem leads_rewriteRecord {name : String} {record source again lock : List String}
    (named : IsName name) (optional : record ∈ [[], ["RECORD"]])
    (value : Optional (Pair "FROM" [.identifier, .numeric, .string]) source)
    (retry : Optional Retry again) (locked : Optional (· ∈ locks) lock)
    (follows : Begins followers rest) :
    replaceRecord.Leads inner (conditional .invalidKey "END-REWRITE")
      ("REWRITE" :: name :: record ++ source ++ again ++ lock) rest := by
  have after : Begins (["RETRY"] ++ (["WITH", "LOCK", "NO"] ++ followers))
      (again ++ lock ++ rest) := by
    rw [List.append_assoc]
    exact .optional (begins_retry retry) (.optional (begins_lock locked) follows)
  have words_eq : "REWRITE" :: name :: record ++ source ++ again ++ lock =
      "REWRITE" :: (name :: (record ++ source) ++ (again ++ lock)) := by
    simp
  rw [words_eq]
  apply Leads.one (accepts_expect _)
  apply Leads.cons _ (leads_rewriteEnd retry locked follows)
  apply Accepts.refused
  · apply Accepts.one (accepts_operand named)
    apply Accepts.cons (accepts_optional_of_mem optional _)
    · exact .last (accepts_optionally value (after.on_is_eq_false (by decide))) accepts_nil
    · exact (Begins.optional (begins_pair value) after).on_is_eq_false (by decide)
  · exact on_is_eq_false_of_operand named (by decide) (by decide) _

theorem leads_returnRecord {name : String} {record target again : List String}
    (named : IsName name) (optional : record ∈ [[], ["RECORD"]])
    (item : Optional (Pair "INTO" [.identifier]) target) (retry : Optional Retry again)
    (follows : Begins followers rest) :
    returnRecord.Leads inner (conditional .atEnd "END-RETURN")
      ("RETURN" :: name :: record ++ target ++ again) rest := by
  have after : Begins (["RETRY"] ++ followers) (again ++ rest) :=
    .optional (begins_retry retry) follows
  have words_eq : "RETURN" :: name :: record ++ target ++ again =
      "RETURN" :: name :: (record ++ (target ++ again)) := by
    simp
  rw [words_eq]
  apply Leads.one (accepts_expect _)
  apply Leads.one (accepts_operand named)
  apply Leads.cons (accepts_optional_of_mem optional _)
  · apply Leads.cons (accepts_optionally item (after.on_is_eq_false (by decide)))
    exact leads_pair (accepts_optionalRetry retry (follows.on_is_eq_false (by decide)))
  · rw [List.append_assoc]
    exact (Begins.optional (begins_pair item) after).on_is_eq_false (by decide)

/-- A statement leads to its conditional phrases. -/
theorem leads_head (inner : Analysis Unit) {phrase : Phrase} {marker : String}
    (begins : Head phrase marker head) (follows : Begins followers rest) :
    ∃ keyword more, head = keyword :: more ∧ keyword ∈ Word.statementWords ∧
      (ofKeyword keyword).Leads inner (conditional phrase marker) head rest := by
  cases begins with
  | compute names expression =>
      exact ⟨_, _, rfl, by decide, leads_compute names expression follows⟩
  | addTo operands place => exact ⟨_, _, rfl, by decide, leads_addTo operands place follows⟩
  | addGiving operands names =>
      exact ⟨_, _, rfl, by decide, leads_addGiving operands names follows⟩
  | subtract operands minuend =>
      exact ⟨_, _, rfl, by decide, leads_subtract operands minuend follows⟩
  | multiply operand factor =>
      exact ⟨_, _, rfl, by decide, leads_multiply operand factor follows⟩
  | divideInto operand names =>
      exact ⟨_, _, rfl, by decide, leads_divideInto operand names follows⟩
  | divideGiving operand listed second names =>
      refine ⟨_, _, rfl, by decide, leads_divide operand listed second ?_⟩
      apply (accepts_operands₁ names (follows.on_has (by decide))).refused
      have other := textAt_one_ne names follows (by decide : "REMAINDER" ∈ vocabulary) (by decide)
      simpa [Test.next, Test.on] using other
  | divideRemainder operand listed second first last =>
      refine ⟨_, _, rfl, by decide, leads_divide operand listed second ?_⟩
      apply Accepts.held
      · apply Accepts.one (accepts_operand first)
        apply Accepts.one (accepts_expect _)
        exact .last (accepts_operand last) accepts_nil
      · rfl
  | deleteFile optional names again =>
      exact ⟨_, _, rfl, by decide, leads_deleteFile optional names again follows⟩
  | deleteRecord named optional again =>
      exact ⟨_, _, rfl, by decide, leads_deleteRecord named optional again follows⟩
  | rewriteFile named operand again locked =>
      exact ⟨_, _, rfl, by decide, leads_rewriteFile named operand again locked follows⟩
  | rewriteRecord named optional value again locked =>
      exact ⟨_, _, rfl, by decide,
        leads_rewriteRecord named optional value again locked follows⟩
  | returnRecord named optional item again =>
      exact ⟨_, _, rfl, by decide, leads_returnRecord named optional item again follows⟩

end Form

end CobolCheck
