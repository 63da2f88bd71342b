import CobolCheck.Proofs.Statement.Nested

/-!
# The places of arithmetic expressions

Where the form of a statement has an arithmetic expression, every arithmetic expression
is accepted, up to the word that follows its place. The size in an ALLOCATE statement is
the exception: it is only looked for where an identifier or a numeric literal stands, so
one that begins with a sign or a parenthesis is not read at all. `accepts_places` says
both.
-/

namespace CobolCheck

open Analysis

namespace Grammar

/-! ## Statements with an expression -/

/-- `RETRY ([FOR] expression SECONDS | expression TIMES)` -/
inductive RetryWith (expression : List String) : List String → Prop
  | seconds {noise : List String} (optional : noise ∈ [[], ["FOR"]]) :
      RetryWith expression ("RETRY" :: noise ++ expression ++ ["SECONDS"])
  | times : RetryWith expression ("RETRY" :: expression ++ ["TIMES"])

/-- A statement up to its conditional phrases, as in `Head`, that has an expression. -/
inductive HeadWith (expression : List String) : Phrase → String → List String → Prop
  | compute {targets : List String} (names : Operands [.identifier] targets) :
      HeadWith expression .sizeError "END-COMPUTE" ("COMPUTE" :: targets ++ "=" :: expression)
  | deleteFile {override files retry : List String} (optional : override ∈ [[], ["OVERRIDE"]])
      (names : Operands [.identifier] files) (again : RetryWith expression retry) :
      HeadWith expression .onException "END-DELETE"
        ("DELETE" :: "FILE" :: override ++ files ++ retry)
  | deleteRecord {name : String} {record retry : List String} (named : IsName name)
      (optional : record ∈ [[], ["RECORD"]]) (again : RetryWith expression retry) :
      HeadWith expression .invalidKey "END-DELETE" ("DELETE" :: name :: record ++ retry)
  | rewriteFile {name value : String} {retry lock : List String} (named : IsName name)
      (operand : IsOperand [.identifier, .numeric, .string] value)
      (again : RetryWith expression retry) (locked : Optional (· ∈ locks) lock) :
      HeadWith expression .invalidKey "END-REWRITE"
        ("REWRITE" :: "FILE" :: name :: "RECORD" :: "FROM" :: value :: retry ++ lock)
  | rewriteRecord {name : String} {record source retry lock : List String} (named : IsName name)
      (optional : record ∈ [[], ["RECORD"]])
      (value : Optional (Pair "FROM" [.identifier, .numeric, .string]) source)
      (again : RetryWith expression retry) (locked : Optional (· ∈ locks) lock) :
      HeadWith expression .invalidKey "END-REWRITE"
        ("REWRITE" :: name :: record ++ source ++ retry ++ lock)
  | returnRecord {name : String} {record target retry : List String} (named : IsName name)
      (optional : record ∈ [[], ["RECORD"]]) (item : Optional (Pair "INTO" [.identifier]) target)
      (again : RetryWith expression retry) :
      HeadWith expression .atEnd "END-RETURN" ("RETURN" :: name :: record ++ target ++ retry)

/-- A statement that has an expression, other than ALLOCATE and without conditional
phrases, and the words before which it may stand. -/
inductive StatementWith (expression : List String) : (ends : List String) → List String → Prop
  | unclosed {phrase : Phrase} {marker : String} {words : List String}
      (begins : HeadWith expression phrase marker words) :
      StatementWith expression (phraseEnds.filter (· ≠ marker)) words
  | closed {phrase : Phrase} {marker : String} {words : List String}
      (begins : HeadWith expression phrase marker words) :
      StatementWith expression followers (words ++ [marker])
  | continueAfter :
      StatementWith expression followers ("CONTINUE" :: "AFTER" :: expression ++ ["SECONDS"])

/-- `CHARACTERS [INITIALIZED] [RETURNING identifier]`: what follows the size in an
ALLOCATE statement. -/
inductive AfterSize : List String → Prop
  | characters {noise result : List String} (optional : noise ∈ [[], ["INITIALIZED"]])
      (item : Optional (Pair "RETURNING" [.identifier]) result) :
      AfterSize ("CHARACTERS" :: noise ++ result)

variable {expression words : List String} {phrase : Phrase} {marker : String}

theorem RetryWith.retry (again : RetryWith expression words)
    (arithmetic : Arithmetic true expression) : Retry words := by
  cases again with
  | seconds optional => exact .seconds optional arithmetic
  | times => exact .times arithmetic

theorem HeadWith.head (begins : HeadWith expression phrase marker words)
    (arithmetic : Arithmetic true expression) : Head phrase marker words := by
  cases begins with
  | compute names => exact .compute names arithmetic
  | deleteFile optional names again =>
      exact .deleteFile optional names (.inr (again.retry arithmetic))
  | deleteRecord named optional again =>
      exact .deleteRecord named optional (.inr (again.retry arithmetic))
  | rewriteFile named operand again locked =>
      exact .rewriteFile named operand (.inr (again.retry arithmetic)) locked
  | rewriteRecord named optional value again locked =>
      exact .rewriteRecord named optional value (.inr (again.retry arithmetic)) locked
  | returnRecord named optional item again =>
      exact .returnRecord named optional item (.inr (again.retry arithmetic))

/-- An arithmetic expression is an operand, or goes on with an operator behind one, or
begins with a sign or a parenthesis. -/
theorem Arithmetic.begins {leading : Bool} (expression : Arithmetic leading words) :
    (∃ word more, words = word :: more ∧ IsOperand [.identifier, .numeric] word ∧
      (more = [] ∨ Begins arithmeticOperators more)) ∨ Begins ("(" :: signs) words := by
  induction expression with
  | operand operand => exact .inl ⟨_, _, rfl, operand, .inl rfl⟩
  | group => exact .inr (begins_cons List.mem_cons_self _)
  | @binary operator left right known _ _ ihFirst =>
      rcases ihFirst with ⟨word, more, rfl, operand, further⟩ | marked
      · refine .inl ⟨word, _, rfl, operand, .inr ?_⟩
        rcases further with rfl | operators
        · exact begins_cons known right
        · exact operators.append _
      · exact .inr (marked.append _)
  | unsigned _ ih => exact ih
  | sign known => exact .inr (begins_cons (List.mem_cons_of_mem _ known) _)

theorem role?_characters : Source.role? "CHARACTERS" = some (.reserved, .plain) := by
  decide +kernel

end Grammar

open Grammar

namespace Form

variable {inner : Analysis Unit} {expression words rest : List String}

theorem accepts_continueAfter (arithmetic : Arithmetic true expression) :
    continuing.Accepts inner ("CONTINUE" :: "AFTER" :: expression ++ ["SECONDS"]) rest := by
  apply Accepts.one (accepts_expect _)
  apply Accepts.last _ accepts_nil
  apply Accepts.held _ (on_is _ _)
  apply Accepts.one (accepts_accept _)
  apply Accepts.cons (accepts_arithmetic arithmetic (begins_cons (by decide) _))
  exact .last (accepts_expect _) accepts_nil

/-- The words behind the size in an ALLOCATE statement are accepted. -/
theorem accepts_afterSize {noise result : List String} (optional : noise ∈ [[], ["INITIALIZED"]])
    (item : Optional (Pair "RETURNING" [.identifier]) result) (follows : Begins followers rest) :
    (all [.optional "INITIALIZED", optionally "RETURNING" [identifier]]).Accepts inner
      (noise ++ result) rest := by
  have after : Begins ("RETURNING" :: followers) (result ++ rest) :=
    .optional (begins_pair item) follows
  apply Accepts.cons (accepts_optional_of_mem optional (after.on_is_eq_false (by decide)))
  exact .last (accepts_optionally item (follows.on_is_eq_false (by decide))) accepts_nil

/-- An identifier is taken for the allocated item unless CHARACTERS or an operator follows. -/
theorem on_itemAhead_eq_false {word : String} {more : List String}
    (further : more = [] ∨ Begins arithmeticOperators more) (rest : List String) :
    (Test.and .identifier (.not sizeAhead)).on (word :: (more ++ "CHARACTERS" :: rest)) =
      false := by
  have sized : sizeAhead.on (word :: (more ++ "CHARACTERS" :: rest)) = true := by
    rcases further with rfl | ⟨operator, known, others, rfl⟩
    · rfl
    · have mark : ∀ operator ∈ arithmeticOperators, operator ∈ marks ∧ operator ≠ "." := by decide
      obtain ⟨marked, other⟩ := mark operator known
      simp [sizeAhead, Test.on, Test.next, roleAt_cons_succ,
        roleAt_cons_zero (role?_mark operator marked), other]
  rw [Test.on, Test.on, sized, Bool.not_true, Bool.and_false]

/-- A size that begins with an operand is accepted. -/
theorem accepts_allocate {word : String} {more ending : List String}
    (arithmetic : Arithmetic true (word :: more))
    (operand : IsOperand [.identifier, .numeric] word)
    (further : more = [] ∨ Begins arithmeticOperators more) (after : AfterSize ending)
    (follows : Begins followers rest) :
    allocate.Accepts inner ("ALLOCATE" :: (word :: more) ++ ending) rest := by
  cases after with
  | @characters noise result optional item =>
      have words_eq : "ALLOCATE" :: (word :: more) ++ "CHARACTERS" :: noise ++ result =
          "ALLOCATE" :: (word :: more ++ ["CHARACTERS"] ++ (noise ++ result)) := by
        simp
      rw [← List.append_assoc, words_eq]
      have size : (all [Form.arithmetic, expect "CHARACTERS"]).Accepts inner
          (word :: more ++ ["CHARACTERS"]) (noise ++ result ++ rest) := by
        apply Accepts.cons _ (.last (accepts_expect _) accepts_nil)
        intro start
        apply Analysis.accepts_arithmetic arithmetic
        rw [List.singleton_append, roleAt_cons_zero role?_characters]
        exact .inl rfl
      apply Accepts.one (accepts_expect _)
      apply Accepts.absent
      · apply accepts_whenever_absent
        simpa using on_itemAhead_eq_false further (noise ++ result ++ rest)
      · apply Accepts.cons _ (accepts_afterSize optional item follows)
        exact size.held (on_has operand _)

/-- Of a size that begins with a sign or a parenthesis nothing is read. -/
theorem accepts_allocate_of_marked (marked : Begins ("(" :: signs) words) :
    allocate.Accepts inner ["ALLOCATE"] words := by
  have none {categories : List Category}
      (within : ∀ category ∈ categories, category ∈ operandCategories) :
      (Test.has categories).on words = false :=
    marked.on_has_eq_false (by decide) within
  apply Accepts.one (accepts_expect _)
  apply Accepts.absent
  · apply accepts_whenever_absent
    rw [Test.on, Test.identifier, List.nil_append, none (by decide), Bool.false_and]
  · apply Accepts.absent
    · exact accepts_whenever_absent (none (by decide))
    · apply Accepts.absent
      · exact accepts_optional_absent (marked.on_is_eq_false (by decide))
      · exact .last (accepts_whenever_absent (marked.on_is_eq_false (by decide))) accepts_nil

end Form

namespace Analysis

variable {expression rest : List String}

/-- A statement without conditional phrases that has an expression is accepted, whatever
arithmetic expression that is. -/
theorem accepts_statementWith (arithmetic : Arithmetic true expression) (inner : Analysis Unit)
    (start : SourceUnit × SymbolTable) {ends words : List String}
    (statement : StatementWith expression ends words) (follows : Begins ends rest) :
    Accepts start (Analysis.statement inner) words rest := by
  cases statement with
  | unclosed begins =>
      have ended : Begins followers rest :=
        (follows.mono fun _ listed => (List.mem_filter.mp listed).1).mono (by decide)
      obtain ⟨keyword, more, rfl, -, leads⟩ :=
        Form.leads_head inner (begins.head arithmetic) ended
      have accepts := leads.accepts (Form.accepts_conditional_absent follows)
      rw [List.append_nil] at accepts
      exact accepts_statement accepts
  | @closed phrase marker words begins =>
      have head := begins.head arithmetic
      have ended : Begins followers ([marker] ++ rest) :=
        (begins_cons head.marker_mem rest).mono (by decide)
      have closing : (Form.conditional phrase marker).Accepts inner ([] ++ [marker]) rest := by
        apply Form.accepts_conditional
        intro start
        have marked : Begins phraseEnds (marker :: rest) :=
          (begins_cons head.marker_mem rest).mono (by decide)
        exact (Form.reads_phrasesFrom_nil marked).mono fun _ _ ends => ends.2
      obtain ⟨keyword, more, rfl, -, leads⟩ := Form.leads_head inner head ended
      exact accepts_statement (leads.accepts closing)
  | continueAfter => exact accepts_statement (Form.accepts_continueAfter arithmetic)

/-- Every arithmetic expression is accepted in its place in every statement that has one.
Only the size in an ALLOCATE statement must begin with an identifier or a numeric literal.
Where it does not, the statement ends before it. -/
theorem accepts_places (arithmetic : Arithmetic true expression) (inner : Analysis Unit)
    (start : SourceUnit × SymbolTable) (rest : List String) :
    (∀ ends words, StatementWith expression ends words → Begins ends rest →
      Accepts start (statement inner) words rest) ∧
    (∀ ending, AfterSize ending → Begins followers rest →
      if (Test.has [.identifier, .numeric]).on expression then
        Accepts start (statement inner) ("ALLOCATE" :: expression ++ ending) rest
      else Accepts start (statement inner) ["ALLOCATE"] (expression ++ ending ++ rest)) := by
  constructor
  · intro ends words statement follows
    exact accepts_statementWith arithmetic inner start statement follows
  · intro ending after follows
    rcases arithmetic.begins with ⟨word, more, rfl, operand, further⟩ | marked
    · rw [if_pos (on_has operand more)]
      exact accepts_statement (Form.accepts_allocate arithmetic operand further after follows)
    · have none : (Test.has [.identifier, .numeric]).on expression = false :=
        marked.on_has_eq_false (by decide) (by decide)
      rw [none, if_neg Bool.false_ne_true]
      exact accepts_statement (Form.accepts_allocate_of_marked ((marked.append _).append _))

/-- The sum in a COMPUTE statement may begin with a sign, and one that is allocated with an
operand. -/
theorem accepts_places_computed :
    Accepts ({}, .empty) (statement (nestedStatements 1)) ["COMPUTE", "X", "=", "-", "A"] ["."] ∧
      Accepts ({}, .empty) (statement (nestedStatements 1)) ["ALLOCATE", "8", "CHARACTERS"]
        ["."] := by
  have target : Operands [.identifier] ["X"] := ⟨by decide, by decide +kernel⟩
  have negative : Arithmetic true ["-", "A"] := .sign (by decide) (.operand (by decide +kernel))
  have eight : Arithmetic true ["8"] := .unsigned (.operand (by decide +kernel))
  have begins : Begins followers ["."] := begins_cons (by decide) []
  have ended : Begins (phraseEnds.filter (· ≠ "END-COMPUTE")) ["."] := begins_cons (by decide) []
  have allocated := (accepts_places eight (nestedStatements 1) ({}, .empty) ["."]).2 _
    (.characters List.mem_cons_self (.inl rfl)) begins
  rw [if_pos (by decide +kernel)] at allocated
  exact ⟨(accepts_places negative _ _ _).1 _ _ (.unclosed (.compute target)) ended, allocated⟩

/-- A size in parentheses is an arithmetic expression, but it is not accepted: the period
is missing before it. -/
theorem reported_allocate_group :
    Arithmetic true ["(", "A", ")"] ∧ AfterSize ["CHARACTERS"] ∧
      (sentences maxNesting
        (.initial (Source.tokenize "ALLOCATE (A) CHARACTERS.") .empty)).2.reports.map
          (fun report => (report.token.value, report.cause)) = [("(", .expectedLiteral ".")] :=
  ⟨.unsigned (.group (.unsigned (.operand (by decide +kernel)))),
    .characters List.mem_cons_self (.inl rfl), by decide +kernel⟩

end Analysis

end CobolCheck
