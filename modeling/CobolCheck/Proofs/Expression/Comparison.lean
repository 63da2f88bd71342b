import CobolCheck.Proofs.Expression.Arithmetic

/-!
# Conditions made of comparisons

Comparisons of two operands, put together by AND, OR, NOT and parentheses. Every
such condition is read up to the word after it and is accepted.
-/

namespace CobolCheck

namespace Grammar

/-! ## Grammar -/

/-- The relational operators, without the words IS and NOT before them. -/
def relations : List (List String) :=
  [["="], ["<"], [">"], ["<="], [">="], ["<>"], ["EQUAL"], ["EQUAL", "TO"]] ++
    ["GREATER", "LESS"].flatMap fun word =>
      [[word], [word, "THAN"]].flatMap fun front =>
        [[], ["OR", "EQUAL"], ["OR", "EQUAL", "TO"]].map fun equal => front ++ equal

/-- The words of a condition. -/
inductive Condition : List String → Prop
  | comparison {left right : String} {noise negation relation : List String}
      (first : IsOperand operandCategories left) (is : noise ∈ [[], ["IS"]])
      (not : negation ∈ [[], ["NOT"]]) (known : relation ∈ relations)
      (second : IsOperand operandCategories right) :
      Condition (left :: noise ++ negation ++ relation ++ [right])
  | negation {words : List String} (inner : Condition words) : Condition ("NOT" :: words)
  | group {words : List String} (inner : Condition words) : Condition ("(" :: words ++ [")"])
  | connective {word : String} {left right : List String} (known : word ∈ ["AND", "OR"])
      (first : Condition left) (second : Condition right) : Condition (left ++ word :: right)

/-- A condition begins with a word that begins no relational operator. -/
theorem Condition.exists_cons {words : List String} (grammar : Condition words) :
    ∃ word front, words = word :: front ∧ word ∉ relationWords := by
  induction grammar with
  | comparison first =>
      exact ⟨_, _, rfl, first.notMem (fun _ => id) (by decide)⟩
  | negation => exact ⟨_, _, rfl, by decide⟩
  | group => exact ⟨_, _, rfl, by decide⟩
  | connective _ _ _ ihFirst =>
      obtain ⟨word, front, rfl, other⟩ := ihFirst
      exact ⟨_, _, rfl, other⟩

end Grammar

open Grammar

/-! ## Readings -/

/-- A relational operator is found up to the operand after it, in as many words as
a reading looks at. -/
theorem exists_relation?_eq_some {relation : List String} (known : relation ∈ relations)
    {stop : String} (other : stop ∉ relationWords) (more : List String) {count : Nat}
    (enough : count = 5 ∨ count = 6) :
    ∃ operator, relation? ((relation ++ stop :: more).take count) =
      some (operator, relation.length) := by
  simp only [relationWords, List.mem_cons, not_or] at other
  revert relation
  rcases enough with rfl | rfl
  · simp [relations, relation?, other]
  · simp [relations, relation?, other]

namespace Reading

variable {word : String}

/-- The words that begin a relational operator, and those that make no term. -/
def leadingWords : List String :=
  ["NOT", "IS", "THAN", "TO", ",", "=", "<", ">", "<=", ">=", "<>", "EQUAL", "GREATER", "LESS"]

/-- A word that begins no relational operator stands for itself. -/
theorem ofWords_of_notMem (afterOperand : Bool) (alone : word ∉ leadingWords)
    (following : List String) :
    ofWords afterOperand word following = ⟨some (.ofWord afterOperand word), word, 1⟩ := by
  simp only [leadingWords, List.mem_cons, not_or] at alone
  simp [ofWords, Role.isNoiseWord, relation?, alone]

theorem ofWords_operand (operand : IsOperand operandCategories word) (following : List String) :
    ofWords false word following = ⟨some .operand, word, 1⟩ := by
  have plain : word ∉ ["OR", "AND", "(", ")", "**", "*", "/", "+", "-"] :=
    operand.notMem (fun _ => id) (by decide)
  have alone : word ∉ leadingWords := operand.notMem (fun _ => id) (by decide)
  simp only [List.mem_cons, not_or] at plain
  rw [ofWords_of_notMem false alone]
  simp [Role.ofWord, plain]

/-- A relational operator is one term, also after NOT. -/
theorem exists_ofWords_relation {negation relation : List String}
    (not : negation ∈ [[], ["NOT"]]) (known : relation ∈ relations) {stop : String}
    (other : stop ∉ relationWords) (afterOperand : Bool) (more : List String) :
    ∃ word front text, negation ++ relation = word :: front ∧ word ∈ "NOT" :: relationWords ∧
      ofWords afterOperand word ((front ++ stop :: more).take 5) =
        ⟨some .relational, text, front.length + 1⟩ := by
  have nonempty : ∀ relation ∈ relations, ∃ word front, relation = word :: front ∧
      word ∉ ["NOT", "IS", "THAN", "TO", ","] ∧ word ∈ relationWords := by
    simp [relations, relationWords]
  obtain ⟨word, front, rfl, plain, begins⟩ := nonempty relation known
  have alone : negation = [] ∨ negation = ["NOT"] := by simpa using not
  rcases alone with rfl | rfl
  · obtain ⟨operator, found⟩ := exists_relation?_eq_some known other more (.inr rfl)
    refine ⟨word, front, operator, rfl, List.mem_cons_of_mem _ begins, ?_⟩
    rw [List.cons_append, List.take_succ_cons, List.length_cons] at found
    simp only [List.mem_cons, not_or] at plain
    simp [ofWords, Role.isNoiseWord, plain, found]
  · obtain ⟨operator, found⟩ := exists_relation?_eq_some known other more (.inl rfl)
    refine ⟨"NOT", word :: front, "NOT " ++ operator, rfl, List.mem_cons_self, ?_⟩
    rw [List.cons_append, List.take_succ_cons] at found
    simp [ofWords, Role.isNoiseWord, found]

/-- NOT stands for itself before a word that begins no relational operator. -/
theorem ofWords_not (other : word ∉ relationWords) (following : List String) :
    ofWords false "NOT" (word :: following) = ⟨some .negation, "NOT", 1⟩ := by
  simp only [relationWords, List.mem_cons, not_or] at other
  simp [ofWords, Role.isNoiseWord, relation?, other]

end Reading

/-! ## Terms -/

namespace Term

/-- The terms of an expression: they are read as one operand. -/
structure Complete (terms : List Term) : Prop where
  placed_append (rest : List Term) : placedFrom false (terms ++ rest) = placedFrom true rest
  balanced_append (depth : Nat) (rest : List Term) :
    balancedFrom depth (terms ++ rest) = balancedFrom depth rest
  endsOperand : ∃ last ∈ terms.getLast?, last.role.endsOperand = true

namespace Complete

variable {term other : Term} {left right terms : List Term}

theorem comparison {left relation right : Term} (first : left.role = .operand)
    (operator : relation.role = .relational) (second : right.role = .operand) :
    Complete [left, relation, right] where
  placed_append rest := by simp [placedFrom, first, operator, second, Role.relational]
  balanced_append depth rest := by
    simp [balancedFrom, first, operator, second, Role.relational]
  endsOperand := ⟨right, rfl, by rw [second]; rfl⟩

theorem negation (inner : Complete terms) (operator : term.role = .negation) :
    Complete (term :: terms) where
  placed_append rest := by
    simp [placedFrom, operator, Role.negation, inner.placed_append]
  balanced_append depth rest := by
    simp [balancedFrom, operator, Role.negation, inner.balanced_append]
  endsOperand := by
    obtain ⟨last, found, ends⟩ := inner.endsOperand
    exact ⟨last, by rw [List.getLast?_cons, found]; rfl, ends⟩

theorem group (inner : Complete terms) (opens : term.role = .opening)
    (closes : other.role = .closing) : Complete (term :: terms ++ [other]) where
  placed_append rest := by simp [placedFrom, opens, closes, inner.placed_append]
  balanced_append depth rest := by simp [balancedFrom, opens, closes, inner.balanced_append]
  endsOperand := ⟨other, List.getLast?_concat, by rw [closes]; rfl⟩

theorem connective (first : Complete left) (second : Complete right) {precedence : Nat}
    {rightAssociative : Bool} (operator : term.role = .binary precedence rightAssociative) :
    Complete (left ++ term :: right) where
  placed_append rest := by
    simp [placedFrom, operator, first.placed_append, second.placed_append]
  balanced_append depth rest := by
    simp [balancedFrom, operator, first.balanced_append, second.balanced_append]
  endsOperand := by
    obtain ⟨last, found, ends⟩ := second.endsOperand
    refine ⟨last, ?_, ends⟩
    rw [List.getLast?_append, List.getLast?_cons, found]
    rfl

end Complete

end Term

namespace Analysis

open Term

variable {α : Type} {start : SourceUnit × SymbolTable} {word text : String}
  {front read more rest : List String} {role : Option Role} {terms : List Term}

/-! ## Reading terms -/

theorem accepts_acceptMany (words rest : List String) :
    Accepts start (acceptMany words.length) words rest := by
  induction words with
  | nil => exact .pure ()
  | cons word words ih => exact .accept_bind ih

/-- A condition goes on at a word that neither ends it nor begins a statement. -/
theorem on_conditionEnd_eq_false {category : Category} {context : Context}
    (known : Source.role? word = some (category, context)) (inside : category ≠ .eof)
    (plain : context ≠ .statement) (other : word ∉ ["THEN", ".", "ELSE", "END-IF", "NEXT"])
    (rest : List String) : (conditionEnd "THEN").on (word :: rest) = false := by
  simp only [List.mem_cons, not_or] at other
  simp [conditionEnd, Test.on, Test.isAny, Test.eof, Test.has, Test.statement,
    Test.nextSentence, Test.is, roleAt_cons_zero known, inside, plain, other]

theorem Reads.reading_bind {afterOperand : Bool} {next : Reading → Analysis α}
    {ends : α → SourceUnit × SymbolTable → Prop}
    (reads : Reads start
      (next (.ofWords afterOperand word ((read ++ rest ++ ["EOF"]).take 5))) (word :: read) rest
      ends) :
    Reads start (reading afterOperand >>= next) (word :: read) rest ends := by
  intro state ahead begun
  have current_eq : state.current.value = word := ahead.current_value
  obtain ⟨front, line, column, ahead_eq, values_eq, -⟩ := ahead.exists_tokens
  have values : state.ahead.map Token.value = word :: (read ++ rest ++ ["EOF"]) := by
    rw [ahead_eq, List.map_append, values_eq]
    rfl
  have found : reading afterOperand state =
      (.ofWords afterOperand word ((read ++ rest ++ ["EOF"]).take 5), state) := by
    unfold reading
    rw [current_eq, List.map_take, List.map_drop, values]
    rfl
  rw [run_bind, found]
  exact reads state ahead begun

/-- Whether an operand ends at the latest of some terms. -/
def endsOperand (terms : List Term) : Bool :=
  (terms.head?.map fun term => term.role.endsOperand).getD false

/-- A term of a role, or none, has been read after other terms. -/
def Adds (role : Option Role) (terms after : List Term) : Prop :=
  ∃ token, after = (role.map fun role => Term.mk role token).toList ++ terms

/-- The next words of a condition are accepted, and make a term of a role or none. -/
def ReadsTerm (start : SourceUnit × SymbolTable) (terms : List Term) (words rest : List String)
    (role : Option Role) : Prop :=
  Reads start (readTerm "THEN" terms) words rest fun answer declared =>
    ∃ after, answer = some after ∧ Adds role terms after ∧ declared = start

theorem readsTerm_of_reading (goesOn : (conditionEnd "THEN").on (word :: (front ++ rest)) = false)
    (reading : Reading.ofWords (endsOperand terms) word ((front ++ rest ++ ["EOF"]).take 5) =
      ⟨role, text, front.length + 1⟩) :
    ReadsTerm start terms (word :: front) rest role := by
  apply Reads.refused goesOn
  apply Reads.current_bind
  intro first _ _
  apply Reads.reading_bind
  unfold endsOperand at reading
  rw [reading]
  rw [← List.append_nil (word :: front)]
  apply (accepts_acceptMany (word :: front) rest).bind
  intro _
  exact .pure ⟨_, rfl, ⟨_, rfl⟩, rfl⟩

theorem readsTerm_operand (operand : IsOperand operandCategories word)
    (begins : endsOperand terms = false) : ReadsTerm start terms [word] rest (some .operand) := by
  have other : word ∉ ["THEN", ".", "ELSE", "END-IF", "NEXT"] :=
    operand.notMem (fun _ => id) (by decide)
  have reading := Reading.ofWords_operand operand ((rest ++ ["EOF"]).take 5)
  obtain ⟨category, listed, known⟩ := operand
  have inside : category ≠ .eof := by
    rintro rfl
    exact absurd listed (by decide)
  apply readsTerm_of_reading (on_conditionEnd_eq_false known inside (by decide) other _)
  rw [begins]
  exact reading

/-- The words that conditions are put together with. -/
def conditionWords : List String :=
  "NOT" :: relationWords ++ ["IS", "AND", "(", ")"]

theorem readsTerm_word (listed : word ∈ conditionWords)
    (reading : Reading.ofWords (endsOperand terms) word ((front ++ rest ++ ["EOF"]).take 5) =
      ⟨role, text, front.length + 1⟩) :
    ReadsTerm start terms (word :: front) rest role := by
  apply readsTerm_of_reading _ reading
  have groups : ∀ word ∈ conditionWords,
      (word ∈ marks ∨ word ∈ closers ∨ word ∈ particles ∨ word ∈ Word.clauseWords) ∧
        word ∉ ["THEN", ".", "ELSE", "END-IF", "NEXT"] := by
    decide
  obtain ⟨mark | closer | particle | clause, other⟩ := groups word listed
  · exact on_conditionEnd_eq_false (role?_mark word mark) (by decide) (by decide) other _
  · exact on_conditionEnd_eq_false (role?_closer word closer) (by decide) (by decide) other _
  · exact on_conditionEnd_eq_false (role?_particle word particle) (by decide) (by decide) other _
  · exact on_conditionEnd_eq_false (role?_clauseWord word clause) (by decide) (by decide) other _

/-- A word that stands for itself is one term. -/
theorem readsTerm_alone {role : Role} (listed : word ∈ ["AND", "OR", "(", ")"])
    (role_eq : Role.ofWord (endsOperand terms) word = role) :
    ReadsTerm start terms [word] rest (some role) := by
  have groups : ∀ word ∈ ["AND", "OR", "(", ")"],
      word ∈ conditionWords ∧ word ∉ Reading.leadingWords := by
    decide
  obtain ⟨known, alone⟩ := groups word listed
  apply readsTerm_word known
  rw [Reading.ofWords_of_notMem _ alone, role_eq]
  rfl

theorem readsTerm_opening : ReadsTerm start terms ["("] rest (some .opening) :=
  readsTerm_alone (by decide) rfl

theorem readsTerm_closing : ReadsTerm start terms [")"] rest (some .closing) :=
  readsTerm_alone (by decide) rfl

section Loop

variable {words : List String} {ends : List Term → SourceUnit × SymbolTable → Prop}

/-- After one term a condition is read on. -/
theorem ReadsTerm.loop {role : Role}
    (one : ReadsTerm start terms (word :: words) (more ++ rest) (some role))
    (further : ∀ token,
      Reads start (Analysis.loop (readTerm "THEN") (⟨role, token⟩ :: terms)) more rest ends) :
    Reads start (Analysis.loop (readTerm "THEN") terms) (word :: words ++ more) rest ends := by
  apply Reads.loop_some (fun after declared => Adds (some role) terms after ∧ declared = start)
    (List.cons_ne_nil word words) one
  rintro _ _ ⟨⟨token, rfl⟩, rfl⟩
  exact further token

/-- After words that make no term a condition is read on. -/
theorem ReadsTerm.loop_noise
    (one : ReadsTerm start terms (word :: words) (more ++ rest) none)
    (further : Reads start (Analysis.loop (readTerm "THEN") terms) more rest ends) :
    Reads start (Analysis.loop (readTerm "THEN") terms) (word :: words ++ more) rest ends := by
  apply Reads.loop_some (fun after declared => Adds none terms after ∧ declared = start)
    (List.cons_ne_nil word words) one
  rintro _ _ ⟨⟨_, rfl⟩, rfl⟩
  exact further

end Loop

/-! ## Reading conditions -/

/-- A comparison is read as three terms. -/
theorem reads_loop_comparison {left right : String} {noise negation relation : List String}
    (first : IsOperand operandCategories left) (is : noise ∈ [[], ["IS"]])
    (not : negation ∈ [[], ["NOT"]]) (known : relation ∈ relations)
    (second : IsOperand operandCategories right)
    {ends : List Term → SourceUnit × SymbolTable → Prop} (begins : endsOperand terms = false)
    (further : ∀ added, Complete added →
      Reads start (loop (readTerm "THEN") (added.reverse ++ terms)) more rest ends) :
    Reads start (loop (readTerm "THEN") terms)
      (left :: noise ++ negation ++ relation ++ [right] ++ more) rest ends := by
  have other : right ∉ relationWords := second.notMem (fun _ => id) (by decide)
  have compared (token : Token) :
      Reads start (loop (readTerm "THEN") (⟨.operand, token⟩ :: terms))
        (negation ++ relation ++ right :: more) rest ends := by
    obtain ⟨word, front, text, words_eq, listed, reading⟩ :=
      Reading.exists_ofWords_relation not known other true (more ++ rest ++ ["EOF"])
    rw [words_eq]
    have read : ReadsTerm start (⟨.operand, token⟩ :: terms) (word :: front)
        (right :: more ++ rest) (some .relational) := by
      apply readsTerm_word (List.mem_append_left _ listed)
      rw [List.append_assoc]
      exact reading
    apply read.loop
    intro operator
    apply (readsTerm_operand second rfl).loop
    intro last
    exact further [⟨.operand, token⟩, ⟨.relational, operator⟩, ⟨.operand, last⟩]
      (.comparison rfl rfl rfl)
  have bare : noise = [] ∨ noise = ["IS"] := by simpa using is
  have words_eq : left :: noise ++ negation ++ relation ++ [right] ++ more =
      left :: (noise ++ (negation ++ relation ++ right :: more)) := by
    simp
  rw [words_eq]
  apply (readsTerm_operand first begins).loop
  intro token
  rcases bare with rfl | rfl
  · exact compared token
  · have ignored : ReadsTerm start (⟨.operand, token⟩ :: terms) ["IS"]
        (negation ++ relation ++ right :: more ++ rest) none := by
      apply readsTerm_word (by decide)
      rfl
    exact ignored.loop_noise (compared token)

/-- A condition is read as one operand. -/
theorem reads_loop_condition {words : List String} (grammar : Condition words)
    {ends : List Term → SourceUnit × SymbolTable → Prop} (begins : endsOperand terms = false)
    (further : ∀ added, Complete added →
      Reads start (loop (readTerm "THEN") (added.reverse ++ terms)) more rest ends) :
    Reads start (loop (readTerm "THEN") terms) (words ++ more) rest ends := by
  induction grammar generalizing terms more with
  | comparison first is not known second =>
      exact reads_loop_comparison first is not known second begins further
  | @negation words inner ih =>
      obtain ⟨word, front, rfl, other⟩ := inner.exists_cons
      have read : ReadsTerm start terms ["NOT"] (word :: front ++ more ++ rest)
          (some .negation) := by
        apply readsTerm_word (by decide)
        rw [begins]
        exact Reading.ofWords_not other _
      apply read.loop
      intro token
      apply ih rfl
      intro added complete
      have whole := further (⟨.negation, token⟩ :: added) (complete.negation rfl)
      rw [List.reverse_cons, List.append_assoc] at whole
      exact whole
  | group inner ih =>
      rw [List.append_assoc]
      apply readsTerm_opening.loop
      intro opening
      apply ih rfl
      intro added complete
      apply readsTerm_closing.loop
      intro closing
      have whole := further (⟨.opening, opening⟩ :: added ++ [⟨.closing, closing⟩])
        (complete.group rfl rfl)
      simpa only [List.reverse_append, List.reverse_cons, List.append_assoc, List.reverse_nil,
        List.nil_append, List.cons_append] using whole
  | @connective word left right known first second ihFirst ihSecond =>
      have operator : ∃ precedence, ∀ afterOperand,
          Role.ofWord afterOperand word = .binary precedence false := by
        rcases (by simpa using known : word = "AND" ∨ word = "OR") with rfl | rfl
        · exact ⟨1, fun _ => rfl⟩
        · exact ⟨0, fun _ => rfl⟩
      obtain ⟨precedence, role_eq⟩ := operator
      have listed : ∀ word ∈ ["AND", "OR"], word ∈ ["AND", "OR", "(", ")"] := by
        decide
      rw [List.append_assoc]
      apply ihFirst begins
      intro before complete
      apply (readsTerm_alone (listed word known) (role_eq _)).loop
      intro token
      apply ihSecond rfl
      intro added completed
      have whole := further (before ++ ⟨.binary precedence false, token⟩ :: added)
        (complete.connective completed rfl)
      simpa only [List.reverse_append, List.reverse_cons, List.append_assoc, List.reverse_nil,
        List.nil_append, List.cons_append] using whole

/-- A condition ends before every word that ends it. -/
theorem reads_loop_condition_end (ended : (conditionEnd "THEN").on rest = true) :
    Reads start (loop (readTerm "THEN") terms) [] rest
      fun after declared => after = terms ∧ declared = start := by
  apply Reads.loop_none
  apply Reads.held
  · exact ended
  · exact .pure ⟨rfl, rfl, rfl⟩

theorem judgeCondition_eq_pure {first : Token} (complete : Complete terms) :
    judgeCondition first terms = pure () := by
  have stands : placed terms = true := by
    have placed := complete.placed_append []
    rwa [List.append_nil] at placed
  have matched : balanced terms = true := by
    have balanced := complete.balanced_append 0 []
    rwa [List.append_nil] at balanced
  have nonempty : terms.isEmpty = false := by
    cases terms with
    | nil => cases stands
    | cons => rfl
  simp [judgeCondition, nonempty, matched, fault?_postorder_of_placed stands]

/-- The terms of a condition are complete where the condition ends. -/
theorem reads_conditionTerms {words : List String} (grammar : Condition words)
    (ended : (conditionEnd "THEN").on rest = true) :
    Reads start (conditionTerms "THEN") words rest
      fun terms declared => Complete terms ∧ declared = start := by
  have collected : Reads start (loop (readTerm "THEN") []) (words ++ []) rest
      fun after declared => Complete after.reverse ∧ declared = start := by
    apply reads_loop_condition grammar rfl
    intro added complete
    apply (reads_loop_condition_end ended).mono
    rintro _ _ ⟨rfl, rfl⟩
    rw [List.append_nil, List.reverse_reverse]
    exact ⟨complete, rfl⟩
  rw [List.append_nil] at collected
  apply Reads.bind_nil collected
  intro after declared holds
  exact .pure holds

/-- Every condition made of comparisons is accepted before a word that ends it. -/
theorem accepts_condition {words : List String} (grammar : Condition words)
    (ended : (conditionEnd "THEN").on rest = true) :
    Accepts start (condition "THEN") words rest := by
  apply Reads.current_bind
  intro first _ _
  apply Reads.bind_nil (reads_conditionTerms grammar ended)
  rintro terms _ ⟨complete, rfl⟩
  rw [judgeCondition_eq_pure complete]
  exact .pure rfl

end Analysis

end CobolCheck
