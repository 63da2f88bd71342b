import CobolCheck.Proofs.Statement.Heads

/-!
# Reading nested statements

Statements, nested sequences and conditional phrases of the grammar are read by
one induction on how they are nested. A sequence ends before the word of the
statement around it, and the phrases of a statement end before its END marker.

What is read may have any condition in an IF statement that is accepted in full:
`Fragment` is the grammar with such conditions.
-/

namespace CobolCheck

open Analysis

namespace Grammar

/-! ## First words -/

variable {phrase : Phrase} {polarity : Polarity} {depth : Nat} {marker : String}
  {words more rest : List String}

/-- The words that begin a conditional phrase. -/
def phraseWords : List String :=
  ["ON", "SIZE", "INVALID", "EXCEPTION", "AT", "END", "NOT"]

/-- The END markers of the statements that may have conditional phrases. -/
def endMarkers : List String :=
  ["END-COMPUTE", "END-ADD", "END-SUBTRACT", "END-MULTIPLY", "END-DIVIDE", "END-DELETE",
   "END-REWRITE", "END-RETURN"]

/-- The words before which a statement has no further conditional phrase. -/
def phraseEnds : List String :=
  ["ELSE", "END-IF", "."] ++ endMarkers ++ Word.statementWords

theorem Head.marker_mem (begins : Head phrase marker words) : marker ∈ endMarkers := by
  cases begins <;> decide

theorem Head.begins (begins : Head phrase marker words) : Begins Word.statementWords words := by
  cases begins <;> exact begins_cons (by decide) _

theorem Simple.begins (simple : Simple words) : Begins Word.statementWords words := by
  cases simple <;> exact begins_cons (by decide) _

/-- Whether words are accepted in full as the condition of an IF statement. -/
def IsCondition (words : List String) : Prop :=
  ∀ start rest, (conditionEnd "THEN").on rest = true →
    Accepts start (condition "THEN") words rest

/-- The words of a part, with sequences nested in it down to a depth, where the
condition of an IF statement is any that is accepted. -/
inductive Fragment : (depth : Nat) → Part → List String → Prop
  | simple {depth : Nat} {words : List String} (statement : Simple words) :
      Fragment depth .statement words
  | conditional {depth : Nat} {phrase : Phrase} {marker : String} {head phrases : List String}
      (begins : Head phrase marker head)
      (conditions : Fragment depth (.phrases phrase {}) phrases) :
      Fragment depth .statement (head ++ phrases ++ [marker])
  | choice {depth : Nat} {condition noise yes : List String} (test : IsCondition condition)
      (optional : noise ∈ [[], ["THEN"]]) (first : Fragment depth .sequence yes) :
      Fragment depth .statement ("IF" :: condition ++ noise ++ yes ++ ["END-IF"])
  | alternative {depth : Nat} {condition noise yes no : List String} (test : IsCondition condition)
      (optional : noise ∈ [[], ["THEN"]]) (first : Fragment depth .sequence yes)
      (second : Fragment depth .sequence no) :
      Fragment depth .statement ("IF" :: condition ++ noise ++ yes ++ "ELSE" :: no ++ ["END-IF"])
  | nil {depth : Nat} : Fragment (depth + 1) .sequence []
  | cons {depth : Nat} {first more : List String} (statement : Fragment depth .statement first)
      (others : Fragment (depth + 1) .sequence more) :
      Fragment (depth + 1) .sequence (first ++ more)
  | finished {depth : Nat} {phrase : Phrase} {seen : SeenForms} :
      Fragment depth (.phrases phrase seen) []
  | phrase {depth : Nat} {phrase : Phrase} {seen : SeenForms} {polarity : Polarity}
      {introduction body more : List String} (new : seen.has polarity = false)
      (introduces : introduction ∈ introductions phrase polarity)
      (sequence : Fragment depth .sequence body)
      (others : Fragment depth (.phrases phrase (seen.insert polarity)) more) :
      Fragment depth (.phrases phrase seen) (introduction ++ body ++ more)

theorem isCondition_of_condition (test : Condition words) : IsCondition words :=
  fun _ _ ended => accepts_condition test ended

theorem Nested.fragment {part : Part} (nested : Nested depth part words) :
    Fragment depth part words := by
  induction nested with
  | simple statement => exact .simple statement
  | conditional begins _ ih => exact .conditional begins ih
  | choice test optional _ ih => exact .choice (isCondition_of_condition test) optional ih
  | alternative test optional _ _ ihFirst ihSecond =>
      exact .alternative (isCondition_of_condition test) optional ihFirst ihSecond
  | nil => exact .nil
  | cons _ _ ihFirst ihOthers => exact .cons ihFirst ihOthers
  | finished => exact .finished
  | phrase new introduces _ _ ihSequence ihOthers =>
      exact .phrase new introduces ihSequence ihOthers

/-- A statement begins with a word that begins statements. -/
theorem Fragment.begins_statement (statement : Fragment depth .statement words) :
    Begins Word.statementWords words := by
  cases statement with
  | simple simple => exact simple.begins
  | conditional head =>
      rw [List.append_assoc]
      exact head.begins.append _
  | choice => exact begins_cons (by decide) _
  | alternative => exact begins_cons (by decide) _

theorem Fragment.begins_sequence (sequence : Fragment depth .sequence words) :
    words = [] ∨ Begins Word.statementWords words := by
  cases sequence with
  | nil => exact .inl rfl
  | cons statement => exact .inr (statement.begins_statement.append _)

theorem begins_introduction {introduction : List String}
    (introduces : introduction ∈ introductions phrase polarity) :
    Begins phraseWords introduction := by
  revert introduction
  cases phrase <;> cases polarity <;> simp [introductions, positives, Begins, phraseWords]

theorem Fragment.begins_phrases {seen : SeenForms}
    (phrases : Fragment depth (.phrases phrase seen) words) :
    words = [] ∨ Begins phraseWords words := by
  cases phrases with
  | finished => exact .inl rfl
  | phrase _ introduces =>
      rw [List.append_assoc]
      exact .inr ((begins_introduction introduces).append _)

/-! ## Conditional phrases -/

/-- A form of a pair is recognized by its introduction, and the positive one only by its own. -/
theorem on_ahead {introduction : List String}
    (introduces : introduction ∈ introductions phrase polarity)
    (follows : Begins (Word.statementWords ++ closers) more) :
    (phrase.ahead polarity).on (introduction ++ more) = true ∧
      (polarity = .negative → (phrase.ahead .positive).on (introduction ++ more) = false) := by
  have program : textAt more 0 ≠ "PROGRAM" := follows.textAt_ne (by decide)
  have function : textAt more 0 ≠ "FUNCTION" := follows.textAt_ne (by decide)
  revert introduction
  cases phrase <;> cases polarity <;>
    simp [introductions, positives, Phrase.ahead, Phrase.positiveAt, Test.on, Test.is, program,
      function]

/-- No form of a pair begins where a statement ends. -/
theorem on_ahead_eq_false (follows : Begins phraseEnds rest) (phrase : Phrase)
    (polarity : Polarity) : (phrase.ahead polarity).on rest = false := by
  have other : textAt rest 0 ∉ phraseWords ++ ["RAISING", "WITH", "NORMAL", "ERROR"] :=
    follows.textAt_notMem (by decide)
  simp only [phraseWords, List.mem_append, List.mem_cons, not_or] at other
  cases phrase <;> cases polarity <;>
    simp [Phrase.ahead, Phrase.positiveAt, Test.on, Test.is, Test.isAny, other]

end Grammar

open Grammar

namespace Form

variable {phrase : Phrase} {polarity : Polarity} {inner : Analysis Unit}
  {marker : String} {introduced words body rest : List String}
  {start : SourceUnit × SymbolTable}

/-- The form of a conditional phrase. -/
def phraseForm (phrase : Phrase) : Polarity → Form
  | .positive => all [introduction phrase, nested]
  | .negative => all [expect "NOT", introduction phrase, nested]

theorem accepts_introduction (introduces : introduced ∈ positives phrase)
    (follows : Begins (Word.statementWords ++ closers) rest) :
    (introduction phrase).Accepts inner introduced rest := by
  have key : (Test.is "KEY").on rest = false := follows.on_is_eq_false (by decide)
  cases phrase with
  | sizeError =>
      rcases (by simpa [positives] using introduces :
          introduced = ["SIZE", "ERROR"] ∨ introduced = ["ON", "SIZE", "ERROR"]) with rfl | rfl
      · apply Accepts.absent (accepts_optional_absent (on_is_eq_false (by simp)))
        exact .one (accepts_expect _) (.last (accepts_expect _) accepts_nil)
      · apply Accepts.one (accepts_optional _)
        exact .one (accepts_expect _) (.last (accepts_expect _) accepts_nil)
  | invalidKey =>
      rcases (by simpa [positives] using introduces :
          introduced = ["INVALID"] ∨ introduced = ["INVALID", "KEY"]) with rfl | rfl
      · apply Accepts.one (accepts_expect _)
        exact .last (accepts_optional_absent key) accepts_nil
      · apply Accepts.one (accepts_expect _)
        exact .last (accepts_optional _) accepts_nil
  | onException =>
      rcases (by simpa [positives] using introduces :
          introduced = ["EXCEPTION"] ∨ introduced = ["ON", "EXCEPTION"]) with rfl | rfl
      · apply Accepts.absent (accepts_optional_absent (on_is_eq_false (by simp)))
        exact .last (accepts_expect _) accepts_nil
      · exact .one (accepts_optional _) (.last (accepts_expect _) accepts_nil)
  | atEnd =>
      rcases (by simpa [positives] using introduces :
          introduced = ["END"] ∨ introduced = ["AT", "END"]) with rfl | rfl
      · apply Accepts.absent (accepts_optional_absent (on_is_eq_false (by simp)))
        exact .last (accepts_expect _) accepts_nil
      · exact .one (accepts_optional _) (.last (accepts_expect _) accepts_nil)
  | raisingStatus => cases introduces

/-- A conditional phrase is accepted with the statements in it. -/
theorem accepts_phraseForm (introduces : introduced ∈ introductions phrase polarity)
    (follows : Begins (Word.statementWords ++ closers) (body ++ rest))
    (sequence : ∀ start, Analysis.Accepts start inner body rest) :
    (phraseForm phrase polarity).Accepts inner (introduced ++ body) rest := by
  cases polarity with
  | positive =>
      apply Accepts.cons (accepts_introduction introduces follows)
      exact .last sequence accepts_nil
  | negative =>
      obtain ⟨positive, listed, rfl⟩ := List.mem_map.mp introduces
      apply Accepts.one (accepts_expect _)
      apply Accepts.cons (accepts_introduction listed follows)
      exact .last sequence accepts_nil

/-- Reads conditional phrases after those already seen. -/
def phrasesFrom (phrase : Phrase) (inner : Analysis Unit) (seen : SeenForms) :
    Analysis SeenForms :=
  loop (phraseRound phrase fun polarity => (phraseForm phrase polarity).run inner) seen

theorem run_conditional (phrase : Phrase) (marker : String) (inner : Analysis Unit) :
    (conditional phrase marker).run inner =
      phrasesFrom phrase inner {} >>= fun seen =>
        endMarker (seen.positive || seen.negative) marker := by
  have forms : (fun
      | .positive => (phraseForm phrase .positive).run inner
      | .negative => (phraseForm phrase .negative).run inner) =
        fun polarity => (phraseForm phrase polarity).run inner := by
    funext polarity
    cases polarity <;> rfl
  rw [phrasesFrom, ← forms]
  rfl

/-- One phrase is read. If the statement already has that form, this is reported where the
phrase begins, and the phrase is read all the same. -/
theorem exists_run_phraseRound (seen : SeenForms)
    (introduces : introduced ∈ introductions phrase polarity)
    (follows : Begins (Word.statementWords ++ closers) (body ++ rest))
    (sequence : ∀ start, Analysis.Accepts start inner body rest) {state : State}
    (ahead : state.Ahead (introduced ++ body ++ rest)) :
    ∃ after,
      phraseRound phrase (fun polarity => (phraseForm phrase polarity).run inner) seen state =
        (some (seen.insert polarity), after) ∧
      State.Passed (introduced ++ body).length
        (if seen.has polarity then
          state.report state.current (.general (.repeatedPhrase phrase polarity)) else state)
        after ∧
      after.declared = state.declared := by
  have found : phraseAhead phrase state = (some polarity, state) := by
    rw [List.append_assoc] at ahead
    obtain ⟨yes, other⟩ := on_ahead introduces follows
    rw [run_phraseAhead, ahead.holds_eq, ahead.holds_eq]
    cases polarity with
    | positive => rw [yes, if_pos rfl]
    | negative => rw [other rfl, yes, if_neg Bool.false_ne_true, if_pos rfl]
  have accepts := accepts_phraseForm introduces follows sequence
  rw [phraseRound, run_bind, found]
  dsimp only
  cases seen.has polarity with
  | false =>
      obtain ⟨declared, passed⟩ := accepts state.declared state ahead rfl
      exact ⟨_, rfl, passed, declared⟩
  | true =>
      obtain ⟨declared, passed⟩ := accepts state.declared
        (state.report state.current (.general (.repeatedPhrase phrase polarity)))
        ⟨ahead.exists_tokens, ahead.sentinel⟩ rfl
      exact ⟨_, rfl, passed, declared⟩

/-- One phrase that the statement does not have yet is read. -/
theorem reads_phraseRound {seen : SeenForms} (new : seen.has polarity = false)
    (introduces : introduced ∈ introductions phrase polarity)
    (follows : Begins (Word.statementWords ++ closers) (body ++ rest))
    (sequence : ∀ start, Analysis.Accepts start inner body rest) :
    Reads start (phraseRound phrase (fun polarity => (phraseForm phrase polarity).run inner) seen)
      (introduced ++ body) rest
      fun answer declared =>
        ∃ next, answer = some next ∧ next = seen.insert polarity ∧ declared = start := by
  rintro state ahead rfl
  obtain ⟨after, ran, passed, declared⟩ :=
    exists_run_phraseRound seen introduces follows sequence ahead
  rw [new, if_neg Bool.false_ne_true] at passed
  rw [ran]
  exact ⟨⟨_, rfl, rfl, declared⟩, passed⟩

theorem reads_phrasesFrom_nil {seen : SeenForms} (follows : Begins phraseEnds rest) :
    Reads start (phrasesFrom phrase inner seen) [] rest
      fun last declared => last = seen ∧ declared = start := by
  have ahead : Reads start (phraseAhead phrase) [] rest
      fun answer declared => answer = none ∧ declared = start := by
    apply Reads.refused
    · exact on_ahead_eq_false follows phrase .positive
    · apply Reads.refused
      · exact on_ahead_eq_false follows phrase .negative
      · exact .pure ⟨rfl, rfl⟩
  apply Reads.loop_none
  apply Reads.bind_nil ahead
  rintro _ _ ⟨rfl, rfl⟩
  exact .pure ⟨rfl, rfl, rfl⟩

/-- A statement is closed by its END marker. -/
theorem accepts_endMarker (required : Bool) (marker : String) :
    Analysis.Accepts start (endMarker required marker) [marker] rest := by
  apply Reads.bind_nil (reads_optional marker rest)
  rintro _ _ ⟨rfl, rfl⟩
  exact .pure rfl

theorem accepts_conditional
    (phrases : ∀ start, Reads start (phrasesFrom phrase inner {}) words (marker :: rest)
      fun _ declared => declared = start) :
    (conditional phrase marker).Accepts inner (words ++ [marker]) rest := by
  intro start
  rw [run_conditional]
  apply Reads.bind (phrases start)
  rintro seen _ rfl
  exact accepts_endMarker _ marker

/-- A statement without phrases may end without its END marker. -/
theorem accepts_conditional_absent (follows : Begins (phraseEnds.filter (· ≠ marker)) rest) :
    (conditional phrase marker).Accepts inner [] rest := by
  intro start
  have ends : Begins phraseEnds rest := follows.mono fun _ listed => (List.mem_filter.mp listed).1
  have differs : textAt rest 0 ≠ marker := follows.textAt_ne (by simp)
  rw [run_conditional]
  apply Reads.bind_nil (reads_phrasesFrom_nil ends)
  rintro _ _ ⟨rfl, rfl⟩
  apply Reads.bind_nil (reads_optional_absent differs)
  rintro _ _ ⟨rfl, rfl⟩
  exact .pure rfl

/-! ## Branches -/

/-- The statements of a branch are accepted. -/
theorem accepts_branchBody (sequence : ∀ start, Analysis.Accepts start inner body rest)
    (follows : Begins (Word.statementWords ++ closers) (body ++ rest)) :
    branchBody.Accepts inner body rest := by
  have other : Test.nextSentence.on (body ++ rest) = false := by
    rw [Test.nextSentence, Test.on, follows.on_is_eq_false (by decide), Bool.false_and]
  apply Accepts.absent (accepts_whenever_absent other)
  exact .last sequence accepts_nil

theorem on_conditionEnd
    (follows : Begins (["THEN", "ELSE", "END-IF"] ++ Word.statementWords) rest) :
    (conditionEnd "THEN").on rest = true := by
  obtain ⟨word, listed, more, rfl⟩ := follows
  rcases List.mem_append.mp listed with ends | statement
  · have known : ∀ word ∈ ["THEN", "ELSE", "END-IF"],
        word ∈ ["THEN", ".", "ELSE", "END-IF"] := by
      decide
    have found : (Test.isAny ["THEN", ".", "ELSE", "END-IF"]).on (word :: more) = true := by
      simpa [Test.isAny, Test.on] using known word ends
    rw [conditionEnd, Test.on, found, Bool.true_or]
  · simp [conditionEnd, Test.on, Test.statement, roleAt_cons_zero
      (role?_statementWord word statement)]

/-- An IF statement is accepted if its branches are. -/
theorem accepts_ifElse {condition noise yes no : List String} (test : IsCondition condition)
    (optional : noise ∈ [[], ["THEN"]])
    (first : branchBody.Accepts inner yes (no ++ "END-IF" :: rest))
    (begins : Begins (["ELSE", "END-IF"] ++ Word.statementWords) (yes ++ (no ++ ["END-IF"])))
    (second : (optionally "ELSE" [branchBody]).Accepts inner no ("END-IF" :: rest)) :
    ifElse.Accepts inner ("IF" :: condition ++ noise ++ yes ++ no ++ ["END-IF"]) rest := by
  have words_eq : "IF" :: condition ++ noise ++ yes ++ no ++ ["END-IF"] =
      "IF" :: (condition ++ (noise ++ (yes ++ (no ++ ["END-IF"])))) := by
    simp
  have noise_begins : noise = [] ∨ Begins ["THEN"] noise := by
    rcases (by simpa using optional : noise = [] ∨ noise = ["THEN"]) with rfl | rfl
    · exact .inl rfl
    · exact .inr (begins_cons (by decide) _)
  rw [words_eq]
  apply Accepts.one (accepts_expect _)
  apply Accepts.cons
  · intro start
    apply test
    apply on_conditionEnd
    exact (Begins.optional noise_begins begins).append rest
  · apply Accepts.cons (accepts_optional_of_mem optional _)
    · apply Accepts.cons
      · rw [List.append_assoc]
        exact first
      · apply Accepts.cons second
        exact .last ((accepts_accept _).held (on_is _ _)) accepts_nil
    · exact (begins.append rest).on_is_eq_false (by decide)

end Form

namespace Analysis

variable {keyword : String} {words more rest : List String} {start : SourceUnit × SymbolTable}
  {inner : Analysis Unit} {depth : Nat}

/-! ## Reading parts -/

theorem accepts_statement
    (accepts : (Form.ofKeyword keyword).Accepts inner (keyword :: more) rest) :
    Accepts start (statement inner) (keyword :: more) rest :=
  Reads.word_bind (accepts start)

/-- A sequence is read statement by statement. -/
theorem accepts_nestedStatements
    (statements : Accepts start (whilst .statement (statement (nestedStatements depth))) words
      rest) : Accepts start (nestedStatements (depth + 1)) words rest := by
  have enters : Accepts start enter [] (words ++ rest) := by
    intro state ahead begun
    exact ⟨begun, rfl, rfl, rfl, rfl⟩
  have leaves : Accepts start leave [] rest := by
    intro state ahead begun
    exact ⟨begun, rfl, rfl, rfl, rfl⟩
  rw [← List.nil_append words]
  apply enters.bind
  intro _
  apply Reads.bind_nil statements
  rintro _ _ rfl
  exact leaves

/-- What it means that a part is read: a sequence is read by the loop over its
statements, and phrases by the loop over those still to come. -/
def ReadsPart (depth : Nat) (words : List String) : Part → Prop
  | .statement => ∀ rest start, Begins followers rest →
      Accepts start (statement (nestedStatements depth)) words rest
  | .sequence => ∃ room, depth = room + 1 ∧ ∀ rest start, Begins closers rest →
      Accepts start (whilst .statement (statement (nestedStatements room))) words rest
  | .phrases phrase seen => ∀ rest start, Begins endMarkers rest →
      Reads start (Form.phrasesFrom phrase (nestedStatements depth) seen) words rest
        fun _ declared => declared = start

theorem ReadsPart.sequence (reads : ReadsPart depth words .sequence)
    (follows : Begins closers rest) (start : SourceUnit × SymbolTable) :
    Accepts start (nestedStatements depth) words rest := by
  obtain ⟨room, rfl, statements⟩ := reads
  exact accepts_nestedStatements (statements rest start follows)

theorem on_statement (begins : Begins Word.statementWords words) (more : List String) :
    Test.statement.on (words ++ more) = true := by
  obtain ⟨word, listed, front, rfl⟩ := begins
  simp [Test.statement, Test.on, roleAt_cons_zero (role?_statementWord word listed)]

theorem on_statement_eq_false (begins : Begins closers rest) : Test.statement.on rest = false := by
  obtain ⟨word, listed, front, rfl⟩ := begins
  simp [Test.statement, Test.on, roleAt_cons_zero (role?_closer word listed)]

theorem begins_append_of_sequence (sequence : Fragment depth .sequence words)
    (follows : Begins closers rest) :
    Begins (Word.statementWords ++ closers) (words ++ rest) :=
  .optional sequence.begins_sequence follows

/-- Every part is read before the words that may follow it. -/
theorem readsPart_of_fragment {part : Part} (fragment : Fragment depth part words) :
    ReadsPart depth words part := by
  induction fragment with
  | @simple depth words simple =>
      intro rest start follows
      obtain ⟨keyword, more, rfl, -, accepts⟩ := Form.accepts_simple simple follows
      exact accepts_statement accepts
  | @conditional depth phrase marker head phrases begins conditions ih =>
      intro rest start follows
      have marked : Begins endMarkers (marker :: rest) := begins_cons begins.marker_mem rest
      have accepted : (Form.conditional phrase marker).Accepts (nestedStatements depth)
          (phrases ++ [marker]) rest :=
        Form.accepts_conditional fun start => ih _ start marked
      have ends : Begins followers (phrases ++ [marker] ++ rest) := by
        rw [List.append_assoc]
        exact (Begins.optional conditions.begins_phrases marked).mono (by decide)
      obtain ⟨keyword, more, rfl, -, leads⟩ :=
        Form.leads_head (nestedStatements depth) begins ends
      have accepts := leads.accepts accepted
      rw [List.append_assoc]
      exact accepts_statement accepts
  | @choice depth condition noise yes test optional first ih =>
      intro rest start follows
      have ended : Begins closers ("END-IF" :: rest) := begins_cons (by decide) rest
      have accepts : Form.ifElse.Accepts (nestedStatements depth)
          ("IF" :: condition ++ noise ++ yes ++ [] ++ ["END-IF"]) rest := by
        apply Form.accepts_ifElse test optional
        · exact Form.accepts_branchBody (ih.sequence ended) (begins_append_of_sequence first ended)
        · have begins : Begins ["END-IF"] ["END-IF"] := begins_cons (by decide) []
          exact (Begins.optional first.begins_sequence begins).mono (by decide)
        · exact Form.accepts_whenever_absent (on_is_eq_false (by simp))
      rw [List.append_nil] at accepts
      exact accepts_statement accepts
  | @alternative depth condition noise yes no test optional first second ihFirst ihSecond =>
      intro rest start follows
      have otherwise : Begins closers ("ELSE" :: no ++ "END-IF" :: rest) :=
        begins_cons (by decide) _
      have ended : Begins closers ("END-IF" :: rest) := begins_cons (by decide) rest
      have accepts : Form.ifElse.Accepts (nestedStatements depth)
          ("IF" :: condition ++ noise ++ yes ++ "ELSE" :: no ++ ["END-IF"]) rest := by
        apply Form.accepts_ifElse test optional
        · exact Form.accepts_branchBody (ihFirst.sequence otherwise)
            (begins_append_of_sequence first otherwise)
        · have begins : Begins ["ELSE"] ("ELSE" :: no ++ ["END-IF"]) := begins_cons (by decide) _
          exact (Begins.optional first.begins_sequence begins).mono (by decide)
        · apply Form.Accepts.held _ (on_is _ _)
          apply Form.Accepts.one (Form.accepts_accept _)
          exact .last (Form.accepts_branchBody (ihSecond.sequence ended)
            (begins_append_of_sequence second ended)) Form.accepts_nil
      exact accepts_statement accepts
  | nil =>
      refine ⟨_, rfl, ?_⟩
      intro rest start follows
      exact accepts_whilst_nil _ (on_statement_eq_false follows)
  | @cons depth first more statement others ihFirst ihOthers =>
      refine ⟨depth, rfl, ?_⟩
      intro rest start follows
      obtain ⟨room, room_eq, statements⟩ := ihOthers
      obtain rfl : depth = room := Nat.succ.inj room_eq
      have begins := statement.begins_statement
      have nonempty : first ≠ [] := by
        obtain ⟨word, _, front, rfl⟩ := begins
        exact List.cons_ne_nil word front
      have continues : Begins followers (more ++ rest) :=
        (begins_append_of_sequence others follows).mono (by decide)
      exact Accepts.whilst_cons nonempty (on_statement begins _)
        (ihFirst _ start continues) (statements rest start follows)
  | finished =>
      intro rest start follows
      apply (Form.reads_phrasesFrom_nil (follows.mono (by decide))).mono
      exact fun _ _ ends => ends.2
  | @phrase depth phrase seen polarity introduction body more new introduces sequence others
      ihSequence ihOthers =>
      intro rest start follows
      have closes : Begins closers (more ++ rest) :=
        (Begins.optional others.begins_phrases follows).mono (by decide)
      have nonempty : introduction ++ body ≠ [] := by
        obtain ⟨word, _, front, rfl⟩ := begins_introduction introduces
        exact List.cons_ne_nil word (front ++ body)
      apply Reads.loop_some (fun next declared => next = seen.insert polarity ∧ declared = start)
        nonempty
      · exact Form.reads_phraseRound new introduces (begins_append_of_sequence sequence closes)
          (ihSequence.sequence closes)
      · rintro _ _ ⟨rfl, rfl⟩
        exact ihOthers rest _ follows

end Analysis

end CobolCheck
