import Mathlib.Data.Finset.Card
import Mathlib.Data.Finset.Dedup
import CobolCheck.Proofs.Statement.Nested

/-!
# Repeated conditional phrases

A statement may have each form of its pair of conditional phrases once. A form that
occurs again is reported where the phrase begins, and is read all the same. So of any
number of phrases, in any order, those that are reported are the ones whose form
occurred before, and nothing else is: `noted_statement` says this of every statement
that may have conditional phrases.
-/

namespace CobolCheck

open Analysis Grammar

/-! ## Occurrences -/

namespace Grammar

/-- A conditional phrase of a statement: its form, the words that introduce it, and the
statements in it. -/
structure Occurrence where
  polarity : Polarity
  introduction : List String
  body : List String

namespace Occurrence

/-- All words of a phrase. -/
def words (occurrence : Occurrence) : List String :=
  occurrence.introduction ++ occurrence.body

/-- The words of several phrases. -/
def allWords (occurrences : List Occurrence) : List String :=
  occurrences.flatMap words

/-- Whether a phrase is one of a pair, with sequences nested in it down to a depth. -/
structure Fits (phrase : Phrase) (depth : Nat) (occurrence : Occurrence) : Prop where
  introduces : occurrence.introduction ∈ introductions phrase occurrence.polarity
  sequence : Fragment depth .sequence occurrence.body

variable {phrase : Phrase} {depth : Nat} {occurrence : Occurrence}
  {occurrences : List Occurrence}

theorem Fits.begins (fits : occurrence.Fits phrase depth) : Begins phraseWords occurrence.words :=
  (begins_introduction fits.introduces).append _

theorem begins_allWords (fits : ∀ occurrence ∈ occurrences, occurrence.Fits phrase depth) :
    allWords occurrences = [] ∨ Begins phraseWords (allWords occurrences) := by
  cases occurrences with
  | nil => exact .inl rfl
  | cons occurrence more => exact .inr ((fits _ List.mem_cons_self).begins.append _)

end Occurrence

end Grammar

/-- The reports of the phrases whose form occurred before, in their order: each is at the
first word of its phrase. The first phrase is `offset` tokens ahead, and the forms in
`earlier` occurred before it. -/
def Phrase.repeats (phrase : Phrase) (state : State) :
    (offset : Nat) → (earlier : List Polarity) → List Occurrence → List Report
  | _, _, [] => []
  | offset, earlier, occurrence :: more =>
      (if occurrence.polarity ∈ earlier then
        [⟨state.lookahead offset, .general (.repeatedPhrase phrase occurrence.polarity)⟩]
      else []) ++
        phrase.repeats state (offset + occurrence.words.length)
          (occurrence.polarity :: earlier) more

/-- As many phrases are reported as there are more phrases than forms. -/
theorem Phrase.length_repeats (phrase : Phrase) (state : State) (offset : Nat)
    (earlier : List Polarity) (occurrences : List Occurrence) :
    (phrase.repeats state offset earlier occurrences).length +
        ((occurrences.map Occurrence.polarity).toFinset \ earlier.toFinset).card =
      occurrences.length := by
  induction occurrences generalizing offset earlier with
  | nil => simp [Phrase.repeats]
  | cons occurrence more ih =>
      have others := ih (offset + occurrence.words.length) (occurrence.polarity :: earlier)
      rw [List.toFinset_cons] at others
      rw [Phrase.repeats, List.length_append, List.length_cons, List.map_cons, List.toFinset_cons,
        ← others]
      by_cases known : occurrence.polarity ∈ earlier
      · have listed : occurrence.polarity ∈ earlier.toFinset := List.mem_toFinset.mpr known
        rw [if_pos known, Finset.insert_sdiff_of_mem _ listed, Finset.insert_eq_of_mem listed,
          List.length_singleton]
        omega
      · -- the form counts as a new one, whether or not it occurs again
        have new : occurrence.polarity ∉ earlier.toFinset := mt List.mem_toFinset.mp known
        have split_eq : insert occurrence.polarity (more.map Occurrence.polarity).toFinset \
            earlier.toFinset = insert occurrence.polarity
              ((more.map Occurrence.polarity).toFinset \
                insert occurrence.polarity earlier.toFinset) := by
          ext polarity
          by_cases same : polarity = occurrence.polarity
          · simp [same, new]
          · simp [same]
        rw [if_neg known, split_eq, Finset.card_insert_of_notMem (by simp), List.length_nil]
        omega

/-! ## Reading repeated phrases -/

namespace State

/-- A number of tokens have been accepted as they are, and some causes were reported. -/
structure Noted (count : Nat) (added : List Report) (before after : State) : Prop where
  ahead_eq : after.ahead = before.ahead.drop count
  output_eq : after.output = (before.ahead.take count).reverse ++ before.output
  reports_eq : after.reports = added.reverse ++ before.reports
  sentinel_eq : after.sentinel = before.sentinel
  declared_eq : after.declared = before.declared

variable {count more : Nat} {added others : List Report} {before middle after : State}

theorem Passed.noted (passed : Passed count before after)
    (declared : after.declared = before.declared) : Noted count [] before after where
  ahead_eq := passed.ahead_eq
  output_eq := passed.output_eq
  reports_eq := passed.reports_eq
  sentinel_eq := passed.sentinel_eq
  declared_eq := declared

/-- What is reported before tokens are accepted. -/
theorem Passed.noted_report {token : Token} {cause : Cause}
    (passed : Passed count (before.report token cause) after)
    (declared : after.declared = before.declared) : Noted count [⟨token, cause⟩] before after where
  ahead_eq := passed.ahead_eq
  output_eq := passed.output_eq
  reports_eq := passed.reports_eq
  sentinel_eq := passed.sentinel_eq
  declared_eq := declared

theorem Noted.trans (early : Noted count added before middle)
    (late : Noted more others middle after) :
    Noted (count + more) (added ++ others) before after where
  ahead_eq := by rw [late.ahead_eq, early.ahead_eq, List.drop_drop]
  output_eq := by
    rw [late.output_eq, early.output_eq, early.ahead_eq, List.take_add, List.reverse_append,
      List.append_assoc]
  reports_eq := by
    rw [late.reports_eq, early.reports_eq, List.reverse_append, List.append_assoc]
  sentinel_eq := late.sentinel_eq.trans early.sentinel_eq
  declared_eq := late.declared_eq.trans early.declared_eq

/-- Apart from what was reported the tokens have just been accepted. -/
theorem Noted.passed (noted : Noted count added before after) :
    Passed count { before with reports := after.reports } after :=
  ⟨noted.ahead_eq, noted.output_eq, rfl, noted.sentinel_eq⟩

theorem Noted.ahead_before (_ : Noted count added before after) {words : List String}
    (ahead : before.Ahead words) : { before with reports := after.reports }.Ahead words :=
  ⟨ahead.exists_tokens, ahead.sentinel⟩

theorem Noted.ahead_after {read words : List String} (noted : Noted read.length added before after)
    (ahead : before.Ahead (read ++ words)) : after.Ahead words :=
  (noted.ahead_before ahead).of_passed noted.passed

theorem Noted.lookahead_eq (noted : Noted count added before after) (offset : Nat) :
    after.lookahead offset = before.lookahead (count + offset) := by
  rw [lookahead, lookahead, noted.ahead_eq, noted.sentinel_eq, List.getElem?_drop]

theorem Noted.repeats_eq (noted : Noted count added before after) (phrase : Phrase)
    (offset : Nat) (earlier : List Polarity) (occurrences : List Occurrence) :
    phrase.repeats after offset earlier occurrences =
      phrase.repeats before (count + offset) earlier occurrences := by
  induction occurrences generalizing offset earlier with
  | nil => rfl
  | cons occurrence rest ih =>
      rw [Phrase.repeats, Phrase.repeats, noted.lookahead_eq, ih, Nat.add_assoc]

end State

namespace Form

variable {phrase : Phrase} {depth : Nat} {occurrences : List Occurrence} {marker : String}
  {rest : List String}

/-- Any number of phrases are read up to the END marker of their statement. The forms in
`earlier` are those that the statement already has. -/
theorem noted_phrasesFrom (fits : ∀ occurrence ∈ occurrences, occurrence.Fits phrase depth)
    (marked : Begins endMarkers rest) {seen : SeenForms} {earlier : List Polarity}
    (known : ∀ polarity, seen.has polarity = true ↔ polarity ∈ earlier) {state : State}
    (ahead : state.Ahead (Occurrence.allWords occurrences ++ rest)) :
    State.Noted (Occurrence.allWords occurrences).length
      (phrase.repeats state 0 earlier occurrences) state
      (phrasesFrom phrase (nestedStatements depth) seen state).2 := by
  induction occurrences generalizing seen earlier state with
  | nil =>
      have ends : Begins phraseEnds rest := marked.mono (by decide)
      have nothing : Reads state.declared (phrasesFrom phrase (nestedStatements depth) seen) [] rest
          fun last declared => last = seen ∧ declared = state.declared :=
        reads_phrasesFrom_nil ends
      obtain ⟨⟨-, declared⟩, passed⟩ := nothing state ahead rfl
      exact passed.noted declared
  | cons occurrence more ih =>
      rw [List.forall_mem_cons] at fits
      obtain ⟨fit, others⟩ := fits
      have words_eq : Occurrence.allWords (occurrence :: more) =
          occurrence.words ++ Occurrence.allWords more := rfl
      rw [words_eq, List.append_assoc] at ahead
      have closes : Begins closers (Occurrence.allWords more ++ rest) :=
        (Begins.optional (Occurrence.begins_allWords others) marked).mono (by decide)
      have nonempty : occurrence.words ≠ [] := by
        obtain ⟨word, _, front, front_eq⟩ := fit.begins
        rw [front_eq]
        exact List.cons_ne_nil word front
      obtain ⟨after, ran, passed, declared⟩ := exists_run_phraseRound seen fit.introduces
        (begins_append_of_sequence fit.sequence closes)
        ((readsPart_of_fragment fit.sequence).sequence closes) ahead
      have first : State.Noted occurrence.words.length
          (if occurrence.polarity ∈ earlier then
            [⟨state.current, .general (.repeatedPhrase phrase occurrence.polarity)⟩] else [])
          state after := by
        by_cases again : occurrence.polarity ∈ earlier
        · rw [if_pos ((known _).mpr again)] at passed
          rw [if_pos again]
          exact passed.noted_report declared
        · rw [if_neg (mt (known _).mp again)] at passed
          rw [if_neg again]
          exact passed.noted declared
      have fewer := remaining_lt_of_passed nonempty (first.ahead_before ahead) first.passed
      have same (polarity : Polarity) : (seen.insert occurrence.polarity).has polarity = true ↔
          polarity ∈ occurrence.polarity :: earlier := by
        rw [SeenForms.has_insert, Bool.or_eq_true, beq_iff_eq, known, List.mem_cons]
      have further := ih others same (first.ahead_after ahead)
      have run_eq : phrasesFrom phrase (nestedStatements depth) seen state =
          phrasesFrom phrase (nestedStatements depth) (seen.insert occurrence.polarity) after := by
        rw [phrasesFrom, loop_eq, ran]
        exact if_pos fewer
      rw [run_eq, words_eq, List.length_append, Phrase.repeats, Nat.zero_add]
      rw [first.repeats_eq, Nat.add_zero] at further
      exact first.trans further

/-- The phrases of a statement are read together with its END marker. -/
theorem noted_conditional (fits : ∀ occurrence ∈ occurrences, occurrence.Fits phrase depth)
    (listed : marker ∈ endMarkers) {state : State}
    (ahead : state.Ahead (Occurrence.allWords occurrences ++ marker :: rest)) :
    State.Noted ((Occurrence.allWords occurrences).length + 1)
      (phrase.repeats state 0 [] occurrences) state
      ((conditional phrase marker).run (nestedStatements depth) state).2 := by
  have none (polarity : Polarity) : SeenForms.has {} polarity = true ↔ polarity ∈ [] := by
    cases polarity <;> simp [SeenForms.has]
  have phrases := noted_phrasesFrom fits (begins_cons listed rest) none ahead
  rw [run_conditional, run_bind]
  obtain ⟨declared, passed⟩ := accepts_endMarker _ marker _ (phrases.ahead_after ahead) rfl
  have both := phrases.trans (passed.noted declared)
  rwa [List.append_nil] at both

end Form

namespace Analysis

variable {phrase : Phrase} {marker : String} {head rest : List String} {depth : Nat}
  {occurrences : List Occurrence}

/-- A statement with any number of conditional phrases of its pair, each in either form, is
read up to its END marker. Every token is accepted as it is, and exactly the phrases whose
form occurred before are reported: their number is that of all phrases less that of the
forms that occur. -/
theorem noted_statement (begins : Head phrase marker head)
    (fits : ∀ occurrence ∈ occurrences, occurrence.Fits phrase depth) {state : State}
    (ahead : state.Ahead (head ++ Occurrence.allWords occurrences ++ marker :: rest)) :
    State.Noted (head.length + (Occurrence.allWords occurrences).length + 1)
        (phrase.repeats state head.length [] occurrences) state
        (statement (nestedStatements depth) state).2 ∧
      (phrase.repeats state head.length [] occurrences).length +
          (occurrences.map Occurrence.polarity).toFinset.card = occurrences.length := by
  constructor
  · rw [List.append_assoc] at ahead
    have marked : Begins endMarkers (marker :: rest) := begins_cons begins.marker_mem rest
    have follows : Begins followers (Occurrence.allWords occurrences ++ marker :: rest) :=
      (Begins.optional (Occurrence.begins_allWords fits) marked).mono (by decide)
    obtain ⟨keyword, more, rfl, -, leads⟩ :=
      Form.leads_head (nestedStatements depth) begins follows
    obtain ⟨middle, passed, declared, runs⟩ := leads state ahead
    have first := passed.noted declared
    have phrases := Form.noted_conditional fits begins.marker_mem (first.ahead_after ahead)
    have keyword_eq : state.current.value = keyword := ahead.current_value
    have run_eq : statement (nestedStatements depth) state =
        (Form.conditional phrase marker).run (nestedStatements depth) middle := by
      rw [← runs, ← keyword_eq]
      rfl
    rw [run_eq, Nat.add_assoc]
    rw [first.repeats_eq, Nat.add_zero] at phrases
    exact first.trans phrases
  · have counted := phrase.length_repeats state head.length [] occurrences
    rwa [List.toFinset_nil, Finset.sdiff_empty] at counted

/-- Before a RETURN statement with three phrases, the last of which repeats the form of the
first. -/
def returnStart : State :=
  .initial
    (Source.tokenize "RETURN F AT END DISPLAY A NOT END CONTINUE END GO TO B END-RETURN.") .empty

/-- The phrases of that statement. -/
def returnPhrases : List Occurrence :=
  [⟨.positive, ["AT", "END"], ["DISPLAY", "A"]⟩, ⟨.negative, ["NOT", "END"], ["CONTINUE"]⟩,
   ⟨.positive, ["END"], ["GO", "TO", "B"]⟩]

/-- The third phrase is reported, at its word END, and nothing else is. -/
theorem noted_statement_returnStart :
    State.Noted 14 [⟨returnStart.lookahead 9, .general (.repeatedPhrase .atEnd .positive)⟩]
      returnStart (statement (nestedStatements 1) returnStart).2 := by
  have name : IsName "F" := by decide +kernel
  have begins : Head .atEnd "END-RETURN" ["RETURN", "F"] :=
    .returnRecord name List.mem_cons_self (.inl rfl) (.inl rfl)
  have values : Operands [.identifier, .numeric, .string] ["A"] := ⟨by decide, by decide +kernel⟩
  have displays : Fragment 1 .sequence ["DISPLAY", "A"] := .cons (.simple (.display values)) .nil
  have continues : Fragment 1 .sequence ["CONTINUE"] := .cons (.simple .continuing) .nil
  have goes : Fragment 1 .sequence ["GO", "TO", "B"] :=
    .cons (.simple (.goTo (by decide +kernel))) .nil
  have fits : ∀ occurrence ∈ returnPhrases, occurrence.Fits .atEnd 1 := by
    rw [returnPhrases, List.forall_mem_cons, List.forall_mem_cons, List.forall_mem_singleton]
    exact ⟨⟨by decide, displays⟩, ⟨by decide, continues⟩, ⟨by decide, goes⟩⟩
  have ahead : returnStart.Ahead
      (["RETURN", "F"] ++ Occurrence.allWords returnPhrases ++ "END-RETURN" :: ["."]) :=
    ⟨⟨returnStart.ahead.take 15, 1, 67, by decide +kernel, by decide +kernel, by decide +kernel⟩,
      State.marks_sentinelAfter _⟩
  exact (noted_statement begins fits ahead).1

end Analysis

end CobolCheck
