import CobolCheck.Proofs.Analysis.Segment
import CobolCheck.Proofs.Output

/-!
# The brackets of IF statements

In an accepted source the words IF and END-IF match like brackets. Each pair has
at most one ELSE of its own and no period inside, and the pairs are nested no
deeper than statements may be. IF, ELSE and END-IF are read by the IF statement
alone and the period by headers and sentences alone, so what the other parts of
the grammar read is free of them, and the brackets are those of the statements.
-/

namespace CobolCheck

/-! ## Bracketed tokens -/

/-- The words of IF statements that match like brackets. -/
def bracketWords : List String :=
  ["IF", "ELSE", "END-IF"]

/-- Tokens without a period in which every IF has its END-IF, with at most one ELSE
between them, and in which such pairs are nested at most to some depth. -/
inductive Bracketed : (depth : Nat) → List Token → Prop
  | nil {depth : Nat} : Bracketed depth []
  | plain {depth : Nat} {token : Token} (other : token.value ∉ "." :: bracketWords) :
      Bracketed depth [token]
  | append {depth : Nat} {front rest : List Token} (first : Bracketed depth front)
      (second : Bracketed depth rest) : Bracketed depth (front ++ rest)
  | ifThen {depth : Nat} {opening closing : Token} {body : List Token}
      (opens : opening.value = "IF") (inside : Bracketed depth body)
      (closes : closing.value = "END-IF") :
      Bracketed (depth + 1) (opening :: (body ++ [closing]))
  | ifElse {depth : Nat} {opening middle closing : Token} {body other : List Token}
      (opens : opening.value = "IF") (inside : Bracketed depth body)
      (divides : middle.value = "ELSE") (outside : Bracketed depth other)
      (closes : closing.value = "END-IF") :
      Bracketed (depth + 1) (opening :: (body ++ middle :: (other ++ [closing])))

/-- Bracketed tokens with periods between them. -/
inductive Punctuated (depth : Nat) : List Token → Prop
  | bracketed {tokens : List Token} (pairs : Bracketed depth tokens) : Punctuated depth tokens
  | period {token : Token} (value_eq : token.value = ".") : Punctuated depth [token]
  | append {front rest : List Token} (first : Punctuated depth front)
      (second : Punctuated depth rest) : Punctuated depth (front ++ rest)

namespace Bracketed

variable {depth : Nat} {tokens : List Token}

/-- Pairs may always be nested more deeply. -/
theorem succ (pairs : Bracketed depth tokens) : Bracketed (depth + 1) tokens := by
  induction pairs with
  | nil => exact .nil
  | plain other => exact .plain other
  | append _ _ first second => exact .append first second
  | ifThen opens _ closes inside => exact .ifThen opens inside closes
  | ifElse opens _ divides _ closes inside outside =>
      exact .ifElse opens inside divides outside closes

theorem of_forall_plain (other : ∀ token ∈ tokens, token.value ∉ "." :: bracketWords) :
    Bracketed depth tokens := by
  induction tokens with
  | nil => exact .nil
  | cons token rest ih =>
      rw [List.forall_mem_cons] at other
      exact .append (.plain other.1) (ih other.2)

end Bracketed

theorem Punctuated.of_forall_free {depth : Nat} {tokens : List Token}
    (other : ∀ token ∈ tokens, token.value ∉ bracketWords) : Punctuated depth tokens := by
  induction tokens with
  | nil => exact .bracketed .nil
  | cons token rest ih =>
      rw [List.forall_mem_cons] at other
      have single : Punctuated depth [token] := by
        by_cases period : token.value = "."
        · exact .period period
        · exact .bracketed (.plain (by simp [period, other.1]))
      exact .append single (ih other.2)

/-! ## Landmarks -/

namespace Landmark

/-- The words of IF statements. -/
def brackets : List Landmark :=
  [⟨"IF", .reserved, .statement⟩, ⟨"ELSE", .reserved, .plain⟩, ⟨"END-IF", .reserved, .plain⟩]

end Landmark

/-- A reserved word has the same role wherever it stands in a source text, so a token
that is no landmark for one of some reserved words is none of them. -/
theorem Source.value_notMem_of_free {source : String} {words : List String}
    {landmarks : List Landmark}
    (letters : ∀ word ∈ words, word.toList.head?.any Char.isAlpha = true ∧ word ≠ "EOF")
    (marked : ∀ word ∈ words, ∃ landmark ∈ landmarks, landmark.word = word ∧
      Word.classify word = (landmark.category, landmark.context))
    {token : Token} (member : token ∈ tokenize source)
    (free : ∀ landmark ∈ landmarks, ¬landmark.Marks token) : token.value ∉ words := by
  intro listed
  have begun := (letters _ listed).1
  rw [Option.any_eq_true] at begun
  have role := classified member begun (letters _ listed).2
  obtain ⟨landmark, known, word_eq, role_eq⟩ := marked _ listed
  rw [role_eq, Prod.mk.injEq] at role
  exact free landmark known ⟨word_eq.symm, role.1, role.2⟩

theorem Source.value_not_mem_bracketWords {source : String} {token : Token}
    (member : token ∈ tokenize source)
    (free : ∀ landmark ∈ Landmark.brackets, ¬landmark.Marks token) :
    token.value ∉ bracketWords :=
  value_notMem_of_free (by decide) (by decide) member free

theorem Source.value_ne_period {source : String} {token : Token}
    (member : token ∈ tokenize source) (free : ¬Landmark.period.Marks token) :
    token.value ≠ "." := by
  intro period
  have symbol := symbol_of_period member period
  exact free ⟨period, symbol.1, symbol.2⟩

namespace State

open Analysis

variable {source : String} {kind : List Token → Prop} {depth : Nat}

/-- Tokens that are neither a word of an IF statement nor a period. -/
def Plain (read : List Token) : Prop :=
  ∀ token ∈ read, token.value ∉ "." :: bracketWords

theorem admits_plain (source : String) :
    Admits source (.period :: Landmark.brackets) Plain where
  nonempty := by simp
  free inside free := by
    intro token member
    rw [List.forall_mem_cons] at free
    have period := Source.value_ne_period (inside token member) (free.1 token member)
    have bracket := Source.value_not_mem_bracketWords (inside token member)
      fun landmark listed => free.2 landmark listed token member
    simp [period, bracket]
  append front rest := List.forall_mem_append.mpr ⟨front, rest⟩

theorem admits_bracketed (source : String) (depth : Nat) :
    Admits source (.period :: Landmark.brackets) (Bracketed depth) where
  nonempty := by simp
  free inside free := .of_forall_plain ((admits_plain source).free inside free)
  append := .append

theorem admits_punctuated (source : String) (depth : Nat) :
    Admits source Landmark.brackets (Punctuated depth) where
  nonempty := by simp [Landmark.brackets]
  free inside free := Punctuated.of_forall_free fun token member =>
    Source.value_not_mem_bracketWords (inside token member)
      fun landmark listed => free landmark listed token member
  append := .append

/-! ## Forms -/

/-- A form with no statements nested in it that accepts none of some landmarks reads
tokens that are no landmark. -/
theorem Admits.run_of_alone {landmarks : List Landmark} (admits : Admits source landmarks kind)
    {inner : Analysis Unit} {form : Form} (alone : form.run inner = form.run (pure ()))
    {notes : Landmark → Notes}
    (permitted : ∀ landmark ∈ landmarks, form.permitted landmark (notes landmark) = true)
    {state : State} (hold : ∀ landmark ∈ landmarks, (notes landmark).Hold landmark state) :
    Spells source kind state (form.run inner state).2 ∧
      ∀ landmark ∈ landmarks,
        (form.leave (notes landmark)).Hold landmark (form.run inner state).2 := by
  have each (landmark) (listed : landmark ∈ landmarks) :=
    (closed_free source landmark).run_of_permitted
      ((closed_free source landmark).obeys_pure ()) (permitted landmark listed)
      (hold landmark listed)
  rw [alone]
  exact ⟨admits.spells fun landmark listed => (each landmark listed).1,
    fun landmark listed => (each landmark listed).2⟩

/-- A form that accepts none of some landmarks reads what the statements nested in it
read, and tokens that are no landmark. -/
theorem Admits.run_of_permitted {landmarks : List Landmark} (admits : Admits source landmarks kind)
    {inner : Analysis Unit} (inner_obeys : Obeys (Spells source kind) inner) {form : Form}
    {notes : Landmark → Notes}
    (permitted : ∀ landmark ∈ landmarks, form.permitted landmark (notes landmark) = true)
    {state : State} (hold : ∀ landmark ∈ landmarks, (notes landmark).Hold landmark state) :
    Spells source kind state (form.run inner state).2 ∧
      ∀ landmark ∈ landmarks,
        (form.leave (notes landmark)).Hold landmark (form.run inner state).2 := by
  induction form generalizing notes state with
  | done => exact admits.run_of_alone rfl permitted hold
  | seq first second ihFirst ihSecond =>
      simp only [Form.permitted, Bool.and_eq_true] at permitted
      obtain ⟨early, between⟩ := ihFirst (fun landmark listed => (permitted landmark listed).1) hold
      obtain ⟨late, behind⟩ :=
        ihSecond (fun landmark listed => (permitted landmark listed).2) between
      exact ⟨admits.chained.trans early late, behind⟩
  | branch test yes no ihYes ihNo =>
      simp only [Form.permitted, Bool.and_eq_true] at permitted
      have reached : Spells source kind state ((Form.branch test yes no).run inner state).2 := by
        rw [Form.run_branch]
        split
        · next held =>
          exact (ihYes (fun landmark listed => (permitted landmark listed).1)
            fun landmark listed => (hold landmark listed).learn held).1
        · exact (ihNo (fun landmark listed => (permitted landmark listed).2) hold).1
      exact ⟨reached, fun landmark listed => (hold landmark listed).forget reached.reports⟩
  | many test body ih =>
      have reached : Spells source kind state ((Form.many test body).run inner state).2 := by
        apply admits.chained.whilst_of_reached
        intro middle before held
        exact (ih permitted fun landmark listed =>
          ((hold landmark listed).forget before.reports).learn held).1
      exact ⟨reached, fun landmark listed => (hold landmark listed).forget reached.reports⟩
  | accept => exact admits.run_of_alone rfl permitted hold
  | skip => exact admits.run_of_alone rfl permitted hold
  | expect => exact admits.run_of_alone rfl permitted hold
  | choose => exact admits.run_of_alone rfl permitted hold
  | operand => exact admits.run_of_alone rfl permitted hold
  | report => exact admits.run_of_alone rfl permitted hold
  | condition => exact admits.run_of_alone rfl permitted hold
  | arithmetic => exact admits.run_of_alone rfl permitted hold
  | nested =>
      have reached := inner_obeys state
      exact ⟨reached, fun landmark listed => (hold landmark listed).forget reached.reports⟩
  | phrases phrase positive negative marker ihPositive ihNegative =>
      simp only [Form.permitted, Bool.and_eq_true] at permitted
      have reported (cause : Cause) : Obeys (Spells source kind) (reportHere cause) :=
        admits.obeys fun landmark _ => (closed_free source landmark).obeys_reportHere cause
      have reached : Obeys (Spells source kind)
          ((Form.phrases phrase positive negative marker).run inner) := by
        have chained := admits.chained
        refine chained.obeys_bind
          (chained.obeys_loop (chained.obeys_phraseRound reported phrase ?_) {}) fun seen => ?_
        · intro polarity state
          cases polarity with
          | positive =>
              exact (ihPositive (fun landmark listed => (permitted landmark listed).1.1)
                fun landmark _ => .nothing landmark state).1
          | negative =>
              exact (ihNegative (fun landmark listed => (permitted landmark listed).1.2)
                fun landmark _ => .nothing landmark state).1
        · cases marker with
          | none => exact chained.obeys_pure ()
          | some marker =>
              refine admits.obeys fun landmark listed => ?_
              apply (closed_free source landmark).obeys_endMarker
              simpa using (permitted landmark listed).2
      exact ⟨reached state,
        fun landmark listed => (hold landmark listed).forget (reached state).reports⟩

theorem Admits.obeys_run_of_permitted {landmarks : List Landmark}
    (admits : Admits source landmarks kind) {inner : Analysis Unit}
    (inner_obeys : Obeys (Spells source kind) inner) (form : Form)
    (permitted : ∀ landmark ∈ landmarks, form.permitted landmark {} = true) :
    Obeys (Spells source kind) (form.run inner) := by
  intro state
  have notes : ∀ landmark ∈ landmarks, ({} : Notes).Hold landmark state :=
    fun landmark _ => .nothing landmark state
  exact (admits.run_of_permitted inner_obeys permitted notes).1

/-! ## The IF statement -/

/-- The ELSE of an IF statement and its statements, which may be left out. -/
def ElsePart (body : List Token → Prop) (read : List Token) : Prop :=
  read = [] ∨ Then (Single "ELSE") (Then Plain body) read

theorem run_ifElse_branches (inner : Analysis Unit) :
    Form.ifElse.run inner = (do
      expect "IF"
      (Form.all [.condition "THEN", .optional "THEN",
        .whenever .nextSentence [.report (.general .nextSentence), .accept, .accept]]).run inner
      inner
      (Form.optionally "ELSE" [.branchBody]).run inner
      (Form.close "END-IF").run inner) := by
  simp only [Form.ifElse, Form.branchBody, Form.run_all_cons, Form.run_all_nil, bind_assoc,
    bind_pure_unit]
  rfl

theorem spells_branchBody {inner : Analysis Unit} {body : List Token → Prop}
    (inner_obeys : Obeys (Spells source body) inner) :
    Obeys (Spells source (Then Plain body)) (Form.branchBody.run inner) := by
  have plain := admits_plain source
  have opening : Obeys (Spells source Plain)
      ((Form.whenever .nextSentence
        [.report (.general .nextSentence), .accept, .accept]).run (pure ())) :=
    plain.obeys_run_of_permitted (plain.chained.obeys_pure ()) _ (by decide)
  exact spells_bind opening fun _ => inner_obeys

theorem spells_elsePart {inner : Analysis Unit} {body : List Token → Prop}
    (inner_obeys : Obeys (Spells source body) inner) :
    Obeys (Spells source (ElsePart body))
      ((Form.optionally "ELSE" [.branchBody]).run inner) := by
  intro state
  rw [Form.optionally, Form.whenever, Form.run, run_bind, run_ask, run_ite]
  split
  · next held =>
    have word : Spells source (Single "ELSE") state (state.emit state.current).skip :=
      spells_accept_of_holds held (by decide)
    refine word.append (spells_branchBody inner_obeys _) fun front rest => ?_
    exact .inr ⟨_, _, rfl, front, rest⟩
  · exact ⟨List.suffix_rfl, rfl, fun _ => ⟨[], rfl, .inl rfl⟩⟩

theorem spells_close (inner : Analysis Unit) {marker : String} (inside : marker ≠ "EOF") :
    Obeys (Spells source (Single marker)) ((Form.close marker).run inner) := by
  intro state
  rw [Form.close, Form.run, run_bind, run_ask, run_ite]
  split
  · next held => exact spells_accept_of_holds held inside
  · exact spells_of_reported ((closed_still .endOfInput).obeys_reportHere _ state)
      (List.cons_ne_nil _ _)

/-- What an IF statement reads: its words, its condition and the statements of its
branches. -/
theorem spells_ifElse {inner : Analysis Unit} {body : List Token → Prop}
    (inner_obeys : Obeys (Spells source body) inner) :
    Obeys (Spells source (Then (Single "IF") (Then Plain (Then body
      (Then (ElsePart body) (Single "END-IF")))))) (Form.ifElse.run inner) := by
  have plain := admits_plain source
  have opening : Obeys (Spells source Plain)
      ((Form.all [.condition "THEN", .optional "THEN",
        .whenever .nextSentence [.report (.general .nextSentence), .accept, .accept]]).run
          (pure ())) :=
    plain.obeys_run_of_permitted (plain.chained.obeys_pure ()) _ (by decide)
  rw [run_ifElse_branches]
  apply spells_bind (spells_expect (by decide))
  intro _
  apply spells_bind opening
  intro _
  apply spells_bind inner_obeys
  intro _
  exact spells_bind (spells_elsePart inner_obeys) fun _ => spells_close inner (by decide)

/-- The statements that may be nested in a statement with some room below it. Without
room nothing can be nested. -/
def Nested (room : Nat) (read : List Token) : Prop :=
  ∃ less, room = less + 1 ∧ Bracketed less read

/-- An IF statement whose branches are bracketed is a pair of brackets. -/
theorem bracketed_of_ifElse {room : Nat} {read : List Token}
    (shape : Then (Single "IF") (Then Plain (Then (Nested room)
      (Then (ElsePart (Nested room)) (Single "END-IF")))) read) : Bracketed room read := by
  obtain ⟨_, _, rfl, ⟨opening, rfl, opens⟩, _, _, rfl, condition, body, _, rfl,
    ⟨less, rfl, inside⟩, elsePart, _, rfl, other, closing, rfl, closes⟩ := shape
  have first := Bracketed.append (.of_forall_plain condition) inside
  rcases other with rfl | ⟨_, _, rfl, ⟨middle, rfl, divides⟩, _, _, rfl, phrase, _, same, outside⟩
  · simpa using Bracketed.ifThen opens first closes
  · cases same
    have second := Bracketed.append (.of_forall_plain phrase) outside
    simpa using Bracketed.ifElse opens first divides second closes

end State

/-- Only IF statements read the words of IF statements, and no statement reads a period. -/
theorem Form.permitted_ofKeyword_brackets {keyword : String} (other : keyword ≠ "IF") :
    ∀ landmark ∈ Landmark.period :: Landmark.brackets,
      (ofKeyword keyword).permitted landmark {} = true := by
  intro landmark listed
  simp only [Landmark.brackets, List.mem_cons, List.not_mem_nil, or_false] at listed
  rcases listed with rfl | rfl | rfl | rfl
  all_goals
    unfold ofKeyword
    split
    case h_18 => exact absurd rfl other
    all_goals rfl

namespace State

open Analysis

variable {source : String}

/-! ## Statements -/

theorem Nested.bracketed {room : Nat} {read : List Token} (nested : Nested room read) :
    Bracketed room read := by
  obtain ⟨less, rfl, pairs⟩ := nested
  exact pairs.succ

theorem spells_statement {room : Nat} {inner : Analysis Unit}
    (inner_obeys : Obeys (Spells source (Nested room)) inner) :
    Obeys (Spells source (Bracketed room)) (statement inner) := by
  apply Closed.obeys_statement
  intro keyword state
  by_cases opens : keyword = "IF"
  · subst opens
    exact (spells_ifElse inner_obeys state).mono fun _ => bracketed_of_ifElse
  · apply (admits_bracketed source room).obeys_run_of_permitted
    · exact fun state => (inner_obeys state).mono fun _ => Nested.bracketed
    · exact Form.permitted_ofKeyword_brackets opens

/-- A nested sequence reads what its statements read. Without room for it something is
reported. -/
theorem spells_nestedStatements_of {kind : Nat → List Token → Prop}
    (nil : ∀ room, kind room [])
    (append : ∀ room {front rest}, kind room front → kind room rest → kind room (front ++ rest))
    (each : ∀ room,
      Obeys (Spells source fun read => ∃ less, room = less + 1 ∧ kind less read)
        (nestedStatements room) →
      Obeys (Spells source (kind room)) (statement (nestedStatements room))) (room : Nat) :
    Obeys (Spells source fun read => ∃ less, room = less + 1 ∧ kind less read)
      (nestedStatements room) := by
  induction room with
  | zero => exact spells_reportHere_bind _ (closed_still .endOfInput).obeysFrom_skipScope
  | succ room ih =>
      have chained : Chained (Spells source (kind room)) := chained_spells (nil room) (append room)
      have noted (nesting deepest : State → Nat) : Obeys (Spells source (kind room))
          (modify fun state =>
            { state with nesting := nesting state, deepest := deepest state }) :=
        fun state => ⟨List.suffix_rfl, rfl, fun _ => ⟨[], rfl, nil room⟩⟩
      have sequence : Obeys (Spells source (kind room)) (nestedStatements (room + 1)) := by
        apply chained.obeys_bind (noted _ _)
        intro _
        apply chained.obeys_bind (chained.obeys_whilst ((each room ih).obeysFrom _))
        intro _
        exact noted _ _
      exact fun state => (sequence state).mono fun _ holds => ⟨room, rfl, holds⟩

/-- Sentences read what their statements read, and periods. -/
theorem spells_sentences_of {kind : List Token → Prop} {limit : Nat}
    (chained : Chained (Spells source kind))
    (statements : Obeys (Spells source kind) (statement (nestedStatements limit)))
    (optionalPeriod : Obeys (Spells source kind) (optional ".")) :
    Obeys (Spells source kind) (sentences limit) := by
  have missing : Obeys (Spells source kind) (do
      reportHere (.expectedLiteral ".")
      resumeAfterSentence) :=
    spells_reportHere_bind _ (closed_still .endOfInput).obeysFrom_resumeAfterSentence
  have ending : Obeys (Spells source kind) (do
      unless ← optional "." do
        reportHere (.expectedLiteral ".")
        resumeAfterSentence) :=
    chained.obeys_bind optionalPeriod fun present => obeys_ite _ (chained.obeys_pure _) missing
  have each : Obeys (Spells source kind) (sentencePart limit) :=
    chained.obeys_bind statements fun _ =>
      obeys_ask ((chained.obeys_pure ()).obeysFrom _) (ending.obeysFrom _)
  exact chained.obeys_whilst (each.obeysFrom _)

/-- A nested sequence reads bracketed tokens. -/
theorem spells_nestedStatements (room : Nat) :
    Obeys (Spells source (Nested room)) (nestedStatements room) :=
  spells_nestedStatements_of (fun _ => .nil) (fun _ => .append)
    (fun _ inner => spells_statement inner) room

theorem spells_sentences (limit : Nat) :
    Obeys (Spells source (Punctuated limit)) (sentences limit) := by
  apply spells_sentences_of (admits_punctuated source limit).chained
  · exact fun state =>
      (spells_statement (spells_nestedStatements limit) state).mono fun _ => .bracketed
  · intro state
    refine (spells_optional (by decide) state).mono ?_
    rintro read (rfl | ⟨token, rfl, value_eq⟩)
    · exact .bracketed .nil
    · exact .period value_eq

/-! ## Source units -/

/-- The parts of a source unit around its sentences are free of the words of IF
statements. -/
theorem headers_free {landmark : Landmark} (listed : landmark ∈ Landmark.brackets) :
    ClosedHeaders landmark (Spells source (Free landmark)) := by
  have foreign : ∀ landmark ∈ Landmark.brackets, landmark.Foreign := by
    intro landmark listed
    simp only [Landmark.brackets, List.mem_cons, List.not_mem_nil, or_false] at listed
    rcases listed with rfl | rfl | rfl <;> constructor <;> decide
  apply (closed_free source landmark).headers (foreign landmark listed)
  · exact fun _ _ => ⟨List.suffix_rfl, rfl, fun _ => ⟨[], rfl, by simp [Free]⟩⟩
  · exact fun _ _ => ⟨List.suffix_rfl, rfl, fun _ => ⟨[], rfl, by simp [Free]⟩⟩

theorem spells_sourceUnits (limit : Nat) :
    Obeys (Spells source (Punctuated limit)) (sourceUnits limit) := by
  have admits := admits_punctuated source limit
  have marker : ∀ landmark ∈ Landmark.brackets,
      landmark.word ∉ ["END", "PROGRAM", "FUNCTION"] := by
    decide
  apply admits.chained.obeys_sourceUnits
  apply admits.chained.obeys_sourceUnit
  · exact admits.obeys fun _ listed => (headers_free listed).obeys_identification
  · exact admits.obeys fun _ listed => (headers_free listed).obeys_divisionHeader _
  · exact admits.obeys fun _ listed => (headers_free listed).obeys_dataDivision
  apply admits.chained.obeys_procedureDivision
  · exact fun problem => admits.obeys fun _ listed =>
      (headers_free listed).obeys_reportBefore problem
  · exact admits.obeys fun _ listed => (headers_free listed).obeys_procedureHeader
  · exact admits.chained.obeys_procedureBody (spells_sentences limit)
      (admits.obeys fun _ listed => (headers_free listed).obeys_paragraphHeader)
  · exact fun unit => admits.obeys fun landmark listed =>
      (headers_free listed).obeys_unitEndMarker (marker landmark listed) unit

end State

open Analysis

/-- An accepted source text is read as a whole, up to the end of the input. -/
theorem exists_read_of_spells {file source : String} {output : List Token} {state : State}
    {kind : List Token → Prop} (accepted : (checkSource file source).result = .ok output)
    (units : (sourceUnits maxNesting (.initial (Source.tokenize source) .empty)).2 = state)
    (reads : State.Spells source kind (.initial (Source.tokenize source) .empty) state) :
    ∃ read line column, Source.tokenize source = read ++ [Token.endOfInput line column] ∧
      kind read := by
  have stays := (State.units_faithful (Source.tokenize source)).obeys_sourceUnits (by decide)
    maxNesting (.initial (Source.tokenize source) .empty)
  rw [units] at stays
  have faithful := stays.kept (State.faithful_initial _ _)
  obtain ⟨unreported, ended, -⟩ := sourceUnits_of_accepted accepted units
  have tokens_eq : Source.tokenize source = state.behind.reverse ++ state.ahead :=
    faithful.tokens_eq.symm
  have clean : state.Clean source := by
    constructor
    · exact unreported
    · intro token member
      rw [tokens_eq]
      exact List.mem_append_left _ (List.mem_reverse.mpr member)
    · rw [faithful.sentinel_eq]
      exact State.marks_sentinelAfter _
  obtain ⟨read, behind_eq, holds⟩ := reads.exists_read clean
  obtain ⟨last, ahead_eq⟩ := List.length_eq_one_iff.mp
    ((faithful.mirrors unreported).length_ahead_of_tokenize tokens_eq ended)
  have whole : Source.tokenize source = read ++ [last] := by
    rw [tokens_eq, behind_eq, ahead_eq, List.reverse_append, List.reverse_reverse]
    rfl
  have last_eq := Source.getLast?_tokenize source
  rw [whole, List.getLast?_concat, Option.some.injEq] at last_eq
  exact ⟨read, _, _, by rw [whole, last_eq], holds⟩

/-- The words IF, ELSE and END-IF of an accepted source text match like brackets, no
period stands between an IF and its END-IF, and the pairs are nested at most 256 deep. -/
theorem punctuated_of_accepted {file source : String} {output : List Token}
    (accepted : (checkSource file source).result = .ok output) :
    Punctuated 256 (Source.tokenize source) := by
  obtain ⟨read, line, column, tokens_eq, punctuated⟩ :=
    exists_read_of_spells accepted rfl (State.spells_sourceUnits maxNesting _)
  have last : (Token.endOfInput line column).value ∉ "." :: bracketWords := by
    change "EOF" ∉ "." :: bracketWords
    decide
  rw [tokens_eq]
  exact .append punctuated (.bracketed (.plain last))

/-- A program with one IF statement inside another. -/
def nestedProgram : String :=
  "PROGRAM-ID. A. PROCEDURE DIVISION. IF X = 1 IF Y = 2 STOP RUN ELSE GO B END-IF END-IF. B."

theorem punctuated_nestedProgram :
    (Source.tokenize nestedProgram).countP (·.is "IF") = 2 ∧
      Punctuated 256 (Source.tokenize nestedProgram) := by
  have accepted : (checkSource "a.cob" nestedProgram).result =
      .ok (Source.tokenize nestedProgram) := by
    rw [Outcome.result_eq_ok_iff]
    decide +kernel
  exact ⟨by decide +kernel, punctuated_of_accepted accepted⟩

end CobolCheck
