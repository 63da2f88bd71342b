import CobolCheck.Proofs.Division.Declared

/-!
# Reading source units

What is read without a report has the shape of source units. The item that a
procedure division returns has its key in the symbol table by then, which holds the
keys of the items that this unit and the units before it declare.
-/

namespace CobolCheck

open Analysis Shape

/-! ## Statements -/

/-- Only IF statements read the words that begin an ID paragraph, and no statement reads
a period. -/
theorem Form.permitted_ofKeyword_idParagraphs {keyword : String} (other : keyword ≠ "IF") :
    ∀ landmark ∈ Landmark.period :: Landmark.idParagraphs,
      (ofKeyword keyword).permitted landmark {} = true := by
  intro landmark listed
  simp only [Landmark.idParagraphs, List.mem_cons, List.not_mem_nil, or_false] at listed
  rcases listed with rfl | rfl | rfl
  all_goals
    unfold ofKeyword
    split
    case h_18 => exact absurd rfl other
    all_goals rfl

/-- Tokens without a period, the last of which begins no ID paragraph. -/
structure Unbroken (read : List Token) : Prop where
  inside : ∀ token ∈ read, token.value ≠ "."
  last : ∀ word ∈ read.getLast?, word.value ∉ idWords

namespace Unbroken

variable {front rest read : List Token}

theorem of_inside (inside : Inside read) : Unbroken read where
  inside token member period := inside token member (by simp [period])
  last word found begins :=
    inside word (List.mem_of_getLast? found) (List.mem_cons_of_mem _ begins)

theorem append (early : Unbroken front) (late : Unbroken rest) : Unbroken (front ++ rest) where
  inside := List.forall_mem_append.mpr ⟨early.inside, late.inside⟩
  last := forall_mem_getLast?_append early.last late.last

theorem concat {word : Token} (inside : ∀ token ∈ front, token.value ≠ ".")
    (other : word.value ∉ "." :: idWords) : Unbroken (front ++ [word]) where
  inside := by
    rw [List.forall_mem_append, List.forall_mem_singleton]
    exact ⟨inside, fun period => other (by simp [period])⟩
  last found concat := by
    rw [List.getLast?_concat, Option.mem_some_iff] at concat
    subst concat
    exact fun begins => other (List.mem_cons_of_mem _ begins)

theorem body (unbroken : Unbroken read) : Body read :=
  .of_forall_ne unbroken.inside unbroken.last

end Unbroken

namespace State

variable {source : String} {before middle after : State} {α β : Type}

theorem admits_unbroken (source : String) :
    Admits source (.period :: Landmark.idParagraphs) Unbroken where
  nonempty := by simp
  free inside free := .of_inside ((admits_inside source).free inside free)
  append := .append

theorem admits_body (source : String) : Admits source Landmark.idParagraphs Body where
  nonempty := by simp [Landmark.idParagraphs]
  free inside free := .of_forall fun token member =>
    Source.value_notMem_idWords (inside token member)
      fun landmark listed => free landmark listed token member
  append := .append

/-- A condition may have any words in it, but an IF statement ends with its own. -/
theorem unbroken_of_ifElse {read : List Token}
    (shape : Then (Single "IF") (Then Plain (Then Unbroken
      (Then (ElsePart Unbroken) (Single "END-IF")))) read) : Unbroken read := by
  obtain ⟨_, _, rfl, ⟨opening, rfl, opens⟩, condition, _, rfl, plain, body, _, rfl, statements,
    elsePart, _, rfl, other, closing, rfl, closes⟩ := shape
  have plainInside {read : List Token} (plain : Plain read) : ∀ token ∈ read, token.value ≠ "." :=
    fun token member period => plain token member (by simp [period])
  have elseInside : ∀ token ∈ elsePart, token.value ≠ "." := by
    rcases other with rfl | ⟨_, _, rfl, ⟨middle, rfl, divides⟩, _, _, rfl, phrase, outside⟩
    · simp
    · simp only [List.forall_mem_append, List.forall_mem_singleton]
      exact ⟨by simp [divides], plainInside phrase, outside.inside⟩
  simp only [← List.append_assoc]
  refine .concat ?_ (by simp [closes, idWords])
  simp only [List.forall_mem_append, List.forall_mem_singleton]
  exact ⟨⟨⟨by simp [opens], plainInside plain⟩, statements.inside⟩, elseInside⟩

theorem spells_statement_unbroken {inner : Analysis Unit}
    (inner_obeys : Obeys (Spells source Unbroken) inner) :
    Obeys (Spells source Unbroken) (statement inner) := by
  apply Closed.obeys_statement
  intro keyword state
  by_cases opens : keyword = "IF"
  · subst opens
    exact (spells_ifElse inner_obeys state).mono fun _ => unbroken_of_ifElse
  · exact (admits_unbroken source).obeys_run_of_permitted inner_obeys _
      (Form.permitted_ofKeyword_idParagraphs opens) state

theorem spells_nestedStatements_unbroken (limit : Nat) :
    Obeys (Spells source Unbroken) (nestedStatements limit) := by
  intro state
  have each (room : Nat) (inner : Obeys
      (Spells source fun read => ∃ less, room = less + 1 ∧ Unbroken read)
      (nestedStatements room)) :=
    spells_statement_unbroken fun state => (inner state).mono fun _ ⟨_, _, holds⟩ => holds
  exact (spells_nestedStatements_of (fun _ => .of_inside (by simp [Inside])) (fun _ => .append)
    each limit state).mono fun _ ⟨_, _, holds⟩ => holds

theorem spells_sentences_body (limit : Nat) :
    Obeys (Spells source Body) (sentences limit) := by
  apply spells_sentences_of (admits_body source).chained
  · intro state
    exact (spells_statement_unbroken (spells_nestedStatements_unbroken limit) state).mono
      fun _ => Unbroken.body
  · intro state
    refine (spells_optional (by decide) state).mono ?_
    rintro read (rfl | ⟨token, rfl, value_eq⟩)
    · exact .of_forall (by simp)
    · exact .of_forall (by simp [value_eq, idWords])

theorem spells_procedureBody (limit : Nat) : Obeys (Spells source Body) (procedureBody limit) := by
  have admits := admits_body source
  refine admits.chained.obeys_procedureBody (spells_sentences_body limit) (admits.obeys ?_)
  intro landmark listed
  have known : ∀ landmark ∈ Landmark.idParagraphs,
      landmark.category ∉ [Category.identifier] ∧ landmark.word ∉ [".", "SECTION"] := by
    decide
  exact (closed_free source landmark).obeys_paragraphHeader (known landmark listed).1
    (known landmark listed).2

/-! ## The identification of a unit -/

/-- Whether a unit has begun by what was read, under a name that is not empty. -/
def Opens (shape : UnitKind → String → List Token → Prop) (before after : State)
    (read : List Token) : Prop :=
  ∃ kind name, shape kind name read ∧ name ≠ "" ∧ after.unit = { name, kind } ∧
    after.table.keys = before.table.keys

/-- What comes before the part that begins a unit. -/
theorem Told.opens {early : List Token → Prop} {shape whole : UnitKind → String → List Token → Prop}
    (first : Tells source (Silent early) before middle)
    (second : Told source (Opens shape) middle after)
    (joined : ∀ {kind name front rest}, early front → shape kind name rest →
      whole kind name (front ++ rest)) : Told source (Opens whole) before after := by
  refine Spells.append first second ?_
  rintro _ _ ⟨_, ⟨rfl, front⟩, adds⟩ ⟨kind, name, rest, named, unit_eq, keys_eq⟩
  exact ⟨kind, name, joined front rest, named, unit_eq, keys_eq.trans adds.keys_eq_of_nil⟩

/-- `(PROGRAM-ID | FUNCTION-ID). name.` -/
def Paragraph (kind : UnitKind) (name : String) : List Token → Prop :=
  Then (Words [idWord kind, "."]) (Then (Name name) (Words ["."]))

/-- The name of a unit, and the period after it. -/
theorem spells_unitName (state : State) :
    Spells source (fun read => state.current.category = .identifier ∧ state.current.value ≠ "" ∧
      Then (Name state.current.value) (Words ["."]) read)
      state (expect "." (identifier state).2).2 := by
  have name : Spells source _ state (identifier state).2 :=
    (@spells_operand source [.identifier] (by decide) _ state).inside
  refine name.append (spells_expect (by decide) _) ?_
  rintro _ _ ⟨⟨rfl, category⟩, inside⟩ ⟨period, rfl, value_eq⟩
  have category := List.mem_singleton.mp category
  have known := Source.value_ne_empty_of_identifier (inside _ List.mem_cons_self) category
  exact ⟨category, known, _, _, rfl, .single category, congrArg (fun value => [value]) value_eq⟩

/-- The unit that begins has the name that is read next. -/
theorem told_unitName (kind : UnitKind) :
    Obeys (Told source (Opens fun unitKind name read =>
      unitKind = kind ∧ Then (Name name) (Words ["."]) read)) (do
        let named ← ask .identifier
        let name ← word
        beginUnit { name := if named then name else "", kind := kind }
        discard identifier
        expect ".") := by
  intro state
  rw [run_bind, run_ask, run_bind, run_word, run_bind, run_bind, run_discard]
  generalize begun : (beginUnit {
    name := if Test.identifier.holds state then state.current.value else ""
    kind := kind } state).2 = middle
  have closed := closed_still .endOfInput
  have still : middle.Still (expect "." (identifier middle).2).2 :=
    closed.trans (closed.obeys_identifier (by decide) middle) (closed.obeys_expect (by decide) _)
  have reads : Spells source _ middle _ := spells_unitName middle
  -- a unit begins without a move, so the same is read from the state before
  subst begun
  refine ⟨reads.reports, reads.sentinel_eq, fun clean => ?_⟩
  obtain ⟨read, behind_eq, category, known, holds⟩ := reads.exists_read clean
  have named : Test.identifier.holds state = true :=
    (Test.holds_has_iff _ _).mpr (List.mem_singleton.mpr category)
  refine ⟨read, behind_eq, kind, _, ⟨rfl, holds⟩, known, ?_, ?_⟩
  · rw [still.unit_eq, if_pos named]
    rfl
  · rw [still.table_eq]
    rfl

theorem told_unitParagraph {kind : UnitKind} {word : String} (begins : idWord kind = word) :
    ObeysFrom (fun state => (Test.is word).holds state = true)
      (Told source (Opens Paragraph)) (unitParagraph kind) := by
  subst begins
  intro state held
  have known : idWord kind ≠ "EOF" := by cases kind <;> decide
  have opening : Tells source (Silent (Words ([idWord kind] ++ ["."]))) state
      (expect "." (accept state).2).2 :=
    (tells_accept_of_holds held known).append (tells_expect (by decide) _) Silent.words
  refine Told.opens opening (told_unitName kind _) ?_
  rintro _ _ _ _ words ⟨rfl, rest⟩
  exact ⟨_, _, rfl, words, rest⟩

/-- A unit without an ID paragraph is reported. -/
theorem told_unnamed {kind : State → State → List Token → Prop} (unit : SourceUnit)
    (cause : Cause) : Obeys (Told source kind) (do
      beginUnit unit
      reportHere cause) :=
  fun _ => ⟨List.suffix_cons _ _, rfl, fun clean => absurd clean.reports (List.cons_ne_nil _ _)⟩

theorem told_identification :
    Obeys (Told source (Opens Identification)) identification := by
  have paragraph : Obeys (Told source (Opens Paragraph)) (do
      if ← ask (.is "PROGRAM-ID") then unitParagraph .program
      else if ← ask (.is "FUNCTION-ID") then unitParagraph .function
      else
        beginUnit {}
        reportHere (.general .missingUnitName)) := by
    refine obeys_ask (told_unitParagraph rfl) (Obeys.obeysFrom ?_ _)
    exact obeys_ask (told_unitParagraph rfl) ((told_unnamed _ _).obeysFrom _)
  have header : Obeys (Tells source (Silent (Header .identification)))
      (divisionHeader .identification) := tells_divisionHeader _
  refine obeys_ask (fun state _ => ?_) fun state _ => ?_
  · rw [run_bind]
    refine Told.opens (header state) (paragraph _) ?_
    exact fun words rest => ⟨_, _, rfl, .inr words, rest⟩
  · have omitted : Tells source (Silent (· = [])) state state := tells_of_unmoved ⟨rfl, rfl⟩
    refine Told.opens omitted (paragraph state) ?_
    exact fun none rest => ⟨_, _, rfl, .inl none, rest⟩

/-! ## The procedure division -/

/-- Whether nothing was declared, and the item that is returned has a key. -/
def Returns (shape : Option String → List Token → Prop) (before after : State)
    (read : List Token) : Prop :=
  ∃ returned, shape returned read ∧ Adds [] before after ∧
    ∀ name ∈ returned, before.unit.key name ∈ after.table.keys

/-- What comes before the part that names the item. -/
theorem Told.returns {early : List Token → Prop} {shape whole : Option String → List Token → Prop}
    (first : Tells source (Silent early) before middle)
    (second : Told source (Returns shape) middle after)
    (joined : ∀ {returned front rest}, early front → shape returned rest →
      whole returned (front ++ rest)) : Told source (Returns whole) before after := by
  refine Spells.append first second ?_
  rintro _ _ ⟨_, ⟨rfl, front⟩, early⟩ ⟨returned, rest, late, present⟩
  refine ⟨returned, joined front rest, early.append late, fun name listed => ?_⟩
  rw [← early.key_eq]
  exact present name listed

/-- What comes after the part that names the item. -/
theorem Told.returns_append {shape : Option String → List Token → Prop} {late : List Token → Prop}
    (first : Told source (Returns shape) before middle)
    (second : Tells source (Silent late) middle after) :
    Told source (Returns fun returned => Then (shape returned) late) before after := by
  refine Spells.append first second ?_
  rintro _ _ ⟨returned, front, adds, present⟩ ⟨_, ⟨rfl, rest⟩, further⟩
  refine ⟨returned, ⟨_, _, rfl, front, rest⟩, adds.append further, fun name listed => ?_⟩
  rw [further.keys_eq_of_nil]
  exact present name listed

/-- A part that names no item. -/
theorem Tells.returns {shape : List Token → Prop} (tells : Tells source (Silent shape) before after)
    {whole : Option String → List Token → Prop} (none : ∀ {read}, shape read → whole none read) :
    Told source (Returns whole) before after := by
  refine Spells.mono tells ?_
  rintro read ⟨_, ⟨rfl, holds⟩, adds⟩
  exact ⟨_, none holds, adds, by simp⟩

/-- The name of an item that is returned. -/
def Named (returned : Option String) (read : List Token) : Prop :=
  ∃ name, returned = some name ∧ Name name read

theorem told_returningItem : Obeys (Told source (Returns Named)) returningItem := by
  intro state
  rw [returningItem, run_bind, run_ask, run_ite]
  split
  · rw [run_bind, run_word, run_bind, run_discard, run_bind]
    have read : Spells source _ state (identifier state).2 :=
      @spells_operand source [.identifier] (by decide) _ state
    have still := (closed_still .endOfInput).obeys_identifier (by decide) state
    generalize (identifier state).2 = after at read still ⊢
    dsimp only
    rw [run_ite]
    split
    · next present =>
      refine read.mono ?_
      rintro _ ⟨rfl, category⟩
      refine ⟨_, ⟨_, rfl, .single (List.mem_singleton.mp category)⟩, still.adds, ?_⟩
      rintro _ ⟨rfl⟩
      rw [still.unit_eq] at present
      exact SymbolTable.contains_iff_mem_keys.mp present
    · have closed := closed_still .endOfInput
      exact spells_of_reported (closed.trans still (closed.obeys_reportBefore _ after))
        (List.cons_ne_nil _ _)
  · exact spells_of_reported ((closed_still .endOfInput).obeys_reportBefore _ state)
      (List.cons_ne_nil _ _)

/-- `name.` -/
theorem told_returningEnd (problem : Problem) :
    Obeys (Told source (Returns fun returned => Then (Named returned) (Words ["."]))) (do
      returningItem
      expectOr "." problem) :=
  fun state => Told.returns_append (told_returningItem state)
    (tells_expectOr (by decide) problem _)

/-- What is read of a header after its first two words. -/
def HeaderEnd (kind : UnitKind) (returned : Option String) (read : List Token) : Prop :=
  (kind = .function → returned.isSome) ∧ Then (Returning returned) (Words ["."]) read

theorem told_headerEnd (kind : UnitKind) :
    Obeys (Told source (Returns (HeaderEnd kind))) (do
      match kind with
      | .function =>
          expect "RETURNING"
          returningItem
      | .program => if ← optional "RETURNING" then returningItem
      expectOr "." (.headerPeriod .procedure)) := by
  have joined {returned : Option String} {front rest : List Token}
      (word : Words ["RETURNING"] front) (named : Then (Named returned) (Words ["."]) rest) :
      HeaderEnd kind returned (front ++ rest) := by
    obtain ⟨item, period, rfl, ⟨name, rfl, named⟩, ends⟩ := named
    exact ⟨fun _ => rfl, _, period, (List.append_assoc _ _ _).symm,
      ⟨front, item, rfl, word, named⟩, ends⟩
  have period : Obeys (Tells source (Silent (Words ["."])))
      (expectOr "." (.headerPeriod .procedure)) :=
    tells_expectOr (by decide) _
  intro state
  cases kind with
  | function =>
      dsimp only
      rw [run_bind]
      exact Told.returns (tells_expect (by decide) state) (told_returningEnd _ _) joined
  | program =>
      dsimp only
      rw [run_bind, Analysis.optional, run_bind, run_ask, run_ite]
      split
      · next held =>
        exact Told.returns (tells_accept_of_holds held (by decide)) (told_returningEnd _ _) joined
      · refine Tells.returns (period state) fun ends => ⟨by simp, [], _, rfl, rfl, ends⟩

/-- The shape of the header of a procedure division of a unit of some kind. -/
def HeaderOf (kind : UnitKind) (returned : Option String) (read : List Token) : Prop :=
  (kind = .function → returned.isSome) ∧ ProcedureHeader returned read

theorem told_procedureHeader :
    Obeys (Told source fun before => Returns (HeaderOf before.unit.kind) before)
      procedureHeader := by
  intro state
  have closed := closed_still .endOfInput
  rw [procedureHeader, run_bind, run_bind, run_bind]
  have words : Tells source (Silent (Words (["PROCEDURE"] ++ ["DIVISION"]))) state
      (expect "DIVISION" (expect Division.procedure.keyword state).2).2 :=
    (tells_expect (by decide) state).append (tells_expect (by decide) _) Silent.words
  have first : Obeys State.Still (expect Division.procedure.keyword) :=
    closed.obeys_expect (by decide)
  have second : Obeys State.Still (expect "DIVISION") := closed.obeys_expect (by decide)
  have still := closed.trans (first state) (second _)
  generalize (expect "DIVISION" (expect Division.procedure.keyword state).2).2 = middle
    at words still ⊢
  have kind_eq := congrArg SourceUnit.kind still.unit_eq
  refine Told.returns words (told_headerEnd middle.unit.kind middle) ?_
  rintro returned _ _ words ⟨returns, rest⟩
  rw [kind_eq] at returns
  exact ⟨returns, _, _, rfl, words, rest⟩

/-- Statements declare nothing. -/
theorem adds_procedureBody (limit : Nat) : Obeys (Adds []) (procedureBody limit) := by
  have closed := closed_still .endOfInput
  have still : Obeys State.Still (procedureBody limit) :=
    closed.toChained.obeys_procedureBody (closed.obeys_all_sentences limit)
      (closed.obeys_paragraphHeader (by decide) (by decide))
  exact fun state => (still state).adds

/-! ## END markers -/

/-- `name.` -/
theorem tells_unitEndName (unit : SourceUnit) :
    Obeys (Tells source
      (Silent fun read => unit.name ≠ "" → Then (Name unit.name) (Words ["."]) read)) (do
        let name ← word
        if (← ask .identifier) && name != unit.name && unit.name != "" then
          reportHere (.general (.endMarkerName unit.kind unit.name))
        discard identifier
        expectOr "." (.endMarkerPeriod unit.kind)) := by
  have rest (state : State) : Tells source _ state ((do
      discard identifier
      expectOr "." (.endMarkerPeriod unit.kind) : Analysis Unit) state).2 :=
    (@tells_operand source [.identifier] (by decide) _ state).append
      (tells_expectOr (by decide) _ _) Silent.append
  intro state
  rw [run_bind, run_word, run_bind, run_ask, run_ite]
  split
  · rw [run_bind]
    exact (rest _).after_report ((closed_still .endOfInput).obeys_reportHere _ state)
      (List.cons_ne_nil _ _)
  · next same =>
    refine (rest state).mono ?_
    rintro names _ ⟨rfl, _, period, rfl, ⟨rfl, category⟩, ends⟩
    refine ⟨rfl, fun named => ⟨_, period, rfl, ?_, ends⟩⟩
    have held : Test.identifier.holds state = true := (Test.holds_has_iff _ _).mpr category
    have value_eq : state.current.value = unit.name := by simpa [held, named] using same
    rw [← value_eq]
    exact .single (List.mem_singleton.mp category)

/-- The END marker of a unit declares nothing. -/
theorem tells_unitEndMarker (unit : SourceUnit) :
    Obeys (Tells source (Silent fun read =>
      unit.name ≠ "" → EndMarker unit.kind unit.name true read)) (unitEndMarker unit) := by
  have known : unit.kind.keyword ≠ "EOF" := by cases unit.kind <;> decide
  have words : Obeys (Tells source (Silent (Words (["END"] ++ [unit.kind.keyword])))) (do
      expect "END"
      expect unit.kind.keyword) :=
    tells_words (tells_expect (by decide)) fun _ => tells_expect known
  intro state
  rw [unitEndMarker, run_bind, run_bind]
  refine Tells.append (words state) (tells_unitEndName unit _) ?_
  rintro _ _ front rest ⟨rfl, words⟩ ⟨rfl, ends⟩
  exact ⟨rfl, fun named => ⟨front, rest, rfl, words, ends named⟩⟩

/-- Whether a unit was closed, or else no other unit begins. -/
def Bounds (closed : Bool) (after : State) : Prop :=
  closed = true ∨ Test.unitStart.holds after = false

/-- Only a program may go without an END marker, and no other unit may follow it then. -/
theorem told_unitEnd (unit : SourceUnit) :
    Obeys (Told source fun before after read => Adds [] before after ∧ (unit.name ≠ "" →
      ∃ closed, (unit.kind = .function → closed = true) ∧
        EndMarker unit.kind unit.name closed read ∧ Bounds closed after)) (do
      if ← ask .unitStart then reportBefore (.missingEndMarker unit.kind)
      else if unit.kind = .function then unitEndMarker unit
      else if ← ask (.and (.is "END") (.next unit.kind.keyword)) then unitEndMarker unit) := by
  have marker : Obeys (Told source fun before after read => Adds [] before after ∧
      (unit.name ≠ "" → ∃ closed, (unit.kind = .function → closed = true) ∧
        EndMarker unit.kind unit.name closed read ∧ Bounds closed after))
      (unitEndMarker unit) := by
    refine fun state => Spells.mono (tells_unitEndMarker unit state) ?_
    rintro _ ⟨_, ⟨rfl, ends⟩, adds⟩
    exact ⟨adds, fun named => ⟨true, fun _ => rfl, ends named, .inl rfl⟩⟩
  intro state
  rw [run_bind, run_ask, run_ite]
  split
  · exact spells_of_reported ((closed_still .endOfInput).obeys_reportBefore _ state)
      (List.cons_ne_nil _ _)
  next last =>
  rw [run_ite]
  split
  · exact marker state
  · next program =>
    rw [run_bind, run_ask, run_ite]
    split
    · exact marker state
    · refine ⟨List.suffix_rfl, rfl, fun _ => ⟨[], rfl, .refl state, fun _ => ⟨false, ?_, rfl, ?_⟩⟩⟩
      · exact fun function => absurd function program
      · exact .inr (Bool.eq_false_iff.mpr last)

/-! ## Source units -/

/-- Whether the rest of a unit with a name was read, in tokens of a shape. -/
def Finishes (shape : UnitText → List Token → Prop) (before after : State) (read : List Token) :
    Prop :=
  before.unit.name ≠ "" → ∃ unit : UnitText, unit.kind = before.unit.kind ∧
    unit.name = before.unit.name ∧ shape unit read ∧ Adds unit.declared before after ∧
    (∀ name ∈ unit.returned, before.unit.key name ∈ after.table.keys) ∧
    unit.FunctionComplete ∧ Bounds unit.closed after

variable {body : List Token → Prop} {limit : Nat}

theorem told_procedureDivision (statements : Obeys (Spells source body) (procedureBody limit)) :
    Obeys (Told source (Finishes fun unit read =>
      unit.declared = [] ∧ ProcedureAround body unit read)) (procedureDivision limit) := by
  intro state
  rw [procedureDivision, run_bind, run_bind, run_bind, currentUnit]
  have header : Told source _ state (procedureHeader state).2 := told_procedureHeader state
  generalize (procedureHeader state).2 = middle at header ⊢
  have inside := Told.returns_append header
    (tells_of_silent (statements middle) (adds_procedureBody limit middle))
  generalize (procedureBody limit middle).2 = last at inside ⊢
  refine Spells.append inside (told_unitEnd last.unit last) ?_
  rintro _ _ ⟨returned, ⟨header, body, rfl, ⟨returns, heads⟩, inside⟩, adds, present⟩
    ⟨further, ends⟩ named
  obtain ⟨closed, closes, ends, bounds⟩ := ends (by rwa [adds.name_eq])
  rw [adds.kind_eq] at closes
  rw [adds.name_eq, adds.kind_eq] at ends
  refine ⟨⟨state.unit.kind, state.unit.name, [], returned, closed⟩, rfl, rfl,
    ⟨rfl, header, _, List.append_assoc _ _ _, heads, body, _, rfl, inside, ends⟩,
    adds.append further, ?_, fun function => ⟨returns function, closes function⟩, bounds⟩
  intro name listed
  rw [further.keys_eq_of_nil]
  exact present name listed

/-- A part of a unit before the rest of it, with the names that it declares. -/
theorem Told.finishes {early : List String → List Token → Prop}
    {shape whole : UnitText → List Token → Prop} (first : Tells source early before middle)
    (second : Told source (Finishes shape) middle after)
    (joined : ∀ {names unit front rest}, early names front → shape unit rest →
      whole { unit with declared := names ++ unit.declared } (front ++ rest)) :
    Told source (Finishes whole) before after := by
  refine Spells.append first second ?_
  rintro _ _ ⟨names, front, adds⟩ rest named
  rw [← adds.name_eq] at named
  obtain ⟨unit, kind_eq, name_eq, rest, further, present, ends⟩ := rest named
  refine ⟨{ unit with declared := names ++ unit.declared }, kind_eq.trans adds.kind_eq,
    name_eq.trans adds.name_eq, joined front rest, adds.append further, fun name listed => ?_,
    ends⟩
  rw [← adds.key_eq]
  exact present name listed

/-- A part of a unit that may be left out. -/
theorem told_optional {test : Test} {part : Analysis Unit} {next : Unit → Analysis Unit}
    {early : List String → List Token → Prop} {shape whole : UnitText → List Token → Prop}
    (read : Obeys (Tells source early) part) (omitted : early [] [])
    (rest : Obeys (Told source (Finishes shape)) (next ()))
    (joined : ∀ {names unit front rest}, early names front → shape unit rest →
      whole { unit with declared := names ++ unit.declared } (front ++ rest)) :
    Obeys (Told source (Finishes whole))
      (ask test >>= fun held => if held then part >>= next else next ()) := by
  refine obeys_ask (fun state _ => ?_) fun state _ => ?_
  · rw [run_bind]
    exact Told.finishes (read state) (rest _) joined
  · exact Told.finishes (tells_of_unmoved omitted) (rest state) joined

theorem told_divisions (statements : Obeys (Spells source body) (procedureBody limit)) :
    Obeys (Told source (Finishes (DivisionsAround body))) (do
      if ← ask (.is "ENVIRONMENT") then divisionHeader .environment
      if ← ask (.is "DATA") then dataDivision
      procedureDivision limit) := by
  have environment : Obeys (Tells source (Silent (OptionalHeader .environment)))
      (divisionHeader .environment) := by
    refine fun state => (tells_divisionHeader _ state).mono ?_
    rintro _ _ ⟨rfl, header⟩
    exact ⟨rfl, .inr header⟩
  have data : Obeys (Tells source OptionalData) dataDivision :=
    fun state => (tells_dataDivision state).mono .inr
  have rest : Obeys (Told source (Finishes fun unit =>
      Then (OptionalData unit.declared) (ProcedureAround body unit))) (do
        if ← ask (.is "DATA") then dataDivision
        procedureDivision limit) := by
    refine told_optional data (.inl ⟨rfl, rfl⟩) (told_procedureDivision statements) ?_
    rintro names unit front rest data ⟨none, procedure⟩
    rw [none, List.append_nil]
    exact ⟨front, rest, rfl, data, procedure⟩
  refine told_optional environment ⟨rfl, .inl rfl⟩ rest ?_
  rintro _ unit front rest ⟨rfl, header⟩ divisions
  exact ⟨front, rest, rfl, header, divisions⟩

/-- Whether a unit was read. The keys of its items are new in the table, which has that
of the item that it returns. -/
def ReadsUnit (body : List Token → Prop) (before after : State) (read : List Token) : Prop :=
  ∃ unit : UnitText, unit.ShapesAround body read ∧
    after.table.keys = before.table.keys ++ unit.keys ∧
    (∀ name ∈ unit.returned, ⟨unit.name, name⟩ ∈ before.table.keys ++ unit.keys) ∧
    unit.FunctionComplete ∧ Bounds unit.closed after

theorem told_sourceUnit (statements : Obeys (Spells source body) (procedureBody limit)) :
    Obeys (Told source (ReadsUnit body)) (sourceUnit limit) := by
  refine told_bind told_identification (fun _ => told_divisions statements) ?_
  rintro before middle after front rest ⟨kind, name, identified, named, unit_eq, kept⟩ finishes
  obtain ⟨unit, kind_eq, name_eq, divisions, adds, present, ends⟩ :=
    finishes (by rw [unit_eq]; exact named)
  have key : middle.unit.key = SymbolKey.mk unit.name := by rw [name_eq]; rfl
  have keys_eq : after.table.keys = before.table.keys ++ unit.keys := by
    rw [adds.keys_eq, kept, key]
    rfl
  rw [unit_eq] at kind_eq name_eq
  dsimp only at kind_eq name_eq
  subst kind_eq name_eq
  refine ⟨unit, ⟨front, rest, rfl, identified, divisions⟩, keys_eq, fun name listed => ?_, ends⟩
  have present := present name listed
  rwa [key, keys_eq] at present

/-- Whether units were read, one after the other. -/
def ReadsUnits (before after : State) (read : List Token) : Prop :=
  ∃ units, Row UnitText.Shapes units read ∧
    after.table.keys = before.table.keys ++ units.flatMap UnitText.keys ∧
    ReturnsDeclared before.table.keys units

theorem chained_readsUnits (source : String) : Chained (Told source ReadsUnits) where
  refl _ := ⟨List.suffix_rfl, rfl, fun _ => ⟨[], rfl, [], .nil, (List.append_nil _).symm, trivial⟩⟩
  reports told := told.reports
  trans {before middle after} early late := by
    refine Spells.append early late ?_
    rintro _ _ ⟨units, front, keys_eq, declared⟩ ⟨others, rest, further_eq, further⟩
    refine ⟨units ++ others, front.append rest, ?_, ?_⟩
    · rw [further_eq, keys_eq, List.flatMap_append, List.append_assoc]
    · rw [keys_eq] at further
      exact declared.append further

theorem told_sourceUnits (limit : Nat) :
    Obeys (Told source ReadsUnits) (sourceUnits limit) := by
  refine (chained_readsUnits source).obeys_sourceUnits fun state => ?_
  refine Spells.mono (told_sourceUnit (spells_procedureBody limit) state) ?_
  rintro read ⟨unit, reads, keys_eq, present, complete, -⟩
  refine ⟨[unit], .single (reads.shapes complete), ?_, present, trivial⟩
  rw [keys_eq, List.flatMap_singleton]

end State

end CobolCheck
