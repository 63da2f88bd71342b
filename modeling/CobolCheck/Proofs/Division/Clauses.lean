import CobolCheck.Proofs.Division.Description
import CobolCheck.Proofs.Division.Entries
import CobolCheck.Proofs.Analysis.Reads

/-!
# Reading data description entries

An entry of the grammar is read up to its period. Its item is the latest entry of
the table, and each clause makes its own change to that item.
-/

namespace CobolCheck

open Grammar

/-! ## The latest item -/

namespace SymbolTable

/-- A change to the last entry leaves all others as they are. -/
theorem entries_update_of_eq_concat {table : SymbolTable} {front : List (SymbolKey × Item)}
    {key : SymbolKey} {item : Item} (entries_eq : table.entries = front ++ [(key, item)])
    (change : Item → Item) : (table.update key change).entries = front ++ [(key, change item)] := by
  have nodup := table.nodup_keys
  rw [entries_eq, List.map_append, List.nodup_append] at nodup
  have others : ∀ entry ∈ front, entry.1 ≠ key := fun entry member =>
    nodup.2.2 _ (List.mem_map_of_mem member) key (List.mem_singleton_self key)
  have same : front.map (fun entry => if entry.1 = key then (entry.1, change entry.2) else entry) =
      front.map id :=
    List.map_congr_left fun entry member => if_neg (others entry member)
  simp [update, entries_eq, same]

end SymbolTable

/-- The last entry of the table is an item under a key, and it was declared by
the same unit after all others. -/
structure Latest (start : SourceUnit × SymbolTable) (key : SymbolKey) (item : Item)
    (declared : SourceUnit × SymbolTable) : Prop where
  unit_eq : declared.1 = start.1
  entries_eq : declared.2.entries = start.2.entries ++ [(key, item)]

namespace Analysis

variable {α : Type} {base start : SourceUnit × SymbolTable} {key : SymbolKey} {item : Item}
  {word : String} {words rest : List String}

/-- A name that is not taken is declared in the current section. -/
theorem reads_declare {name : Token} (fresh : start.1.key name.value ∉ start.2.keys) :
    Reads start (declare name item) [] rest fun found declared =>
      found = some (start.1.key name.value) ∧
        Latest start (start.1.key name.value) { item with inSection := start.1.currentSection }
          declared := by
  rintro state - rfl
  have absent := SymbolTable.get?_eq_none_iff.mpr fresh
  obtain ⟨next, added⟩ := SymbolTable.exists_add_of_get?_eq_none absent
    { item with inSection := state.declared.1.currentSection }
  have run_eq : declare name item state =
      (some (state.unit.key name.value), { state with table := next }) := by
    simp only [State.declared] at added
    simp only [declare, added]
  rw [run_eq]
  exact ⟨⟨rfl, rfl, SymbolTable.entries_of_add_eq_ok added⟩, state.passed_declared _ next⟩

/-- The header of an entry declares the item that is made from its words. -/
theorem reads_entryHeader {create : String → Nat → Nat → Item} {level name : String}
    (numbered : IsOperand [.numeric] level) (named : IsName name)
    (fresh : start.1.key name ∉ start.2.keys) :
    Reads start (entryHeader create) [level, name] rest fun found declared =>
      found = some (start.1.key name) ∧ ∃ line,
        Latest start (start.1.key name)
          { create name ((Level.ofText? level).getD 0) line with
            inSection := start.1.currentSection } declared := by
  apply Reads.word_bind
  apply Reads.discard_bind
  apply Reads.operand_bind numbered
  obtain ⟨category, listed, role⟩ := named
  apply Reads.token_bind role
  rintro token rfl -
  apply Reads.operand_bind ⟨category, listed, role⟩
  rw [if_pos rfl]
  apply (reads_declare fresh).mono
  rintro _ _ ⟨rfl, latest⟩
  exact ⟨rfl, token.line, latest⟩

/-- An operation on the latest item changes it. -/
theorem reads_revise {operation : Operation} (latest : Latest base key item start) :
    Reads start (revise (some key) operation) [] rest
      fun _ declared => Latest base key (operation.change item) declared := by
  rintro state - rfl
  exact ⟨⟨latest.unit_eq, SymbolTable.entries_update_of_eq_concat latest.entries_eq _⟩,
    state.passed_declared _ _⟩

theorem Reads.revise_bind {operation : Operation} {next : Unit → Analysis α}
    {ends : α → SourceUnit × SymbolTable → Prop} (latest : Latest base key item start)
    (reads : ∀ middle, Latest base key (operation.change item) middle →
      Reads middle (next ()) words rest ends) :
    Reads start (revise (some key) operation >>= next) words rest ends := by
  rw [← List.nil_append words]
  apply Reads.bind (reads_revise latest)
  intro _ middle changed
  exact reads middle changed

/-! ## Clauses -/

open Clause

variable {clause : Clause} {listed : List Clause}

/-- A word that may be left out is accepted where it is not. -/
theorem accepts_optionalWord (word : String) (present : Bool) (differs : textAt rest 0 ≠ word) :
    Accepts start (discard <| optional word) (optionalWord word present) rest := by
  apply Accepts.discard
  cases present with
  | true => exact (reads_optional word rest).mono fun _ _ ends => ends.2
  | false => exact (reads_optional_absent differs).mono fun _ _ ends => ends.2

/-- The words that may follow a clause. -/
def clauseEnds : List String :=
  "." :: Word.clauseWords

theorem reads_externalClause {is : Bool} {literal : Option String}
    (latest : Latest base key item start) (wellFormed : (external is literal).WellFormed)
    (follows : Begins clauseEnds rest) :
    Reads start (externalClause (some key)) (external is literal).words rest
      fun _ declared => Latest base key ((external is literal).change key.name item) declared := by
  apply (accepts_optionalWord "IS" is (by simp)).bind
  intro _
  apply Reads.expect_bind
  cases literal with
  | none =>
      apply Reads.absent_bind
      · exact follows.textAt_ne (by decide)
      · exact reads_revise latest
  | some literal =>
      apply Reads.optional_bind
      apply Reads.held
      · exact on_has (wellFormed literal rfl) rest
      apply Reads.word_bind
      apply Reads.accept_bind
      exact reads_revise latest

theorem reads_globalClause (is : Bool) (latest : Latest base key item start) :
    Reads start (globalClause (some key)) (optionalWord "IS" is ++ ["GLOBAL"]) rest
      fun _ declared => Latest base key (Operation.change .setGlobal item) declared := by
  apply (accepts_optionalWord "IS" is (by simp)).bind
  intro _
  apply Reads.expect_bind
  exact reads_revise latest

theorem reads_digitCount {digits : String} (numbered : IsOperand [.numeric] digits) :
    Reads start digitCount ["(", digits, ")"] rest
      fun found declared => found = digits ∧ declared = start := by
  apply Reads.expect_bind
  apply Reads.word_bind
  apply Reads.discard_bind
  apply Reads.operand_bind numbered
  apply Reads.expect_bind
  exact .pure ⟨rfl, rfl⟩

theorem reads_pictureTypeCode (type : PictureType) (latest : Latest base key item start) :
    Reads start (pictureTypeCode (some key)) [type.code] rest fun found declared =>
      found = some type ∧ Latest base key (Operation.change (.setType type) item) declared := by
  apply Reads.word_bind
  rw [List.cons_append, textAt_cons_zero, PictureType.ofCode?_code]
  apply Reads.accept_bind
  apply Reads.revise_bind latest
  intro _ changed
  exact .pure ⟨rfl, changed⟩

theorem reads_pictureClause {keyword digits : String} {is : Bool} {type : PictureType}
    {scale : Option String} (latest : Latest base key item start)
    (wellFormed : (picture keyword is type digits scale).WellFormed)
    (follows : Begins clauseEnds rest) :
    Reads start (pictureClause (some key)) (picture keyword is type digits scale).words rest
      fun _ declared =>
        Latest base key ((picture keyword is type digits scale).change key.name item) declared := by
  obtain ⟨known, numbered, scaled⟩ := wellFormed
  have code_ne : type.code ≠ "IS" := by
    cases type <;> decide
  apply (accepts_choose known _).bind
  intro _
  apply (accepts_optionalWord "IS" is (by simpa using code_ne)).bind
  intro _
  apply Reads.bind (reads_pictureTypeCode type latest)
  rintro _ middle ⟨rfl, typed⟩
  apply Reads.bind (reads_digitCount numbered)
  rintro _ _ ⟨rfl, rfl⟩
  cases scale with
  | none =>
      apply Reads.refused
      · exact follows.on_is_eq_false (by decide)
      · exact reads_revise typed
  | some places =>
      obtain ⟨numeric, counted⟩ := scaled places rfl
      apply Reads.held (on_is _ _)
      simp only [Option.any_some, numeric, Bool.not_true, Bool.false_eq_true, if_false]
      apply Reads.accept_bind
      apply Reads.bind_nil (reads_digitCount counted)
      rintro _ _ ⟨rfl, rfl⟩
      exact reads_revise typed

theorem reads_valueClause {literal : String} (latest : Latest base key item start)
    (wellFormed : (value literal).WellFormed) :
    Reads start (valueClause (some key)) ["VALUE", literal] rest
      fun _ declared => Latest base key ((value literal).change key.name item) declared := by
  apply Reads.expect_bind
  apply Reads.held
  · exact on_has wellFormed rest
  apply Reads.word_bind
  apply Reads.revise_bind latest
  intro _ changed
  apply (accepts_accept literal rest).mono
  rintro _ _ rfl
  exact changed

theorem Reads.clauseWord_bind {next : String → Analysis α}
    {ends : α → SourceUnit × SymbolTable → Prop} (other : word ≠ "IS")
    (reads : Reads start (next word) (word :: words) rest ends) :
    Reads start (clauseWord >>= next) (word :: words) rest ends := by
  have refused : (Test.and (.is "IS") (.word 1 ["EXTERNAL", "GLOBAL", "TYPEDEF"])).on
      ([] ++ (word :: words ++ rest)) = false := by
    simp [Test.on, Test.is, other]
  have found : Reads start clauseWord [] (word :: words ++ rest)
      fun found declared => found = word ∧ declared = start := by
    apply Reads.refused refused
    apply Reads.word_bind
    exact .pure ⟨rfl, rfl⟩
  apply Reads.bind found
  rintro _ _ ⟨rfl, rfl⟩
  exact reads

/-- The word IS is passed over to see which clause begins. -/
theorem Reads.clauseWord_is_bind {next : String → Analysis α}
    {ends : α → SourceUnit × SymbolTable → Prop} (is : Bool)
    (known : word ∈ ["EXTERNAL", "GLOBAL", "TYPEDEF"])
    (reads : Reads start (next word) (optionalWord "IS" is ++ word :: words) rest ends) :
    Reads start (clauseWord >>= next) (optionalWord "IS" is ++ word :: words) rest ends := by
  cases is with
  | true =>
      have held : (Test.and (.is "IS") (.word 1 ["EXTERNAL", "GLOBAL", "TYPEDEF"])).on
          ([] ++ ("IS" :: word :: words ++ rest)) = true := by
        simpa [Test.on, Test.is] using known
      have found : Reads start clauseWord [] ("IS" :: word :: words ++ rest)
          fun found declared => found = word ∧ declared = start := by
        apply Reads.held held
        rintro state ahead rfl
        exact ⟨⟨(ahead.lookahead 1).1, rfl⟩, .refl state⟩
      apply Reads.bind found
      rintro _ _ ⟨rfl, rfl⟩
      exact reads
  | false =>
      have other : word ≠ "IS" := by
        rintro rfl
        simp at known
      exact Reads.clauseWord_bind other reads

/-- What an analysis declares stays declared when a value is given back after it. -/
theorem Reads.returning {analysis : Analysis Unit} {ends : SourceUnit × SymbolTable → Prop}
    (value : α) (reads : Reads start analysis words rest fun _ declared => ends declared) :
    Reads start (do analysis; return value) words rest
      fun found declared => found = value ∧ ends declared := by
  apply Reads.bind_nil reads
  intro _ _ holds
  exact .pure ⟨rfl, holds⟩

/-- Each clause makes its own change to the latest item. -/
theorem reads_clause (latest : Latest base key item start) (wellFormed : clause.WellFormed)
    (follows : Begins clauseEnds rest) :
    Reads start (Analysis.clause (some key)) clause.words rest fun found declared =>
      found = clause.isPicture ∧ Latest base key (clause.change key.name item) declared := by
  cases clause with
  | external is literal =>
      apply Reads.clauseWord_is_bind is (by simp)
      exact (reads_externalClause latest wellFormed follows).returning false
  | global is =>
      apply Reads.clauseWord_is_bind is (by simp)
      exact (reads_globalClause is latest).returning false
  | typedef is =>
      apply Reads.clauseWord_is_bind is (by simp)
      apply (accepts_optionalWord "IS" is (by simp)).bind
      intro _
      apply Reads.expect_bind
      exact .pure ⟨rfl, latest⟩
  | based =>
      apply Reads.clauseWord_bind (by decide)
      apply Reads.accept_bind
      apply Reads.revise_bind latest
      intro _ changed
      exact .pure ⟨rfl, changed⟩
  | picture keyword is type digits scale =>
      rcases List.mem_cons.mp wellFormed.1 with rfl | single
      · apply Reads.clauseWord_bind (by decide)
        exact (reads_pictureClause latest wellFormed follows).returning true
      · obtain rfl := List.mem_singleton.mp single
        apply Reads.clauseWord_bind (by decide)
        exact (reads_pictureClause latest wellFormed follows).returning true
  | value literal =>
      apply Reads.clauseWord_bind (by decide)
      exact (reads_valueClause latest wellFormed).returning false
  | other word =>
      have silent : word ∉ keywords := wellFormed.2
      simp only [keywords, List.mem_cons, not_or] at silent
      apply Reads.clauseWord_bind (by simp [silent])
      -- Only the last branch is left to a word that is no keyword.
      split
      case h_9 => exact .accept_bind (.pure ⟨rfl, latest⟩)
      all_goals simp at silent

/-- A clause begins with a word for clauses. -/
theorem begins_clause (wellFormed : clause.WellFormed) : Begins Word.clauseWords clause.words := by
  cases clause with
  | external is literal => cases is <;> exact begins_cons (by decide) _
  | global is => cases is <;> exact begins_cons (by decide) _
  | typedef is => cases is <;> exact begins_cons (by decide) _
  | based => exact begins_cons (by decide) _
  | picture keyword is type digits scale =>
      have known : ∀ word ∈ ["PIC", "PICTURE"], word ∈ Word.clauseWords := by
        decide
      exact begins_cons (known keyword wellFormed.1) _
  | value literal => exact begins_cons (by decide) _
  | other word => exact begins_cons wellFormed.1 _

/-- What follows a clause is another one, or the period of the entry. -/
theorem begins_clauses (wellFormed : ∀ clause ∈ listed, clause.WellFormed) (more : List String) :
    Begins clauseEnds (listed.flatMap Clause.words ++ "." :: more) := by
  cases listed with
  | nil => exact begins_cons (by decide) more
  | cons clause listed =>
      have begins := begins_clause (wellFormed clause List.mem_cons_self)
      rw [List.flatMap_cons, List.append_assoc]
      exact (begins.mono fun _ known => List.mem_cons_of_mem _ known).append _

theorem on_clause (begins : Begins Word.clauseWords words) : Test.clause.on words = true := by
  obtain ⟨word, known, more, rfl⟩ := begins
  simp [Test.clause, Test.on, roleAt_cons_zero (role?_clauseWord word known)]

/-- The clauses of an entry are read up to its period, and make their changes in turn. -/
theorem reads_clauses (latest : Latest base key item start)
    (wellFormed : ∀ clause ∈ listed, clause.WellFormed) :
    Reads start (clauses (some key)) (listed.flatMap Clause.words) ("." :: rest)
      fun found declared => found = listed.any isPicture ∧
        Latest base key (Clause.changes key.name listed item) declared := by
  have period : Test.clause.on ("." :: rest) = false := by
    simp [Test.clause, Test.on, roleAt_cons_zero (role?_mark "." (by decide))]
  rw [clauses, ← Bool.false_or (listed.any isPicture)]
  -- The loop begins without a picture, but goes on with any answer so far.
  generalize false = picture
  induction listed generalizing picture item start with
  | nil =>
      apply Reads.loop_none
      apply Reads.refused period
      exact .pure ⟨rfl, (Bool.or_false picture).symm, latest⟩
  | cons clause listed ih =>
      rw [List.forall_mem_cons] at wellFormed
      have begins := begins_clause wellFormed.1
      have nonempty : clause.words ≠ [] := by
        obtain ⟨word, _, more, words_eq⟩ := begins
        simp [words_eq]
      apply Reads.loop_some (fun next declared => next = (picture || clause.isPicture) ∧
        Latest base key (clause.change key.name item) declared) nonempty
      · apply Reads.held (on_clause (begins.append _))
        apply Reads.bind_nil (reads_clause latest wellFormed.1 (begins_clauses wellFormed.2 rest))
        rintro _ _ ⟨rfl, changed⟩
        exact .pure ⟨_, rfl, rfl, changed⟩
      · rintro _ middle ⟨rfl, changed⟩
        apply (ih changed wellFormed.2 _).mono
        rintro _ _ ⟨rfl, further⟩
        exact ⟨Bool.or_assoc .., further⟩

end Analysis

/-! ## Entries -/

namespace SymbolTable

/-- A table gains the items of a unit in the order in which they are declared,
each under the name of the unit and its own. -/
def Gains (table : SymbolTable) (unit : String) (items : List Item) (next : SymbolTable) : Prop :=
  ∃ added, next.entries = table.entries ++ added ∧
    added.map (fun entry => (entry.1, entry.2.unlined)) =
      items.map fun item => (⟨unit, item.identifier⟩, item)

end SymbolTable

/-- The items are declared, and their section is still being read. -/
structure Gained (base : SourceUnit × SymbolTable) (items : List Item)
    (declared : SourceUnit × SymbolTable) : Prop where
  unit_eq : declared.1 = base.1
  gains : base.2.Gains base.1.name items declared.2

namespace Analysis

variable {base start : SourceUnit × SymbolTable} {kind : DataSection} {rest : List String}

/-- The period of an entry is read when its item is done. -/
theorem reads_entryPeriod {item done : Item}
    (latest : Latest base (base.1.key done.identifier) item start) (done_eq : item.unlined = done) :
    Reads start entryPeriod ["."] rest fun _ declared => Gained base [done] declared := by
  apply (accepts_expectOr "." _ rest).mono
  rintro _ _ rfl
  obtain ⟨unit_eq, entries_eq⟩ := latest
  constructor
  · exact unit_eq
  · refine ⟨_, entries_eq, ?_⟩
    rw [List.map_singleton, done_eq]
    rfl

/-- A storage entry declares the item that all of its clauses describe. -/
theorem reads_storageEntry {entry : StorageEntry} (wellFormed : entry.WellFormed)
    (fresh : start.1.key entry.name ∉ start.2.keys)
    (section_eq : start.1.currentSection = some kind) :
    Reads start storageEntry entry.words rest
      fun _ declared => Gained start [entry.item kind] declared := by
  have clauses_eq := begins_clauses wellFormed.clauses rest
  have ready : (Test.or .clause (.or (.is ".") .eof)).on
      (entry.clauses.flatMap Clause.words ++ "." :: rest) = true := by
    obtain ⟨word, known, more, words_eq⟩ := clauses_eq
    rw [words_eq, Test.on]
    rcases List.mem_cons.mp known with rfl | clause
    · simp [Test.on, Test.is]
    · simp [on_clause (begins_cons clause more)]
  have header := @reads_entryHeader start
    (entry.clauses.flatMap Clause.words ++ ["."] ++ rest) Item.storage _ _ wellFormed.level
    wellFormed.name fresh
  apply Reads.bind header
  rintro _ middle ⟨rfl, line, latest⟩
  rw [section_eq] at latest
  apply Reads.held
  · simpa using ready
  apply Reads.bind (reads_clauses latest wellFormed.clauses)
  rintro _ _ ⟨rfl, changed⟩
  apply Reads.revise_bind changed
  intro after shaped
  exact reads_entryPeriod shaped (entry.unlined_setShape_changes kind line)

/-! ### Constants -/

/-- No length is asked for before the period of an entry. -/
theorem accepts_noLength {phrase : Analysis Unit} :
    Accepts start (["LENGTH", "BYTE-LENGTH"].forM fun kind => do if ← optional kind then phrase)
      [] ("." :: rest) := by
  have absent : ∀ kind ∈ ["LENGTH", "BYTE-LENGTH"],
      Accepts start (do if ← optional kind then phrase) [] ("." :: rest) := by
    intro kind listed
    apply Reads.absent_bind
    · rintro rfl
      simp at listed
    · exact .pure rfl
  apply Reads.bind_nil (absent _ List.mem_cons_self)
  rintro _ _ rfl
  apply Reads.bind_nil (absent _ (List.mem_cons_of_mem _ List.mem_cons_self))
  rintro _ _ rfl
  exact .pure rfl

/-- The value of a constant is read up to the period of its entry. -/
theorem reads_constantValue {entry : ConstantEntry} (wellFormed : entry.WellFormed) :
    Reads start constantValue entry.valueWords ("." :: rest) fun found declared =>
      found = some entry.value ∧ declared = start := by
  obtain ⟨level, name, share, as, value⟩ := entry
  have constant := wellFormed.value
  cases value with
  | ofItem name =>
      apply Reads.optional_bind
      apply Reads.word_bind
      apply Reads.operand_bind constant
      exact .pure ⟨rfl, rfl⟩
  | literal text =>
      have other : text ∉ ["FROM", "AS"] := constant.notMem (by decide) (by decide)
      simp only [List.mem_cons, List.not_mem_nil, or_false, not_or] at other
      apply Reads.absent_bind
      · cases as <;> simp [ConstantEntry.valueWords, optionalWord, other]
      apply (accepts_optionalWord "AS" as (by simpa using other.2)).bind
      intro _
      apply Reads.word_bind
      apply Reads.ask_bind
      have known : (Test.has [.string, .numeric, .figurative]).on ([text] ++ "." :: rest) = true :=
        on_has constant _
      simp only [known, if_true]
      apply Reads.accept_bind
      apply Reads.bind_nil accepts_noLength
      rintro _ _ rfl
      exact .pure ⟨rfl, rfl⟩

/-- The last words of a constant entry give its constant a value. -/
theorem reads_constantEnd {entry : ConstantEntry} {item : Item}
    (wellFormed : entry.WellFormed) (latest : Latest base (base.1.key entry.name) item start)
    (done_eq : (item.setValue entry.value).unlined = entry.item kind) :
    Reads start (constantEnd (some (base.1.key entry.name))) (entry.valueWords ++ ["."]) rest
      fun _ declared => Gained base [entry.item kind] declared := by
  apply Reads.bind (reads_constantValue wellFormed)
  rintro _ _ ⟨rfl, rfl⟩
  apply Reads.revise_bind latest
  intro after changed
  exact reads_entryPeriod changed done_eq

/-- Neither of the words that share a constant begins its value. -/
theorem textAt_valueWords_notMem {entry : ConstantEntry} (wellFormed : entry.WellFormed)
    (more : List String) : textAt (entry.valueWords ++ more) 0 ∉ ["IS", "GLOBAL"] := by
  obtain ⟨level, name, share, as, value⟩ := entry
  have constant := wellFormed.value
  cases value with
  | ofItem name => simp [ConstantEntry.valueWords]
  | literal text =>
      cases as with
      | true => simp [ConstantEntry.valueWords, optionalWord]
      | false => exact constant.notMem (by decide) (by decide)

/-- A constant entry declares a constant with its value. -/
theorem reads_constantEntry {entry : ConstantEntry} (wellFormed : entry.WellFormed)
    (fresh : start.1.key entry.name ∉ start.2.keys)
    (section_eq : start.1.currentSection = some kind) :
    Reads start constantEntry entry.words rest
      fun _ declared => Gained start [entry.item kind] declared := by
  have levels : ∀ word ∈ ["01", "1"], IsOperand [.numeric] word := by
    decide +kernel
  have header := @reads_entryHeader start
    ("CONSTANT" :: (entry.shareWords ++ entry.valueWords ++ ["."]) ++ rest) Item.constant _ _
    (levels _ wellFormed.level) wellFormed.name fresh
  apply Reads.held
  · simpa [Test.isAny, Test.on, ConstantEntry.words] using wellFormed.level
  apply Reads.bind header
  rintro _ middle ⟨rfl, line, latest⟩
  rw [section_eq] at latest
  apply Reads.expect_bind
  rw [List.append_assoc]
  have done_eq := entry.unlined_setValue kind line
  cases shared : entry.share with
  | none =>
      have words_eq : entry.shareWords = [] := by
        rw [ConstantEntry.shareWords, shared]
      rw [shared] at done_eq
      rw [words_eq, List.nil_append]
      apply Reads.refused
      · have other := textAt_valueWords_notMem wellFormed (["."] ++ rest)
        rw [List.append_assoc]
        simpa [Test.isAny, Test.on] using other
      · exact reads_constantEnd wellFormed latest done_eq
  | some is =>
      have words_eq : entry.shareWords = optionalWord "IS" is ++ ["GLOBAL"] := by
        rw [ConstantEntry.shareWords, shared]
      rw [shared] at done_eq
      rw [words_eq]
      apply Reads.held
      · cases is <;> simp [Test.isAny, Test.on, optionalWord]
      · apply Reads.bind (reads_globalClause is latest)
        intro _ next changed
        exact reads_constantEnd wellFormed changed done_eq

end Analysis

end CobolCheck
