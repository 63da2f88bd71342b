import CobolCheck.Check
import CobolCheck.Proofs.Division.Forked
import CobolCheck.Proofs.Progress
import CobolCheck.Proofs.Statement.Depth

/-!
# The bound on nesting

No routine of an analysis leaves a sequence of statements open. So none is open between two
sentences, wherever they stand in a source text, and the statement that a sentence begins with
may be read with the counter as the only guard against sequences that are nested too deeply. It
is then one of 257 statements at most that are being read at once.
-/

namespace CobolCheck

open Analysis State

variable {depth limit : Nat} {kept : Nat → Prop}

theorem Analysis.level_declare (name : Token) (item : Item) :
    Tracks (fun _ => True) (Level depth kept) Eq (declare name item) (declare name item) := by
  refine ⟨fun _ => trivial, fun {first second} level _ => ⟨by rw [level.eq], ?_⟩⟩
  refine level.map (fun state => (declare name item state).2) ?_ ?_
  all_goals
    unfold Analysis.declare
    dsimp only
    split <;> rfl

/-- The divisions of a source unit count nothing either. -/
theorem State.abreastUnits_level (depth : Nat) (kept : Nat → Prop) :
    AbreastUnits 2 Eq (fun _ => True) Eq (Level depth kept) where
  toAbreast := abreast_level depth kept
  nameless := rfl
  refl_key _ _ := rfl
  unit level := congrArg State.unit level.eq
  withUnit unit level := level.map (fun state => { state with unit }) rfl rfl
  declare _ _ level same _ := by
    subst same
    exact (level_declare _ _).tracks level trivial
  revise {first second key _} operation level same := by
    subst same
    refine level.map (fun state => (reviseBy key operation state).2) ?_ ?_
    all_goals cases key <;> rfl
  returned name level _ := by
    refine level.map (fun state => (checkReturned name state).2) ?_ ?_
    all_goals
      unfold checkReturned
      rw [run_bind, run_ite]
      split <;> rfl

namespace Analysis

variable {α : Type}

theorem level_entryHeader (create : String → Nat → Nat → Item) :
    Tracks (fun _ => True) (Level depth kept) Eq (entryHeader create) (entryHeader create) := by
  have abreast := abreast_level depth kept
  refine tracks_then abreast.tracks_word fun level => ?_
  refine tracks_then abreast.tracks_number fun _ => ?_
  refine tracks_then (level_matcher (.look State.current)) fun name => ?_
  refine tracks_then abreast.tracks_identifier fun named => ?_
  exact tracks_ite _ (level_declare name _) (tracks_same none)

theorem level_sourceText
    (grows : ∀ peak opened, opened ≤ depth + limit → kept peak → kept (max peak opened)) :
    Tracks (fun _ => True) (Level depth kept) Eq (sourceText limit) (sourceText limit) := by
  refine (abreastUnits_level depth kept).tracks_sourceText (level_sentences grows) ?_
  refine tracks_modify (fun _ _ => trivial) fun level _ => ?_
  exact level.map (fun state => state.emit state.current) rfl rfl

/-- Every analysis of divisions leaves as many sequences open as there were. -/
theorem DivisionRoutine.balanced {analysis : Analysis α}
    (routine : DivisionRoutine limit analysis) : Obeys Balanced analysis := by
  have abreast {depth floor : Nat} := abreastUnits_level depth (floor ≤ ·)
  have text {depth floor : Nat} :
      Tracks (fun _ => True) (Level depth (floor ≤ ·)) Eq (Analysis.sentences limit)
        (Analysis.sentences limit) :=
    level_sentences le_max_of_le
  have body {depth floor : Nat} :
      Tracks (fun _ => True) (Level depth (floor ≤ ·)) Eq (Analysis.procedureBody limit)
        (Analysis.procedureBody limit) :=
    abreast.tracks_procedureBody text abreast.tracks_paragraphHeader
  cases routine with
  | declare name item => exact balanced_of_tracks (level_declare name item)
  | revise key operation => exact balanced_of_tracks (abreast.tracks_revise rfl operation)
  | entryHeader create => exact balanced_of_tracks (level_entryHeader create)
  | entryPeriod => exact balanced_of_tracks abreast.tracks_entryPeriod
  | externalClause key => exact balanced_of_tracks (abreast.tracks_externalClause rfl)
  | globalClause key => exact balanced_of_tracks (abreast.tracks_globalClause rfl)
  | pictureTypeCode key => exact balanced_of_tracks (abreast.tracks_pictureTypeCode rfl)
  | digitCount => exact balanced_of_tracks abreast.tracks_digitCount
  | pictureClause key => exact balanced_of_tracks (abreast.tracks_pictureClause rfl)
  | valueClause key => exact balanced_of_tracks (abreast.tracks_valueClause rfl)
  | clauseWord => exact balanced_of_tracks abreast.tracks_clauseWord
  | clause key => exact balanced_of_tracks (abreast.tracks_clause rfl)
  | clauses key => exact balanced_of_tracks (abreast.tracks_clauses rfl)
  | storageEntry => exact balanced_of_tracks abreast.tracks_storageEntry
  | constantValue => exact balanced_of_tracks abreast.tracks_constantValue
  | constantEntry => exact balanced_of_tracks abreast.tracks_constantEntry
  | recordEntries => exact balanced_of_tracks abreast.tracks_recordEntries
  | entries => exact balanced_of_tracks abreast.tracks_entries
  | divisionHeader division => exact balanced_of_tracks (abreast.tracks_divisionHeader division)
  | beginSection kind => exact balanced_of_tracks (abreast.tracks_beginSection kind)
  | dataSection kind => exact balanced_of_tracks (abreast.tracks_dataSection kind)
  | dataDivision => exact balanced_of_tracks abreast.tracks_dataDivision
  | beginUnit unit => exact balanced_of_tracks (abreast.tracks_beginUnit unit)
  | unitParagraph kind => exact balanced_of_tracks (abreast.tracks_unitParagraph kind)
  | identification => exact balanced_of_tracks abreast.tracks_identification
  | returningItem => exact balanced_of_tracks abreast.tracks_returningItem
  | procedureHeader => exact balanced_of_tracks abreast.tracks_procedureHeader
  | paragraphHeader => exact balanced_of_tracks abreast.tracks_paragraphHeader
  | procedureBody => exact balanced_of_tracks body
  | unitEndMarker unit => exact balanced_of_tracks (abreast.tracks_unitEndMarker unit)
  | procedureDivision => exact balanced_of_tracks (abreast.tracks_sentencesDivision text)
  | sourceUnit => exact balanced_of_tracks (abreast.tracks_sourceUnit text)
  | sourceUnits =>
      exact balanced_of_tracks (abreast.tracks_sourceUnits (abreast.tracks_sourceUnit text))
  | leftover => exact balanced_of_tracks abreast.tracks_leftover
  | sourceText => exact balanced_of_tracks (level_sourceText le_max_of_le)

theorem Routine.balanced {analysis : Analysis α} (routine : Routine limit analysis) :
    Obeys Balanced analysis ∨ (∀ state, (analysis state).2 = (enter state).2) ∨
      ∀ state, (analysis state).2 = (leave state).2 := by
  cases routine with
  | matcher matcher => exact .inl (balanced_of_tracks (level_matcher matcher))
  | statement routine => exact routine.balanced
  | division routine => exact .inl routine.balanced

/-- The most that were ever open are no fewer than are open. -/
theorem Routine.nesting_le_deepest {analysis : Analysis α} (routine : Routine limit analysis)
    {state : State} (noted : state.nesting ≤ state.deepest) :
    (analysis state).2.nesting ≤ (analysis state).2.deepest ∧
      state.deepest ≤ (analysis state).2.deepest := by
  rcases routine.balanced with balanced | opens | closes
  · have after := balanced state
    refine ⟨?_, after.deepest_le⟩
    rw [after.nesting_eq]
    exact Nat.le_trans noted after.deepest_le
  · rw [opens]
    exact ⟨Nat.le_max_right _ _, Nat.le_max_left _ _⟩
  · rw [closes]
    exact ⟨Nat.le_trans (Nat.sub_le _ _) noted, Nat.le_refl _⟩

/-! ## Between sentences -/

/-- Reads a source text up to a place between two sentences: so many of its units, the next one
up to its procedure division, so many paragraphs of that, and so many parts of the sentences
after them. -/
def upToSentence (limit units paragraphs parts : Nat) : Analysis Unit := do
  firstUnits limit units
  unitOpening
  loopFor (fun _ => headerRound limit) paragraphs ()
  loopFor (under .statement (sentencePart limit)) parts ()

theorem level_under {test : Test} {body : Analysis Unit}
    (tracked : Tracks (fun _ => True) (Level depth kept) Eq body body) :
    Tracks (fun _ => True) (Level depth kept) Eq (under test body ()) (under test body ()) := by
  refine ⟨fun _ => trivial, fun {first second} level _ => ?_⟩
  obtain rfl := level.eq
  unfold under
  split
  · exact ⟨rfl, (tracked.tracks level trivial).2⟩
  · exact ⟨rfl, level⟩

theorem level_upToSentence
    (grows : ∀ peak opened, opened ≤ depth + limit → kept peak → kept (max peak opened))
    (units paragraphs parts : Nat) :
    Tracks (fun _ => True) (Level depth kept) Eq (upToSentence limit units paragraphs parts)
      (upToSentence limit units paragraphs parts) := by
  have abreast := abreastUnits_level depth kept
  have text := level_sentences grows
  have rounds {round : Analysis (Option Unit)}
      (tracked : Tracks (fun _ => True) (Level depth kept) Eq round round) (count : Nat) :
      Tracks (fun _ => True) (Level depth kept) Eq (loopFor (fun _ => round) count ())
        (loopFor (fun _ => round) count ()) :=
    abreast.tracks_loopFor (fun _ _ => rfl) (fun _ => tracks_round tracked) count rfl
  refine tracks_then (abreast.tracks_firstUnits (abreast.tracks_sourceUnit text) units) fun _ => ?_
  refine tracks_then ?_ fun _ => tracks_then (rounds ?_ paragraphs) fun _ =>
    rounds (level_under (level_sentencePart grows)) parts
  · exact tracks_then (tracks_unitHeaders abreast) fun _ => abreast.tracks_procedureHeader
  · exact tracks_then text fun _ => tracks_then abreast.tracks_paragraphHeader fun _ =>
      tracks_ite _ (tracks_same _) (tracks_same none)

/-- Before an analysis no sequence is open. -/
theorem level_initial (tokens : List Token) (table : SymbolTable) (limit : Nat) :
    Level 0 (· ≤ limit) (.initial tokens table) (.initial tokens table) :=
  ⟨rfl, rfl, Nat.zero_le limit⟩

end Analysis

/-- Every routine leaves as many sequences of statements open as there were, but for the two
that open and close one, and none lets go of the most that were ever open at once. In an analysis
these are 256 at most. Between two source units and between two sentences no sequence is open. A
sequence is read only if fewer than 256 are open, and with the counter as the only guard a sentence
is read as it is if its statement is one of 257 that may be read at once: it does not matter what
would be done to read another one. -/
theorem nesting_bounded :
    (∀ {α : Type} {analysis : Analysis α}, Routine maxNesting analysis →
      (Obeys Balanced analysis ∨ (∀ state, (analysis state).2 = (enter state).2) ∨
        ∀ state, (analysis state).2 = (leave state).2) ∧
      ∀ state : State, state.nesting ≤ state.deepest →
        (analysis state).2.nesting ≤ (analysis state).2.deepest ∧
          state.deepest ≤ (analysis state).2.deepest) ∧
    (∀ file tokens table,
      let final := (sourceText maxNesting (.initial tokens table)).2
      analyze file tokens table = final.outcome file ∧ final.deepest ≤ 256 ∧ final.nesting = 0) ∧
    (∀ tokens table units,
      (firstUnits maxNesting units (.initial tokens table)).2.nesting = 0) ∧
    (∀ (each other : Analysis Unit) (state : State), 256 ≤ state.nesting →
      guardedSequence 256 each state = guardedSequence 256 other state) ∧
    ∀ tokens table units paragraphs parts,
      let before := (upToSentence maxNesting units paragraphs parts (.initial tokens table)).2
      before.nesting = 0 ∧ ∀ beyond,
        statement (nestedStatements maxNesting) before = framedStatement 256 beyond 257 before := by
  have grows (peak opened : Nat) (few : opened ≤ maxNesting) (reached : peak ≤ maxNesting) :
      max peak opened ≤ maxNesting :=
    Nat.max_le.mpr ⟨reached, few⟩
  have bounded : ∀ peak opened, opened ≤ 0 + maxNesting → peak ≤ maxNesting →
      max peak opened ≤ maxNesting := by
    rw [Nat.zero_add]
    exact grows
  have begun (tokens : List Token) (table : SymbolTable) := level_initial tokens table maxNesting
  refine ⟨fun routine => ⟨routine.balanced, fun _ => routine.nesting_le_deepest⟩, ?_, ?_, ?_, ?_⟩
  · intro file tokens table
    have ended := ((level_sourceText bounded).tracks (begun tokens table) trivial).2
    exact ⟨rfl, ended.deepest, ended.nesting_eq⟩
  · intro tokens table units
    have abreast := abreastUnits_level 0 (· ≤ maxNesting)
    have tracked := abreast.tracks_firstUnits
      (abreast.tracks_sourceUnit (level_sentences bounded)) units
    exact (tracked.tracks (begun tokens table) trivial).2.nesting_eq
  · intro each other state full
    rw [run_guardedSequence_of_le full, run_guardedSequence_of_le full]
  · intro tokens table units paragraphs parts
    have reached := level_upToSentence bounded units paragraphs parts
    have level := (reached.tracks (begun tokens table) trivial).2
    refine ⟨level.nesting_eq, fun beyond => ?_⟩
    have framed : Tracks (fun _ => True) (Level 0 (· ≤ maxNesting)) Eq
        (statement (nestedStatements 256)) (framedStatement 256 beyond 257) :=
      level_framedStatement grows rfl (by decide)
    have ⟨same, after⟩ := framed.tracks level trivial
    exact Prod.ext same after.eq

/-- With a frame less than there are statements in each other something else happens. -/
example :
    let begun := State.initial (Source.tokenize "IF A STOP RUN END-IF.") .empty
    let reports (frames : Nat) :=
      (framedStatement 1 (reportHere (.general .leftoverTokens)) frames begun).2.reports
    0 < (reports 1).length ∧ (reports 2).length = 0 := by
  decide +kernel

end CobolCheck
