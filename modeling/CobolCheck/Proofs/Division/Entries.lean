import CobolCheck.Division.Entry
import CobolCheck.Proofs.Analysis.Closed

/-!
# How far entries reach

The words of the divisions around the statements are few, and a landmark that
is none of them is never accepted there. An entry obeys a remarking relation that
the changes it makes to the symbol table obey: only where it declares its item does
it report anything about the table.
-/

namespace CobolCheck

/-- The words that are matched outside of statements. -/
def divisionWords : List String :=
  ["IDENTIFICATION", "ENVIRONMENT", "DATA", "PROCEDURE", "DIVISION", ".", "PROGRAM-ID",
   "FUNCTION-ID", "SECTION", "WORKING-STORAGE", "LOCAL-STORAGE", "LINKAGE", "RETURNING",
   "CONSTANT", "FROM", "AS", "LENGTH", "BYTE-LENGTH", "OF", "IS", "EXTERNAL", "GLOBAL",
   "TYPEDEF", "BASED", "PIC", "PICTURE", "VALUE", "V9", "(", ")", "S9", "9", "X", "A", "N", "1"]

/-- The words that are matched in an entry between its level number and its period. -/
def entryWords : List String :=
  ["CONSTANT", "FROM", "AS", "LENGTH", "BYTE-LENGTH", "OF", "IS", "EXTERNAL", "GLOBAL",
   "TYPEDEF", "BASED", "PIC", "PICTURE", "VALUE", "V9", "(", ")", "S9", "9", "X", "A", "N", "1"]

/-- Whether a landmark is no word of an entry, no name, no literal and no word that
begins a clause. The period that closes an entry is such a landmark. -/
structure Landmark.OutsideEntries (landmark : Landmark) : Prop where
  word : landmark.word ∉ entryWords
  category : landmark.category ∉ [Category.identifier, .numeric, .string, .figurative]
  context : landmark.context ≠ .clause

/-- Whether a landmark is no word of a division, no name, no literal and no
word that begins a clause. -/
structure Landmark.Foreign (landmark : Landmark) : Prop where
  word : landmark.word ∉ divisionWords
  category : landmark.category ∉ [Category.identifier, .numeric, .string, .figurative]
  context : landmark.context ≠ .clause

namespace Landmark

theorem foreign_endOfInput : endOfInput.Foreign := by
  constructor <;> decide

theorem foreign_unitEnd : unitEnd.Foreign := by
  constructor <;> decide

theorem Foreign.ne {landmark : Landmark} (foreign : landmark.Foreign) {word : String}
    (known : word ∈ divisionWords) : word ≠ landmark.word := by
  rintro rfl
  exact foreign.word known

theorem OutsideEntries.ne {landmark : Landmark} (outside : landmark.OutsideEntries)
    {word : String} (known : word ∈ entryWords) : word ≠ landmark.word := by
  rintro rfl
  exact outside.word known

theorem OutsideEntries.not_mem {landmark : Landmark} (outside : landmark.OutsideEntries)
    {categories : List Category}
    (known : ∀ category ∈ categories,
      category ∈ [Category.identifier, .numeric, .string, .figurative]) :
    landmark.category ∉ categories :=
  fun member => outside.category (known _ member)

theorem Foreign.outsideEntries {landmark : Landmark} (foreign : landmark.Foreign) :
    landmark.OutsideEntries where
  word member :=
    have known : ∀ word ∈ entryWords, word ∈ divisionWords := by decide
    foreign.word (known _ member)
  category := foreign.category
  context := foreign.context

theorem Foreign.not_mem {landmark : Landmark} (foreign : landmark.Foreign)
    {categories : List Category}
    (known : ∀ category ∈ categories,
      category ∈ [Category.identifier, .numeric, .string, .figurative]) :
    landmark.category ∉ categories :=
  foreign.outsideEntries.not_mem known

end Landmark

/-- Whether a change is one that a clause other than a picture makes. -/
def Operation.isPlain : Operation → Bool
  | .setExternal _ | .setGlobal | .setBased | .setInitialValue _ => true
  | _ => false

namespace Analysis

/-- Changing the symbol table does not move the cursor. -/
theorem current_revise (key : Option SymbolKey) (operation : Operation) (state : State) :
    (revise key operation state).2.current = state.current := by
  cases key <;> rfl

theorem still_clauseWord (state : State) : (clauseWord state).2 = state := by
  rw [clauseWord, run_bind, run_ask, run_ite]
  split <;> rfl

/-- The last words of a constant entry, after which its constant has its value. -/
def constantEnd (key : Option SymbolKey) : Analysis Unit := do
  match ← constantValue with
  | some value => revise key (.setValue value)
  | none => pure ()
  entryPeriod

/-- What follows the header of a constant. -/
def constantRest (key : Option SymbolKey) : Analysis Unit := do
  expect "CONSTANT"
  if ← ask (.isAny ["IS", "GLOBAL"]) then globalClause key
  constantEnd key

/-- What follows the header of an item that is stored. -/
def storageRest (key : Option SymbolKey) : Analysis Unit := do
  unless ← ask (.or .clause (.or (.is ".") .eof)) do
    reportHere (.general (.noClause (← current).display))
    skip
  let picture ← clauses key
  revise key (.setShape (if picture then .elementary else .group))
  entryPeriod

/-- What follows the check of the level number of a constant. -/
def constantItem : Analysis Unit := do
  let key ← entryHeader Item.constant
  constantRest key

end Analysis

namespace Remarking

open Analysis

variable {landmark : Landmark} {R : State → State → Prop} {key : Option SymbolKey}

/-! ## Clauses -/

/-- A token at which something is reported stays if a test holds. -/
theorem obeys_reportHere_unless_skip (remarking : Remarking landmark R) {cause : Cause}
    (apart : cause.concernsTable = false) (test : Test) {α : Type} {next : Unit → Analysis α}
    (rest : Obeys R (next ())) :
    Obeys R (reportHere cause >>= fun _ => ask test >>= fun held =>
      if held then next () else Analysis.skip >>= next) := by
  intro state
  rw [run_bind, run_bind, run_ask, run_ite]
  split
  · exact remarking.trans (remarking.remark state state.current _ apart) (rest _)
  · exact remarking.trans (remarking.pass state state.current _ apart) (rest _)

theorem obeys_externalClause (remarking : Remarking landmark R) (outside : landmark.OutsideEntries)
    (set : ∀ name, Obeys R (revise key (.setExternal name))) : Obeys R (externalClause key) := by
  refine remarking.obeys_bind (remarking.obeys_optional (outside.ne (by decide))) fun _ => ?_
  apply remarking.obeys_bind (remarking.obeys_expect (outside.ne (by decide)))
  intro _
  apply remarking.obeys_bind (remarking.obeys_optional (outside.ne (by decide)))
  intro as
  refine obeys_ite _ (obeys_ask ?_ ?_) ?_
  · intro state held
    refine remarking.trans ?_ (set _ _)
    exact remarking.obeysFrom_accept_of_holds (Test.avoids_has (outside.not_mem (by decide)))
      state held
  · exact fun state _ => remarking.pass state state.previous _ rfl
  · cases key with
    | none => exact remarking.obeys_pure ()
    | some declared => exact set _

theorem obeys_globalClause (remarking : Remarking landmark R) (outside : landmark.OutsideEntries)
    (set : Obeys R (revise key .setGlobal)) : Obeys R (globalClause key) :=
  remarking.obeys_bind (remarking.obeys_optional (outside.ne (by decide))) fun _ =>
    remarking.obeys_bind (remarking.obeys_expect (outside.ne (by decide))) fun _ => set

theorem obeys_digitCount (remarking : Remarking landmark R) (outside : landmark.OutsideEntries) :
    Obeys R digitCount := by
  apply remarking.obeys_bind (remarking.obeys_expect (outside.ne (by decide)))
  intro _
  apply remarking.obeys_bind (remarking.obeys_look fun _ => rfl)
  intro _
  refine remarking.obeys_bind (remarking.obeys_operand (outside.not_mem (by decide)) _) fun _ => ?_
  exact remarking.obeys_bind (remarking.obeys_expect (outside.ne (by decide))) fun _ =>
    remarking.obeys_pure _

theorem obeys_pictureTypeCode (remarking : Remarking landmark R) (outside : landmark.OutsideEntries)
    (set : ∀ type, Obeys R (revise key (.setType type))) : Obeys R (pictureTypeCode key) := by
  apply obeys_word
  intro text
  split
  · next type found =>
    rw [PictureType.ofCode?_eq_some_iff] at found
    intro state here
    refine remarking.trans (remarking.obeysFrom_accept state ?_) (set type _)
    rintro ⟨value_eq, _⟩
    rw [here, found] at value_eq
    exact outside.ne (by cases type <;> decide) value_eq
  · exact fun state _ => remarking.pass state state.current _ rfl

/-- The last thing that a picture does is to give the item its length. -/
theorem obeysUpTo_pictureClause (remarking : Remarking landmark R)
    (outside : landmark.OutsideEntries)
    (type : ∀ type, Obeys R (revise key (.setType type))) :
    ObeysUpTo (fun length => revise key (.setPictureLength length)) (fun _ => True) R
      (pictureClause key) := by
  have begun : landmark.word ∉ ["PIC", "PICTURE"] := by
    intro member
    have known : ∀ word ∈ ["PIC", "PICTURE"], word ∈ entryWords := by decide
    exact outside.word (known _ member)
  apply remarking.obeysUpTo_bind ((remarking.obeys_choose begun).obeysFrom _)
  intro _
  have word : Obeys R (discard (Analysis.optional "IS")) :=
    remarking.obeys_optional (outside.ne (by decide))
  apply remarking.obeysUpTo_bind (word.obeysFrom _)
  intro _
  apply remarking.obeysUpTo_bind ((remarking.obeys_pictureTypeCode outside type).obeysFrom _)
  intro known
  have count := remarking.obeys_digitCount outside
  apply remarking.obeysUpTo_bind (count.obeysFrom _)
  intro digits
  have last (text : String) (start : State → Prop) :=
    remarking.obeysUpTo_last (fun length => revise key (.setPictureLength length)) text start
  have scaled : ObeysUpTo (fun length => revise key (.setPictureLength length))
      (fun state => (Test.is "V9").holds state = true) R
      (accept >>= fun _ => digitCount >>= fun scale =>
        revise key (.setPictureLength (digits ++ "V" ++ scale))) := by
    refine remarking.obeysUpTo_bind ?_ fun _ =>
      remarking.obeysUpTo_bind (count.obeysFrom _) fun _ => ?_
    · exact remarking.obeysFrom_accept_of_holds (Test.avoids_is (outside.ne (by decide)))
    · exact last _ _
  intro state _
  rw [run_bind, run_ask, run_ite]
  split
  · next held =>
    dsimp only
    rw [run_ite]
    split
    · have reported : R state (reportHere (.general .scaleOfText) state).2 :=
        remarking.remark state state.current _ rfl
      obtain ⟨text, middle, reached, ends⟩ :=
        scaled (reportHere (.general .scaleOfText) state).2 held
      rw [run_bind]
      exact ⟨text, middle, remarking.trans reported reached, ends⟩
    · exact scaled state held
  · exact last digits (fun _ => True) state trivial

theorem obeys_pictureClause (remarking : Remarking landmark R) (outside : landmark.OutsideEntries)
    (type : ∀ type, Obeys R (revise key (.setType type)))
    (length : ∀ length, Obeys R (revise key (.setPictureLength length))) :
    Obeys R (pictureClause key) :=
  (remarking.obeysUpTo_pictureClause outside type).obeys length remarking.trans

theorem obeys_valueClause (remarking : Remarking landmark R) (outside : landmark.OutsideEntries)
    (set : ∀ value, Obeys R (revise key (.setInitialValue value))) :
    Obeys R (valueClause key) := by
  apply remarking.obeys_bind (remarking.obeys_expect (outside.ne (by decide)))
  intro _
  refine obeys_ask ?_ ?_
  · intro state held
    have clear : ¬ landmark.Marks state.current :=
      Test.not_marks_of_holds (Test.avoids_has (outside.not_mem (by decide))) held
    refine remarking.trans (set state.current.value state) (remarking.obeysFrom_accept _ ?_)
    rw [← current_revise key (.setInitialValue state.current.value) state] at clear
    exact clear
  · refine Obeys.obeysFrom ?_ _
    exact remarking.obeys_reportHere_unless_skip rfl _ (remarking.obeys_pure ())

/-- A picture is the only clause that obeys what a picture obeys, and the other
clauses obey what the changes obey that they make. -/
theorem answers_clause (remarking : Remarking landmark R) (outside : landmark.OutsideEntries)
    {P : State → State → Prop}
    (set : ∀ operation, operation.isPlain = true → Obeys R (revise key operation))
    (picture : Obeys P (pictureClause key)) :
    Answers (fun state => Test.clause.holds state = true) P R (clause key) := by
  have typedef : Obeys R (do
      discard <| Analysis.optional "IS"
      expect "TYPEDEF") :=
    remarking.obeys_bind (remarking.obeys_optional (outside.ne (by decide))) fun _ =>
      remarking.obeys_expect (outside.ne (by decide))
  have accepted : ObeysFrom (fun state => Test.clause.holds state = true) R accept := by
    apply remarking.obeysFrom_accept_of_holds
    simpa [Test.clause, Test.avoids] using outside.context.symm
  have based : ObeysFrom (fun state => Test.clause.holds state = true) R
      (accept >>= fun _ => revise key .setBased) :=
    remarking.obeysFrom_bind accepted fun _ => set _ rfl
  have passed : Obeys R (reportHere (.general .loneIs) >>= fun _ => Analysis.skip) :=
    fun state => remarking.pass state state.current _ rfl
  rw [clause]
  apply answers_look still_clauseWord
  intro text
  split
  · apply answers_no
    exact (remarking.obeys_externalClause outside fun _ => set _ rfl).obeysFrom _
  · apply answers_no
    exact (remarking.obeys_globalClause outside (set _ rfl)).obeysFrom _
  · rw [← bind_assoc]
    apply answers_no
    exact typedef.obeysFrom _
  · rw [← bind_assoc]
    apply answers_no
    exact based
  · refine answers_yes ?_
    exact picture.obeysFrom _
  · refine answers_yes ?_
    exact picture.obeysFrom _
  · apply answers_no
    exact (remarking.obeys_valueClause outside fun _ => set _ rfl).obeysFrom _
  · rw [← bind_assoc]
    apply answers_no
    exact passed.obeysFrom _
  · apply answers_no
    exact accepted

theorem obeys_clauses (remarking : Remarking landmark R) (outside : landmark.OutsideEntries)
    (set : ∀ operation, operation.isPlain = true → Obeys R (revise key operation))
    (picture : Obeys R (pictureClause key)) : Obeys R (clauses key) := by
  refine remarking.obeys_loop (fun found => obeys_ask ?_ fun state _ => remarking.refl state) false
  intro state held
  have step := remarking.answers_clause outside set picture state held
  rw [ite_self] at step
  exact step

/-! ## Entries -/

theorem obeys_entryPeriod (remarking : Remarking landmark R) (foreign : landmark.Foreign) :
    Obeys R entryPeriod :=
  remarking.obeys_expectOr_of (foreign.ne (by decide)) fun state =>
    remarking.pass state state.previous _ rfl

theorem obeys_entryHeader (remarking : Remarking landmark R) (foreign : landmark.Foreign)
    (declared : ∀ name item, Obeys R (declare name item)) (create : String → Nat → Nat → Item) :
    Obeys R (entryHeader create) := by
  apply remarking.obeys_bind (remarking.obeys_look fun _ => rfl)
  intro level
  refine remarking.obeys_bind (remarking.obeys_operand (foreign.not_mem (by decide)) _) fun _ => ?_
  apply remarking.obeys_bind (remarking.obeys_look fun _ => rfl)
  intro name
  apply remarking.obeys_bind (remarking.obeys_operand (foreign.not_mem (by decide)) _)
  intro named
  exact obeys_ite _ (declared name _) (remarking.obeys_pure none)

/-- What follows the header of an item obeys what the changes to the item obey. -/
theorem obeys_storageRest (remarking : Remarking landmark R) (foreign : landmark.Foreign)
    (revised : ∀ operation, Obeys R (revise key operation)) : Obeys R (storageRest key) := by
  have outside := foreign.outsideEntries
  have rest : Obeys R (clauses key >>= fun picture => do
      revise key (.setShape (if picture then .elementary else .group))
      entryPeriod) := by
    refine remarking.obeys_bind (remarking.obeys_clauses outside (fun _ _ => revised _) ?_) ?_
    · exact remarking.obeys_pictureClause outside (fun _ => revised _) fun _ => revised _
    · intro picture
      exact remarking.obeys_bind (revised _) fun _ => remarking.obeys_entryPeriod foreign
  apply obeys_ask (rest.obeysFrom _)
  intro state _
  exact remarking.trans (remarking.pass state state.current _ rfl) (rest _)

/-- A storage entry obeys what the changes that it makes to the table obey. -/
theorem obeys_storageEntry (remarking : Remarking landmark R) (foreign : landmark.Foreign)
    (declared : ∀ name item, Obeys R (declare name item))
    (revised : ∀ key operation, Obeys R (revise key operation)) : Obeys R storageEntry :=
  remarking.obeys_bind (remarking.obeys_entryHeader foreign declared _) fun key =>
    remarking.obeys_storageRest foreign (revised key)

/-- The names of the items whose lengths a constant stands for. -/
theorem obeys_constantLengths (remarking : Remarking landmark R)
    (outside : landmark.OutsideEntries) :
    Obeys R (["LENGTH", "BYTE-LENGTH"].forM fun kind => do
      if ← Analysis.optional kind then
        discard <| Analysis.optional "OF"
        discard identifier) := by
  have known : ∀ kind ∈ ["LENGTH", "BYTE-LENGTH"], kind ∈ entryWords := by decide
  apply remarking.obeys_forM
  intro kind member
  apply remarking.obeys_bind (remarking.obeys_optional (outside.ne (known kind member)))
  intro found
  refine obeys_ite _ ?_ (remarking.obeys_pure _)
  refine remarking.obeys_bind (remarking.obeys_optional (outside.ne (by decide))) fun _ => ?_
  exact remarking.obeys_operand (outside.not_mem (by decide)) _

theorem obeys_constantValue (remarking : Remarking landmark R) (outside : landmark.OutsideEntries) :
    Obeys R constantValue := by
  apply remarking.obeys_bind (remarking.obeys_optional (outside.ne (by decide)))
  intro fromItem
  dsimp only
  refine obeys_ite _ ?_ ?_
  · apply remarking.obeys_bind (remarking.obeys_look fun _ => rfl)
    intro name
    refine remarking.obeys_bind (remarking.obeys_operand (outside.not_mem (by decide)) _) ?_
    intro named
    exact obeys_ite _ (remarking.obeys_pure _) (remarking.obeys_pure _)
  · refine remarking.obeys_bind (remarking.obeys_optional (outside.ne (by decide))) fun _ => ?_
    refine remarking.obeys_bind (remarking.obeys_look fun _ => rfl) fun literal => ?_
    have lengths (known : Bool) : Obeys R (do
        ["LENGTH", "BYTE-LENGTH"].forM fun kind => do
          if ← Analysis.optional kind then
            discard <| Analysis.optional "OF"
            discard identifier
        return if known then some (.literal literal) else none :
          Analysis (Option ConstantValue)) :=
      remarking.obeys_bind (remarking.obeys_constantLengths outside) fun _ => remarking.obeys_pure _
    refine obeys_answer ?_ fun state _ => ?_
    · refine remarking.obeysFrom_bind ?_ fun _ => lengths true
      exact remarking.obeysFrom_accept_of_holds (Test.avoids_has (outside.not_mem (by decide)))
    · exact remarking.obeys_reportHere_unless_skip rfl _ (lengths false) state

theorem obeys_constantRest (remarking : Remarking landmark R) (foreign : landmark.Foreign)
    (revised : ∀ operation, Obeys R (revise key operation)) : Obeys R (constantRest key) := by
  apply remarking.obeys_bind (remarking.obeys_expect (foreign.ne (by decide)))
  intro _
  have global := remarking.obeys_globalClause foreign.outsideEntries (revised .setGlobal)
  apply remarking.obeys_when (global.obeysFrom _)
  apply remarking.obeys_bind (remarking.obeys_constantValue foreign.outsideEntries)
  intro value
  cases value with
  | none => exact remarking.obeys_entryPeriod foreign
  | some value =>
      exact remarking.obeys_bind (revised _) fun _ => remarking.obeys_entryPeriod foreign

theorem obeys_constantItem (remarking : Remarking landmark R) (foreign : landmark.Foreign)
    (declared : ∀ name item, Obeys R (declare name item))
    (revised : ∀ key operation, Obeys R (revise key operation)) : Obeys R constantItem :=
  remarking.obeys_bind (remarking.obeys_entryHeader foreign declared _) fun key =>
    remarking.obeys_constantRest foreign (revised key)

theorem obeys_constantEntry (remarking : Remarking landmark R) (foreign : landmark.Foreign)
    (declared : ∀ name item, Obeys R (declare name item))
    (revised : ∀ key operation, Obeys R (revise key operation)) : Obeys R constantEntry :=
  remarking.obeys_unless (fun state _ => remarking.remark state state.current _ rfl)
    (remarking.obeys_constantItem foreign declared revised)

end Remarking

end CobolCheck
