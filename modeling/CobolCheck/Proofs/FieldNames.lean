import CobolCheck.Json.Interchange
import CobolCheck.Proofs.Declarations
import CobolCheck.Proofs.Source.Recut
import Mathlib.Data.List.Nodup

/-!
# The field names of a symbol table

A symbol table is written as an object that has a field for each item. The name of a field is the
name of the unit, a number sign and the name of the item, and nothing tells this sign from one
that stands in a name. So two items may be written under the same name, and a reader of the
object then finds only one of them. No item is lost as long as no identifier has a number sign,
and none has one that is read from a source text.
-/

namespace CobolCheck

/-! ## Keys -/

namespace SymbolKey

/-- Whether the last number sign of a key, as it is written, is the one before its name. -/
def IsPlain (key : SymbolKey) : Prop :=
  '#' ∉ key.name.toList

theorem toList_text (key : SymbolKey) :
    key.text.toList = key.unit.toList ++ '#' :: key.name.toList := by
  rw [text, String.toList_append, String.toList_append, List.append_assoc]
  rfl

/-- A name without number signs begins right after the last one. -/
theorem eq_nil_of_cons_eq {name between later : List Char} (plain : '#' ∉ name)
    (same : '#' :: name = between ++ '#' :: later) : between = [] := by
  cases between with
  | nil => rfl
  | cons c between =>
      rw [List.cons_append, List.cons.injEq] at same
      rw [same.2] at plain
      exact absurd (List.mem_append_right between List.mem_cons_self) plain

/-- Keys that are written alike are the same, unless a name has a number sign. -/
theorem IsPlain.eq_of_text_eq {first second : SymbolKey} (plain : first.IsPlain)
    (other : second.IsPlain) (same : first.text = second.text) : first = second := by
  have letters := congrArg String.toList same
  rw [toList_text, toList_text] at letters
  -- Of the two units the longer one would go on with a number sign and into the other name.
  have unit : first.unit.toList = second.unit.toList := by
    rcases List.append_eq_append_iff.mp letters with ⟨between, unit_eq, rest⟩ |
      ⟨between, unit_eq, rest⟩
    · rw [unit_eq, eq_nil_of_cons_eq plain rest, List.append_nil]
    · rw [unit_eq, eq_nil_of_cons_eq other rest, List.append_nil]
  rw [unit, List.append_cancel_left_eq, List.cons.injEq] at letters
  rw [mk.injEq]
  exact ⟨String.toList_injective unit, String.toList_injective letters.2⟩

end SymbolKey

/-! ## Tables -/

/-- In fields whose names differ from each other, each one is found. -/
theorem Json.field?_of_mem {fields : List (String × Json)} (nodup : (fields.map Prod.fst).Nodup)
    {name : String} {value : Json} (member : (name, value) ∈ fields) :
    (Json.object fields).field? name = some value := by
  obtain ⟨before, after, split⟩ := List.append_of_mem (List.mem_reverse.mpr member)
  rw [← List.nodup_reverse, ← List.map_reverse, split, List.map_append, List.map_cons,
    List.nodup_append] at nodup
  refine List.lookup_eq_some_iff.mpr ⟨before, after, split, fun field inside => ?_⟩
  rw [bne_iff_ne]
  exact (nodup.2.2 _ (List.mem_map_of_mem inside) name List.mem_cons_self).symm

namespace SymbolTable

variable {table : SymbolTable}

theorem sorted_perm (table : SymbolTable) : table.sorted.Perm table.entries :=
  List.mergeSort_perm ..

theorem mem_entries_of_get? {key : SymbolKey} {item : Item} (found : table.get? key = some item) :
    (key, item) ∈ table.entries := by
  obtain ⟨before, after, split, -⟩ := List.lookup_eq_some_iff.mp found
  rw [split]
  exact List.mem_append_right before List.mem_cons_self

/-- The fields of a table, as it is written, are named by its keys. -/
theorem fieldNames_perm {fields : List (String × Json)}
    (written : table.toJson.fields? = some fields) :
    (fields.map Prod.fst).Perm (table.keys.map SymbolKey.text) := by
  obtain rfl := Option.some.inj written
  rw [List.map_map, keys, List.map_map]
  exact table.sorted_perm.map _

/-- Whether a table is written without losing an item: keys are told apart when they are written,
there is a field for each of them and no other, and each item is found in the field of its key. -/
structure IsFaithful (table : SymbolTable) : Prop where
  apart : ∀ first ∈ table.keys, ∀ second ∈ table.keys, first ≠ second → first.text ≠ second.text
  fields : ∃ fields, table.toJson.fields? = some fields ∧ (fields.map Prod.fst).Nodup ∧
    fields.length = table.size
  found : ∀ key item, table.get? key = some item → table.toJson.field? key.text = some item.toJson

/-- A table loses no item if no name in it has a number sign. -/
theorem isFaithful_of_isPlain (plain : ∀ key ∈ table.keys, key.IsPlain) : table.IsFaithful := by
  have alike : ∀ first ∈ table.keys, ∀ second ∈ table.keys,
      first.text = second.text → first = second :=
    fun first member second inside => (plain first member).eq_of_text_eq (plain second inside)
  have nodup := (fieldNames_perm (rfl : table.toJson.fields? = _)).nodup_iff.mpr
    (table.nodup_keys.map_on alike)
  refine ⟨fun first member second inside differ same => differ (alike _ member _ inside same),
    ⟨_, rfl, nodup, ?_⟩, fun key item found => ?_⟩
  · rw [List.length_map, table.sorted_perm.length_eq, size]
  · exact Json.field?_of_mem nodup
      (List.mem_map_of_mem (table.sorted_perm.mem_iff.mpr (mem_entries_of_get? found)))

end SymbolTable

/-! ## Names of source texts -/

namespace Piece

theorem IsWord.notMem {first : Char} {more : List Char} (word : IsWord first more) :
    '#' ∉ first :: more := by
  rw [List.mem_cons, not_or]
  constructor
  · rintro rfl
    rcases word.first with letter | ⟨digit, -⟩
    · cases letter
    · cases digit
  · intro inside
    cases word.more _ inside

end Piece

namespace Source

/-- No identifier of a source text has a number sign. -/
theorem notMem_value_of_identifier {source : String} {token : Token}
    (member : token ∈ tokenize source) (identifier : token.category = .identifier) :
    '#' ∉ token.value.toList := by
  rcases mem_tokensFrom member with ⟨line, column, rfl⟩ | ⟨piece, inside, _, _, found⟩
  · cases identifier
  obtain ⟨rest, cut_eq⟩ := Piece.isCut_of_mem_piecesAfter inside
  unfold Piece.tokens at found
  split at found
  case h_3 word =>
    rw [word] at cut_eq
    rw [List.mem_singleton] at found
    subst found
    rw [String.toList_ofList]
    exact (Piece.isWord_of_cut cut_eq).toUpper.notMem
  all_goals grind

end Source

/-! ## Analyses -/

open Analysis

/-- What an analysis leaves behind has grown from the table it began with. -/
theorem grown_analyze (file : String) (tokens : List Token) (table : SymbolTable) :
    ∃ state : State, state.Grown tokens table ∧
      (analyze file tokens table).table = state.table := by
  have units := units_grown tokens table
  have begun : (State.initial tokens table).Grown tokens table := by
    refine ⟨rfl, (State.marks_sentinelAfter tokens).2.1, fun _ _ found => found,
      fun key item absent found => ?_⟩
    exact absurd (absent.symm.trans found) nofun
  exact ⟨_, (units.obeys_leftover _).kept ((units.obeys_sourceUnits (by decide) maxNesting _).kept
    begun), rfl⟩

/-- An analysis adds no item but one that an identifier of its file names. -/
theorem exists_identifier_of_mem_keys {file : String} {tokens : List Token} {table : SymbolTable}
    {key : SymbolKey} (member : key ∈ (analyze file tokens table).table.keys) :
    key ∈ table.keys ∨ ∃ token ∈ tokens, token.category = .identifier ∧ token.value = key.name := by
  obtain ⟨state, grown, table_eq⟩ := grown_analyze file tokens table
  rw [table_eq, ← SymbolTable.contains_iff_mem_keys, SymbolTable.contains,
    Option.isSome_iff_exists] at member
  obtain ⟨item, found⟩ := member
  by_cases known : key ∈ table.keys
  · exact .inl known
  · obtain ⟨token, inside, category, value, -⟩ :=
      (grown.added key item (SymbolTable.get?_eq_none_iff.mpr known) found).named
    exact .inr ⟨token, inside, category, value⟩

/-- Files that are analyzed one after the other add no item but those that their identifiers
name. -/
theorem exists_identifier_of_mem_analyzeAll {table : SymbolTable}
    {files : List (String × List Token)} {outcome : Outcome}
    (member : outcome ∈ analyzeAll table files) {key : SymbolKey}
    (declared : key ∈ outcome.table.keys) :
    key ∈ table.keys ∨
      ∃ file ∈ files, ∃ token ∈ file.2, token.category = .identifier ∧ token.value = key.name := by
  induction files generalizing table with
  | nil => cases member
  | cons file rest ih =>
      have first {key : SymbolKey} (inside : key ∈ (analyze file.1 file.2 table).table.keys) :
          key ∈ table.keys ∨ ∃ other ∈ file :: rest, ∃ token ∈ other.2,
            token.category = .identifier ∧ token.value = key.name :=
        (exists_identifier_of_mem_keys inside).imp_right fun named =>
          ⟨file, List.mem_cons_self, named⟩
      rw [analyzeAll, List.mem_cons] at member
      rcases member with rfl | later
      · exact first declared
      · rcases ih later with inside | ⟨other, listed, named⟩
        · exact first inside
        · exact .inr ⟨other, List.mem_cons_of_mem _ listed, named⟩

/-- If no identifier has a number sign, no name in a table has one. -/
theorem isPlain_of_mem_analyzeAll {files : List (String × List Token)}
    (plain : ∀ file ∈ files, ∀ token ∈ file.2, token.category = .identifier →
      '#' ∉ token.value.toList)
    {outcome : Outcome} (member : outcome ∈ analyzeAll .empty files) :
    ∀ key ∈ outcome.table.keys, key.IsPlain := by
  intro key declared
  rcases exists_identifier_of_mem_analyzeAll member declared with known |
    ⟨file, listed, token, inside, category, value⟩
  · cases known
  · rw [SymbolKey.IsPlain, ← value]
    exact plain file listed token inside category

/-- Whichever token streams are analyzed one after the other, no item is lost when the table is
written, if no identifier has a number sign. -/
theorem isFaithful_of_mem_analyzeAll {files : List (String × List Token)}
    (plain : ∀ file ∈ files, ∀ token ∈ file.2, token.category = .identifier →
      '#' ∉ token.value.toList) :
    ∀ outcome ∈ analyzeAll .empty files, outcome.table.IsFaithful :=
  fun _ member => SymbolTable.isFaithful_of_isPlain (isPlain_of_mem_analyzeAll plain member)

/-- A program that declares one item. -/
def oneItemProgram (unit item : String) : String :=
  "PROGRAM-ID. " ++ unit ++ ". DATA DIVISION. LINKAGE SECTION. 01 " ++ item ++
    " PIC 9(4). PROCEDURE DIVISION. END PROGRAM " ++ unit ++ ". "

/-- Two files, of which each declares an item of the same name. -/
theorem isFaithful_oneItemPrograms :
    let files := [("u.cob", Source.tokenize (oneItemProgram "U" "M")),
      ("v.cob", Source.tokenize (oneItemProgram "V" "M"))]
    (∀ file ∈ files, ∀ token ∈ file.2, token.category = .identifier → '#' ∉ token.value.toList) ∧
      (analyzeAll .empty files).map (fun outcome => outcome.table.size) = [1, 2] ∧
      ∀ outcome ∈ analyzeAll .empty files, outcome.table.IsFaithful := by
  intro files
  have plain : ∀ file ∈ files, ∀ token ∈ file.2, token.category = .identifier →
      '#' ∉ token.value.toList := by
    simp only [files, List.forall_mem_cons]
    exact ⟨fun _ => Source.notMem_value_of_identifier, fun _ => Source.notMem_value_of_identifier,
      nofun⟩
  exact ⟨plain, by decide +kernel, isFaithful_of_mem_analyzeAll plain⟩

/-- The tokens of a text, some of which have other values instead. -/
def renamed (values : List (String × String)) (source : String) : List Token :=
  (Source.tokenize source).map fun token =>
    { token with value := (values.lookup token.value).getD token.value }

/-- Two programs that each declare one item. A number sign stands in the name of the first program
and in that of the second item. -/
def collidingTokens : List Token :=
  renamed [("U", "A#B"), ("M", "C"), ("V", "A"), ("N", "B#C")]
    (oneItemProgram "U" "M" ++ oneItemProgram "V" "N")

/-- Two items are written under one name, although nothing is reported and both are counted. -/
theorem fieldNames_collidingTokens :
    ∃ outcome ∈ analyzeAll .empty [("names.json", collidingTokens)],
      outcome.diagnostics = [] ∧ outcome.table.size = 2 ∧
      (∃ first ∈ outcome.table.keys, ∃ second ∈ outcome.table.keys,
        first ≠ second ∧ first.text = second.text) ∧
      ∀ fields, outcome.table.toJson.fields? = some fields → ¬(fields.map Prod.fst).Nodup := by
  have left : (analyze "names.json" collidingTokens .empty).diagnostics = [] ∧
      (analyze "names.json" collidingTokens .empty).table.keys =
        [⟨"A#B", "C"⟩, ⟨"A", "B#C"⟩] := by
    decide +kernel
  refine ⟨_, List.mem_cons_self, left.1, ?_, ?_, fun fields written => ?_⟩
  · rw [SymbolTable.size, ← List.length_map, ← SymbolTable.keys, left.2]
    rfl
  · rw [left.2]
    decide
  · rw [(SymbolTable.fieldNames_perm written).nodup_iff, left.2]
    decide

/-- No item of source texts is lost when the table is written. -/
theorem isFaithful_of_mem_analyzeAll_tokenize {files : List (String × String)} {outcome : Outcome}
    (member : outcome ∈
      analyzeAll .empty (files.map fun file => (file.1, Source.tokenize file.2))) :
    outcome.table.IsFaithful := by
  refine SymbolTable.isFaithful_of_isPlain (isPlain_of_mem_analyzeAll ?_ member)
  intro file listed token inside identifier
  obtain ⟨text, -, rfl⟩ := List.mem_map.mp listed
  exact Source.notMem_value_of_identifier inside identifier

end CobolCheck
