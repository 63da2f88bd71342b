import CobolCheck.Proofs.Division.Data
import CobolCheck.Proofs.Division.Procedure

/-!
# Declared items

A data division of the grammar is read back exactly: its program is accepted, and
the symbol table gains the items of its descriptions, each with all that its
clauses say of it and with nothing else.
-/

namespace CobolCheck

open Grammar Analysis

/-- Distinct names that are not in the table of a unit can all be declared. -/
theorem SymbolTable.fresh_of_nodup {table : SymbolTable} {unit : String} {items : List Item}
    (distinct : (items.map Item.identifier).Nodup)
    (absent : ∀ item ∈ items, ⟨unit, item.identifier⟩ ∉ table.keys) : table.Fresh unit items := by
  rw [SymbolTable.Fresh, List.nodup_append]
  refine ⟨table.nodup_keys, ?_, ?_⟩
  · rw [List.Nodup, List.pairwise_map] at distinct ⊢
    exact distinct.imp fun differs same => differs (congrArg SymbolKey.name same)
  · rintro key taken _ member rfl
    obtain ⟨item, listed, key_eq⟩ := List.mem_map.mp member
    exact absent item listed (key_eq ▸ taken)

/-- A program whose data division is generated by the grammar, under names that are
not taken, is accepted, and its items are declared as they are described. -/
theorem analyze_of_descriptions {file name : String} {tokens : List Token}
    {descriptions : Descriptions} {body : List String} {table : SymbolTable} {line column : Nat}
    (named : IsName name) (wellFormed : descriptions.WellFormed)
    (distinct : (descriptions.items.map Item.identifier).Nodup)
    (absent : ∀ item ∈ descriptions.items, ⟨name, item.identifier⟩ ∉ table.keys)
    (grammar : Body 256 body)
    (values : tokens.map Token.value = programWords name descriptions.words body)
    (spelled : ∀ token ∈ tokens, token.Spelled) :
    (analyze file (tokens ++ [.endOfInput line column]) table).result =
        .ok (tokens ++ [.endOfInput line column]) ∧
      table.Gains name descriptions.items
        (analyze file (tokens ++ [.endOfInput line column]) table).table := by
  have division : ReadsData name table descriptions.words (procedureWords name body)
      fun declared => table.Gains name descriptions.items declared.2 := by
    right
    refine ⟨_, rfl, ?_⟩
    apply (reads_dataDivision wellFormed (SymbolTable.fresh_of_nodup distinct absent)).mono
    rintro _ _ ⟨name_eq, kind_eq, gains⟩
    exact ⟨name_eq, kind_eq, gains⟩
  have reads : Reads ({}, table) (sourceUnits maxNesting) (tokens.map Token.value) []
      fun _ declared => table.Gains name descriptions.items declared.2 := by
    rw [values]
    exact reads_sourceUnits named division grammar
  obtain ⟨accepted, unit, gains⟩ := analyzeWithin_of_reads line column spelled reads
  exact ⟨accepted, gains⟩

/-- A program with a record, one of whose items has a scale, and with a constant. -/
def recordProgram : String :=
  "PROGRAM-ID. A. DATA DIVISION. WORKING-STORAGE SECTION. 01 R IS GLOBAL. " ++
    "05 N VALUE 1 PIC S9(3)V9(2). LINKAGE SECTION. 1 C CONSTANT AS 5. " ++
    "PROCEDURE DIVISION. END PROGRAM A."

/-- The descriptions in its data division. -/
def recordDescriptions : Descriptions
  | .workingStorage =>
      some [.record ⟨"01", "R", [.global true]⟩
        [⟨"05", "N", [.value "1", .picture "PIC" false .signedNumeric "3" (some "2")]⟩]]
  | .localStorage => none
  | .linkage => some [.constant ⟨"1", "C", none, true, .literal "5"⟩]

theorem wellFormed_recordDescriptions : recordDescriptions.WellFormed := by
  have named : ∀ name ∈ ["R", "N", "C"], IsName name := by
    decide +kernel
  have number : ∀ text ∈ ["01", "05", "1", "2", "3", "5"], IsOperand [.numeric] text := by
    decide +kernel
  have value : IsOperand [.string, .numeric] "1" :=
    (number "1" (by decide)).mono (by decide)
  have picture : (Clause.picture "PIC" false .signedNumeric "3" (some "2")).WellFormed := by
    refine ⟨by decide, number "3" (by decide), ?_⟩
    rintro _ ⟨⟩
    exact ⟨rfl, number "2" (by decide)⟩
  have record : (StorageEntry.mk "01" "R" [.global true]).WellFormed :=
    ⟨number "01" (by decide), named "R" (by decide), List.forall_mem_singleton.mpr trivial⟩
  have item : (StorageEntry.mk "05" "N"
      [.value "1", .picture "PIC" false .signedNumeric "3" (some "2")]).WellFormed := by
    refine ⟨number "05" (by decide), named "N" (by decide), ?_⟩
    exact List.forall_mem_cons.mpr ⟨value, List.forall_mem_singleton.mpr picture⟩
  have constant : (ConstantEntry.mk "1" "C" none true (.literal "5")).WellFormed :=
    ⟨by decide, named "C" (by decide), (number "5" (by decide)).mono (by decide)⟩
  intro kind listed described
  cases kind with
  | workingStorage =>
      obtain rfl := Option.some.inj described
      rw [List.forall_mem_singleton]
      exact ⟨by decide, record, List.forall_mem_singleton.mpr ⟨by decide, item⟩⟩
  | localStorage => cases described
  | linkage =>
      obtain rfl := Option.some.inj described
      exact List.forall_mem_singleton.mpr constant

theorem analyze_recordProgram :
    (analyze "a.cob" (Source.tokenize recordProgram) .empty).result =
        .ok (Source.tokenize recordProgram) ∧
      SymbolTable.empty.Gains "A" recordDescriptions.items
        (analyze "a.cob" (Source.tokenize recordProgram) .empty).table := by
  have named : IsName "A" := by decide +kernel
  obtain ⟨line, column, tokens_eq⟩ := Source.exists_tokenize_eq recordProgram
  have checked : (Source.tokenize recordProgram).dropLast.map Token.value =
        programWords "A" recordDescriptions.words [] ∧
      ∀ token ∈ (Source.tokenize recordProgram).dropLast, token.Spelled := by
    decide +kernel
  rw [tokens_eq]
  exact analyze_of_descriptions named wellFormed_recordDescriptions (by decide)
    (fun _ _ => List.not_mem_nil) (.sentences .nil) checked.1 checked.2

end CobolCheck
