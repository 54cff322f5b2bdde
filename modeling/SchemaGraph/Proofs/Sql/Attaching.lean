import Mathlib.Data.List.Nodup
import SchemaGraph.Sql.Resolve

/-!
# What the foreign keys of a script lead to

An attachment is put together from those of single keys and single pairs of columns, so its pairs
and its reports are those of the parts in order. Every pair joins a column of the table to a column
of a table of the script (`target_of_mem_pairs`): no reference is attached that leads nowhere.
-/

namespace SchemaGraph.Sql.Attachment

/-! ## Parts -/

theorem pairs_foldr (as : List Attachment) :
    (as.foldr append empty).pairs = as.flatMap (·.pairs) := by
  induction as with
  | nil => rfl
  | cons a as ih => rw [List.foldr_cons, List.flatMap_cons, ← ih]; rfl

theorem diagnostics_foldr (as : List Attachment) :
    (as.foldr append empty).diagnostics = as.flatMap (·.diagnostics) := by
  induction as with
  | nil => rfl
  | cons a as ih => rw [List.foldr_cons, List.flatMap_cons, ← ih]; rfl

theorem pairs_ofTable (tables : List DeclaredTable) (table : DeclaredTable) :
    (ofTable tables table).pairs
      = table.keys.flatMap fun key => (ofKey tables table key).pairs := by
  rw [ofTable, pairs_foldr, List.flatMap_map]

theorem diagnostics_ofTable (tables : List DeclaredTable) (table : DeclaredTable) :
    (ofTable tables table).diagnostics
      = table.keys.flatMap fun key => (ofKey tables table key).diagnostics := by
  rw [ofTable, diagnostics_foldr, List.flatMap_map]

/-! ## The reference of a column -/

/-- A column gets a reference only from a pair. -/
theorem mem_pairs_of_referenceOf {a : Attachment} {column : String} {r : ForeignKey}
    (h : a.referenceOf column = some r) : (column, r) ∈ a.pairs := by
  rw [referenceOf, Option.map_eq_some_iff] at h
  obtain ⟨p, hp, rfl⟩ := h
  have hmem := List.mem_reverse.1 (List.mem_of_find?_eq_some hp)
  have hname : p.1 = column := by simpa using List.find?_some hp
  rw [← hname]
  exact hmem

/-- If no column has two pairs, each pair decides the reference of its column. -/
theorem referenceOf_eq_some_iff {a : Attachment} (hd : (a.pairs.map Prod.fst).Nodup)
    {column : String} {r : ForeignKey} :
    a.referenceOf column = some r ↔ (column, r) ∈ a.pairs := by
  refine ⟨mem_pairs_of_referenceOf, fun h => ?_⟩
  cases hr : a.referenceOf column with
  | none =>
    rw [referenceOf, Option.map_eq_none_iff, List.find?_eq_none] at hr
    exact absurd (hr _ (List.mem_reverse.2 h)) (by simp)
  | some other =>
    have heq := List.inj_on_of_nodup_map hd (mem_pairs_of_referenceOf hr) h rfl
    rw [Prod.mk.injEq] at heq
    rw [heq.2]

/-! ## Targets -/

/-- One pair of columns is attached only if both columns exist. -/
theorem pairs_ofPair (table target : DeclaredTable) (source referenced : String) :
    (ofPair table target source referenced).pairs
      = if table.hasColumn source && target.hasColumn referenced
        then [(source, ⟨target.name, referenced⟩)] else [] := by
  unfold ofPair
  by_cases hs : table.hasColumn source = true <;>
    by_cases hr : target.hasColumn referenced = true <;> simp [hs, hr, empty]

theorem diagnostics_ofPair (table target : DeclaredTable) (source referenced : String) :
    (ofPair table target source referenced).diagnostics = [] := by
  unfold ofPair
  split
  · rfl
  · split <;> rfl

/-- A pair that a key leads to joins a column of the table to one of the target. -/
theorem target_of_mem_ofKeyTo {table target : DeclaredTable} {key : KeyDeclaration}
    {p : String × ForeignKey} (h : p ∈ (ofKeyTo table target key).pairs) :
    table.hasColumn p.1 = true ∧ p.2.table = target.name ∧ target.hasColumn p.2.column = true := by
  unfold ofKeyTo at h
  dsimp only at h
  split at h
  · rw [pairs_foldr, List.flatMap_map, List.mem_flatMap] at h
    obtain ⟨q, -, hq⟩ := h
    rw [pairs_ofPair] at hq
    split at hq
    · rename_i hcols
      rw [Bool.and_eq_true] at hcols
      rw [List.mem_singleton] at hq
      rw [hq]
      exact ⟨hcols.1, rfl, hcols.2⟩
    · cases hq
  · cases h

/-- Every pair joins a column of the table to a column of a table of the script. -/
theorem target_of_mem_pairs {tables : List DeclaredTable} {table : DeclaredTable}
    {p : String × ForeignKey} (h : p ∈ (ofTable tables table).pairs) :
    table.hasColumn p.1 = true ∧
      ∃ target ∈ tables, target.name = p.2.table ∧ target.hasColumn p.2.column = true := by
  rw [pairs_ofTable, List.mem_flatMap] at h
  obtain ⟨key, -, hkey⟩ := h
  unfold ofKey at hkey
  split at hkey
  · cases hkey
  · rename_i target htarget
    obtain ⟨hs, hname, hr⟩ := target_of_mem_ofKeyTo hkey
    exact ⟨hs, target, List.mem_of_find?_eq_some htarget, hname.symm, hr⟩

end SchemaGraph.Sql.Attachment
