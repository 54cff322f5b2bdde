import SchemaGraph.Proofs.Schema.Targets
import SchemaGraph.Proofs.Sql.Attaching
import SchemaGraph.Proofs.Sql.CreatedTables
import SchemaGraph.Proofs.Sql.WrittenScript
import SchemaGraph.Sql.Script

/-!
# Written tables as they are declared and resolved

The statement of a written table declares the same columns in the same order, and one key for each
reference. When all keys are resolved, exactly those references are left that lead to a written
column, and nothing is reported.
-/

namespace SchemaGraph.Sql

/-! ## Bodies -/

/-- A column as it is declared. -/
def declaredColumn (c : Column) : DeclaredColumn := ⟨c.name, c.typeName, c.primaryKey, c.notNull⟩

/-- The key that the reference of one column declares in the clause at a position. -/
def declaredKey (p : (String × ForeignKey) × Nat) : KeyDeclaration :=
  ⟨[p.1.1], ⟨p.1.2.table, [p.1.2.column]⟩, some p.2⟩

/-- A table as it is declared. -/
def declaredTable (t : TableDefinition) : DeclaredTable :=
  ⟨t.name, t.columns.map declaredColumn, ((references t).zipIdx t.columns.length).map declaredKey⟩

theorem add_column {b : Body} {i : Nat} {c : Column}
    (h : (WrittenClause.column c).Readable) (hnew : b.table.hasColumn c.name = false) :
    b.add i (columnTokens c)
      = { b with table := { b.table with columns := b.table.columns ++ [declaredColumn c] } } := by
  have hread := WrittenClause.readClause_tokens h
  simp only [WrittenClause.tokens, WrittenClause.meaning] at hread
  simp [Body.add, hread, hnew, DeclaredTable.addColumn, declaredColumn]

theorem add_reference {b : Body} {i : Nat} {name : String} {r : ForeignKey}
    (h : (WrittenClause.reference name r).Readable) :
    b.add i (referenceTokens name r)
      = { b with table := { b.table with
          keys := b.table.keys ++ [declaredKey ((name, r), i)] } } := by
  have hread := WrittenClause.readClause_tokens h
  simp only [WrittenClause.tokens, WrittenClause.meaning] at hread
  simp [Body.add, hread, DeclaredTable.addKey, declaredKey]

/-- Columns of different names are all added. -/
theorem addAll_columns {cs : List Column} (h : ∀ c ∈ cs, (WrittenClause.column c).Readable)
    (hd : (cs.map (·.name)).Nodup) (b : Body) (hnew : ∀ c ∈ cs, b.table.hasColumn c.name = false)
    (i : Nat) (rest : List (List Token)) :
    b.addAll i (cs.map columnTokens ++ rest)
      = Body.addAll { b with table :=
          { b.table with columns := b.table.columns ++ cs.map declaredColumn } }
        (i + cs.length) rest := by
  induction cs generalizing b i with
  | nil => simp
  | cons c cs ih =>
    rw [List.map_cons, List.nodup_cons] at hd
    rw [List.map_cons, List.cons_append, Body.addAll,
      add_column (h c (List.mem_cons_self ..)) (hnew c (List.mem_cons_self ..)),
      ih (fun d hd => h d (List.mem_cons_of_mem _ hd)) hd.2]
    · simp [Nat.add_assoc, Nat.add_comm 1]
    · intro d hmem
      have hne : c.name ≠ d.name := by
        intro heq
        exact hd.1 (heq ▸ List.mem_map_of_mem hmem)
      have hold := hnew d (List.mem_cons_of_mem _ hmem)
      simp only [DeclaredTable.hasColumn] at hold ⊢
      simp [hold, declaredColumn, hne]

theorem addAll_references {rs : List (String × ForeignKey)}
    (h : ∀ p ∈ rs, (WrittenClause.reference p.1 p.2).Readable) (b : Body) (i : Nat) :
    b.addAll i (rs.map fun p => referenceTokens p.1 p.2)
      = { b with table := { b.table with
          keys := b.table.keys ++ (rs.zipIdx i).map declaredKey } } := by
  induction rs generalizing b i with
  | nil => simp [Body.addAll]
  | cons p rs ih =>
    rw [List.map_cons, Body.addAll, add_reference (h p (List.mem_cons_self ..)),
      ih fun q hq => h q (List.mem_cons_of_mem _ hq)]
    simp

/-- The body of a written table declares the table, and nothing in it is reported. -/
theorem declareBody_written {t : TableDefinition} (h : Writable t) :
    declareBody t.name (joinClauses ((writtenClauses t).map (·.tokens)))
      = (declaredTable t, []) := by
  have hread := h.readable
  have hsplit : splitClauses (joinClauses ((writtenClauses t).map (·.tokens)))
      = (writtenClauses t).map (·.tokens) := by
    refine splitClauses_joinClauses (fun c hc => ?_) (fun c hc => ?_)
    · obtain ⟨clause, hclause, rfl⟩ := List.mem_map.1 hc
      exact WrittenClause.whole_tokens (hread clause hclause)
    · obtain ⟨clause, -, rfl⟩ := List.mem_map.1 hc
      exact WrittenClause.tokens_ne_nil clause
  have htokens : (writtenClauses t).map (·.tokens)
      = t.columns.map columnTokens
        ++ (references t).map fun p => referenceTokens p.1 p.2 := by
    rw [writtenClauses, List.map_append, List.map_map, List.map_map]
    rfl
  have hcolumns : ∀ c ∈ t.columns, (WrittenClause.column c).Readable := by
    intro c hc
    exact hread _ (List.mem_append_left _ (List.mem_map_of_mem hc))
  have hreferences : ∀ p ∈ references t, (WrittenClause.reference p.1 p.2).Readable := by
    intro p hp
    exact hread _ (List.mem_append_right _ (List.mem_map.2 ⟨p, hp, rfl⟩))
  simp only [declareBody, hsplit]
  rw [htokens, addAll_columns hcolumns h.distinct _ (fun _ _ => rfl),
    addAll_references hreferences]
  simp [applyPrimaryKeys, declaredTable]

/-! ## Statements -/

/-- The report on a table without columns. -/
def emptyTableReport (t : TableDefinition) : Diagnostic := ⟨t.name, none, "", .noColumns⟩

/-- What a written script declares. -/
theorem ofStatements_written {ts : List TableDefinition} (h : ∀ t ∈ ts, Writable t)
    (hd : (ts.map (·.name)).Nodup) :
    Declarations.ofStatements (ts.map writtenStatement)
      = ⟨(ts.filter fun t => !t.columns.isEmpty).map declaredTable,
          (ts.filter fun t => t.columns.isEmpty).map emptyTableReport⟩ := by
  have hempty : ∀ t, (declaredTable t).columns.isEmpty = t.columns.isEmpty := by
    intro t
    simp [declaredTable]
  refine (Declarations.ofStatements_creates hd).trans ?_
  clear hd
  induction ts with
  | nil => rfl
  | cons t ts ih =>
    have hrest := ih fun u hu => h u (List.mem_cons_of_mem _ hu)
    rw [Declarations.mk.injEq] at hrest ⊢
    rw [List.flatMap_cons, List.flatMap_cons, hrest.1, hrest.2]
    simp only [createdTable?, createReports, declareBody_written (h t (List.mem_cons_self ..)),
      hempty]
    by_cases he : t.columns.isEmpty = true
    · simp [he, emptyTableReport]
    · simp [he]

/-! ## References -/

theorem hasColumn_declaredTable (t : TableDefinition) (name : String) :
    (declaredTable t).hasColumn name = t.columns.any fun c => c.name == name := by
  rw [DeclaredTable.hasColumn, declaredTable, List.any_map]
  rfl

theorem nodup_references {t : TableDefinition} (h : (t.columns.map (·.name)).Nodup) :
    ((references t).map Prod.fst).Nodup := by
  refine h.sublist ?_
  unfold references
  generalize t.columns = cs
  induction cs with
  | nil => exact List.Sublist.slnil
  | cons c cs ih =>
    cases hc : c.foreignKey with
    | none => simpa [hc] using ih.cons c.name
    | some r => simpa [hc] using ih.cons_cons c.name

section
variable {us : List TableDefinition} {t : TableDefinition}

/-- The key of a reference leads to its target, if there is one. -/
theorem ofKey_written (hd : (us.map (·.name)).Nodup) {p : String × ForeignKey}
    (hp : p ∈ references t) (i : Nat) :
    (Attachment.ofKey (us.map declaredTable) (declaredTable t) (declaredKey (p, i))).pairs
        = (if hasTarget us p.2 then [p] else []) ∧
      (Attachment.ofKey (us.map declaredTable) (declaredTable t)
        (declaredKey (p, i))).diagnostics = [] := by
  obtain ⟨c, hc, hname, -⟩ := mem_references.1 hp
  have hsource : (declaredTable t).hasColumn p.1 = true := by
    rw [hasColumn_declaredTable, List.any_eq_true]
    exact ⟨c, hc, by simp [hname]⟩
  have hfind : (us.map declaredTable).find? (fun u => u.name == p.2.table)
      = (us.find? fun u => u.name == p.2.table).map declaredTable := by
    rw [List.find?_map]
    rfl
  have hkey : (declaredKey (p, i)).target.table = p.2.table := rfl
  unfold Attachment.ofKey
  rw [hkey, hfind]
  cases hu : us.find? fun u => u.name == p.2.table with
  | none =>
    rw [List.find?_eq_none] at hu
    have hnone : hasTarget us p.2 = false :=
      hasTarget_of_forall_ne fun u hmem => by simpa using hu u hmem
    simp [hnone, Attachment.empty]
  | some u =>
    have hname : u.name = p.2.table := by simpa using List.find?_some hu
    have htarget := hasTarget_of_mem hd (List.mem_of_find?_eq_some hu) hname
    have hcolumns : Attachment.targetColumns (declaredKey (p, i)) (declaredTable u)
        = [p.2.column] := rfl
    have hsame : (⟨(declaredTable u).name, p.2.column⟩ : ForeignKey) = p.2 := by
      rw [declaredTable, hname]
    simp only [Option.map_some, Attachment.ofKeyTo, hcolumns]
    simp [declaredKey, Attachment.append, Attachment.empty, Attachment.pairs_ofPair,
      Attachment.diagnostics_ofPair, hsource, hasColumn_declaredTable, htarget, hsame]

/-- The keys of a written table lead to the targets of its references. -/
theorem ofTable_written (hd : (us.map (·.name)).Nodup) :
    (Attachment.ofTable (us.map declaredTable) (declaredTable t)).pairs
        = (references t).filter (fun p => hasTarget us p.2) ∧
      (Attachment.ofTable (us.map declaredTable) (declaredTable t)).diagnostics = [] := by
  have hkeys : ∀ {rs : List (String × ForeignKey)} (i : Nat), rs ⊆ references t →
      ((rs.zipIdx i).map declaredKey).flatMap (fun key =>
          (Attachment.ofKey (us.map declaredTable) (declaredTable t) key).pairs)
        = rs.filter (fun p => hasTarget us p.2) ∧
      ((rs.zipIdx i).map declaredKey).flatMap (fun key =>
          (Attachment.ofKey (us.map declaredTable) (declaredTable t) key).diagnostics) = [] := by
    intro rs
    induction rs with
    | nil => simp
    | cons p rs ih =>
      intro i hsub
      rw [List.cons_subset] at hsub
      obtain ⟨hpairs, hreports⟩ := ih (i + 1) hsub.2
      obtain ⟨hpair, hreport⟩ := ofKey_written hd hsub.1 i
      rw [List.zipIdx_cons, List.map_cons, List.flatMap_cons, List.flatMap_cons, hpairs, hreports,
        hpair, hreport, List.filter_cons]
      split <;> simp
  rw [Attachment.pairs_ofTable, Attachment.diagnostics_ofTable]
  exact hkeys _ (List.Subset.refl _)

/-- The reference of a column is kept if it has a target. -/
theorem referenceOf_written (hd : (us.map (·.name)).Nodup)
    (hcolumns : (t.columns.map (·.name)).Nodup) {c : Column} (hc : c ∈ t.columns) :
    (Attachment.ofTable (us.map declaredTable) (declaredTable t)).referenceOf c.name
      = c.foreignKey.filter (hasTarget us) := by
  have hpairs := (ofTable_written (t := t) hd).1
  have hnodup : ((Attachment.ofTable (us.map declaredTable)
      (declaredTable t)).pairs.map Prod.fst).Nodup := by
    rw [hpairs]
    exact (nodup_references hcolumns).sublist (List.filter_sublist.map _)
  have hmem : ∀ r, (c.name, r) ∈ references t ↔ c.foreignKey = some r := by
    intro r
    rw [mem_references]
    constructor
    · rintro ⟨d, hd, hname, hr⟩
      rw [← List.inj_on_of_nodup_map hcolumns hd hc hname]
      exact hr
    · exact fun hr => ⟨c, hc, rfl, hr⟩
  ext r
  rw [Attachment.referenceOf_eq_some_iff hnodup, hpairs, List.mem_filter, hmem,
    Option.filter_eq_some_iff]

end

/-! ## Tables -/

/-- The column as it is read back: with a canonical type, and without a dangling reference. -/
def rereadColumn (e : Dialect) (ts : List TableDefinition) (c : Column) : Column :=
  { c with
    typeName := normalizeType e c.typeName
    foreignKey := c.foreignKey.filter (hasTarget ts) }

/-- The table as it is read back. -/
def reread (e : Dialect) (ts : List TableDefinition) (t : TableDefinition) : TableDefinition :=
  { t with columns := t.columns.map (rereadColumn e ts) }

theorem resolveTable_written (e : Dialect) {us : List TableDefinition}
    (hd : (us.map (·.name)).Nodup) {t : TableDefinition}
    (hcolumns : (t.columns.map (·.name)).Nodup) :
    resolveTable e (us.map declaredTable) (declaredTable t) = reread e us t := by
  rw [resolveTable, reread, declaredTable]
  congr 1
  rw [List.map_map]
  refine List.map_congr_left fun c hc => ?_
  rw [Function.comp_apply, resolveColumn, rereadColumn]
  congr 1
  exact referenceOf_written hd hcolumns hc

/-- A written script is read back: its tables are those with columns, its reports are about the
tables without. -/
theorem readScript_written (d e : Dialect) (now : Instant) {ts : List TableDefinition}
    (hne : ts ≠ []) (h : ∀ t ∈ ts, Writable t) (hd : (ts.map (·.name)).Nodup) :
    ∃ script, readScript e (headerText d now ++ String.join (ts.map (tableText d))) = .ok script ∧
      script.definitions = (ts.filter fun t => !t.columns.isEmpty).map (reread e ts) ∧
      script.diagnostics = (ts.filter fun t => t.columns.isEmpty).map emptyTableReport := by
  have hcreates : (ts.map writtenStatement).countP (·.creates) = ts.length := by
    rw [List.countP_map, List.countP_eq_length]
    exact fun _ _ => rfl
  have hkept : ((ts.filter fun t => !t.columns.isEmpty).map (·.name)).Nodup :=
    hd.sublist (List.filter_sublist.map _)
  refine ⟨Script.ofStatements e (ts.map writtenStatement), ?_, ?_, ?_⟩
  · have hlen : ts.length ≠ 0 := fun hz => hne (List.length_eq_zero_iff.1 hz)
    have hcount : (Script.ofStatements e (ts.map writtenStatement)).tableStatements = ts.length :=
      hcreates
    simp only [readScript, statements_written _ d now h, hcount, if_neg hlen]
  · simp only [Script.ofStatements, ofStatements_written h hd]
    rw [List.map_map]
    refine List.map_congr_left fun t ht => ?_
    rw [Function.comp_apply,
      resolveTable_written e hkept (h t (List.mem_of_mem_filter ht)).distinct]
    unfold reread rereadColumn
    rw [hasTarget_filter]
  · simp only [Script.ofStatements, ofStatements_written h hd, attachAll]
    rw [Attachment.diagnostics_foldr, List.flatMap_map, List.flatMap_map]
    simp [(ofTable_written hkept).2]

end SchemaGraph.Sql
