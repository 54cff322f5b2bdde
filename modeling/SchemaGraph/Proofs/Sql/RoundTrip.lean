import SchemaGraph.Proofs.Schema.Imported
import SchemaGraph.Proofs.Sql.WrittenTable

/-!
# Writing tables and reading them back

Tables that are written in one dialect are read back in any other: in the order of writing, without
those that have no columns, and without dangling references. The condition on types is about the
dialect of reading only.
-/

namespace SchemaGraph.Sql

/-! ## The order of writing -/

theorem perm_writingOrder (ts : List TableDefinition) : (writingOrder ts).Perm ts := by
  have hsplit := List.filter_append_perm (fun t : TableDefinition => !t.hasForeignKeys) ts
  simpa [writingOrder] using hsplit

/-! ## Everything can be written -/

theorem allBlank_typeText (t : WrittenType) : Text.allBlank t.text = false := by
  have hword := allBlank_of_isBareWord t.bare
  rw [Text.allBlank] at hword
  rw [WrittenType.text, Text.allBlank, String.toList_append, List.all_append, hword,
    Bool.false_and]

theorem checkColumns_of_forall (table : String) {cs : List Column}
    (h : ∀ c ∈ cs, Text.allBlank c.name = false ∧ Text.allBlank c.typeName = false) :
    checkColumns table cs = .ok () := by
  induction cs with
  | nil => rfl
  | cons c cs ih =>
    obtain ⟨hname, htype⟩ := h c (List.mem_cons_self ..)
    simp [checkColumns, hname, htype, ih fun d hd => h d (List.mem_cons_of_mem _ hd)]

/-- The table and its columns have names, and the columns have types. -/
def Printable (t : TableDefinition) : Prop :=
  Text.allBlank t.name = false ∧
    ∀ c ∈ t.columns, Text.allBlank c.name = false ∧ Text.allBlank c.typeName = false

theorem checkTables_of_printable {ts : List TableDefinition} (h : ∀ t ∈ ts, Printable t) :
    checkTables ts = .ok () := by
  induction ts with
  | nil => rfl
  | cons t ts ih =>
    rw [List.forall_mem_cons] at h
    obtain ⟨⟨hname, hcolumns⟩, hrest⟩ := h
    simp [checkTables, checkTable, hname, checkColumns_of_forall t.name hcolumns, ih hrest]

theorem writeScript_of_printable (d : Dialect) (now : Instant) {ts : List TableDefinition}
    (h : ∀ t ∈ ts, Printable t) :
    writeScript d now ts
      = .ok (headerText d now ++ String.join ((writingOrder ts).map (tableText d))) := by
  simp [writeScript, checkTables_of_printable h]

theorem Writable.printable {t : TableDefinition} (h : Writable t) : Printable t := by
  refine ⟨h.name, fun c hc => ⟨h.columnName c hc, ?_⟩⟩
  obtain ⟨w, hw⟩ := h.columnType c hc
  exact hw ▸ allBlank_typeText w

/-- A script of such tables is written and read, whatever their types are reduced to. -/
theorem readScript_writeScript (d e : Dialect) (now : Instant) {ts : List TableDefinition}
    (hne : ts ≠ []) (h : ∀ t ∈ ts, Writable t) (hd : (ts.map (·.name)).Nodup) :
    ∃ text script, writeScript d now ts = .ok text ∧ readScript e text = .ok script ∧
      script.definitions
        = ((writingOrder ts).filter fun t => !t.columns.isEmpty).map (reread e ts) ∧
      script.diagnostics
        = ((writingOrder ts).filter fun t => t.columns.isEmpty).map emptyTableReport := by
  have hperm := perm_writingOrder ts
  have hne' : writingOrder ts ≠ [] := by
    intro hnil
    rw [hnil] at hperm
    exact hne hperm.symm.eq_nil
  have hd' : ((writingOrder ts).map (·.name)).Nodup := (hperm.map _).nodup_iff.2 hd
  obtain ⟨script, hread, hdefs, hreports⟩ :=
    readScript_written d e now hne' (fun t ht => h t (hperm.mem_iff.1 ht)) hd'
  have hwrite := writeScript_of_printable d now fun t ht => (h t ht).printable
  refine ⟨_, script, hwrite, hread, ?_, hreports⟩
  rw [hdefs]
  unfold reread rereadColumn
  rw [hasTarget_of_perm hperm]

/-! ## Tables with canonical types -/

/-- The table without its dangling references. -/
def withoutDangling (ts : List TableDefinition) (t : TableDefinition) : TableDefinition :=
  { t with columns := t.columns.map fun c =>
      { c with foreignKey := c.foreignKey.filter (hasTarget ts) } }

/-- Canonical types are read back as they are. -/
theorem reread_of_canonical {e : Dialect} (ts : List TableDefinition) {t : TableDefinition}
    (h : ∀ c ∈ t.columns, isCanonical e c.typeName = true) :
    reread e ts t = withoutDangling ts t := by
  rw [reread, withoutDangling]
  congr 1
  refine List.map_congr_left fun c hc => ?_
  rw [rereadColumn, eq_of_beq (h c hc)]

/-- A table without columns has no references. -/
theorem isEmpty_and_hasForeignKeys (t : TableDefinition) :
    (t.columns.isEmpty && t.hasForeignKeys) = false := by
  rw [TableDefinition.hasForeignKeys]
  cases t.columns with
  | nil => rfl
  | cons c cs => rfl

/-- The tables with columns, in the order of writing. -/
theorem filter_writingOrder (ts : List TableDefinition) :
    (writingOrder ts).filter (fun t => !t.columns.isEmpty)
      = ts.filter (fun t => !t.columns.isEmpty && !t.hasForeignKeys)
        ++ ts.filter (·.hasForeignKeys) := by
  have hkeys : ∀ t : TableDefinition,
      (!t.columns.isEmpty && t.hasForeignKeys) = t.hasForeignKeys := by
    intro t
    have hnone := isEmpty_and_hasForeignKeys t
    cases hempty : t.columns.isEmpty <;> simp_all
  rw [writingOrder, List.filter_append, List.filter_filter, List.filter_filter]
  simp only [hkeys]

/-- The tables without columns keep their order. -/
theorem filter_isEmpty_writingOrder (ts : List TableDefinition) :
    (writingOrder ts).filter (·.columns.isEmpty) = ts.filter (·.columns.isEmpty) := by
  have hall : ∀ t : TableDefinition,
      (t.columns.isEmpty && !t.hasForeignKeys) = t.columns.isEmpty := by
    intro t
    have hnone := isEmpty_and_hasForeignKeys t
    cases hempty : t.columns.isEmpty <;> simp_all
  rw [writingOrder, List.filter_append, List.filter_filter, List.filter_filter]
  simp only [isEmpty_and_hasForeignKeys, hall, List.filter_false, List.append_nil]

/-- **Round trip.** Let tables with different names be writable, with types that are canonical in
the dialect of reading. Then they are written, in any dialect and at any time, and what is written
is read back as these tables: first those without and then those with a reference, without tables
that have no columns, and each table with all that it had except its dangling references. -/
theorem definitions_of_written (d e : Dialect) (now : Instant) {ts : List TableDefinition}
    (hne : ts ≠ []) (h : ∀ t ∈ ts, Writable t) (hd : (ts.map (·.name)).Nodup)
    (hcanonical : ∀ t ∈ ts, ∀ c ∈ t.columns, isCanonical e c.typeName = true) :
    ∃ text script, writeScript d now ts = .ok text ∧ readScript e text = .ok script ∧
      script.definitions
        = (ts.filter (fun t => !t.columns.isEmpty && !t.hasForeignKeys)
            ++ ts.filter (·.hasForeignKeys)).map (withoutDangling ts) ∧
      script.diagnostics = (ts.filter (·.columns.isEmpty)).map emptyTableReport ∧
      ∀ {K : Type} [Scalar K] (metrics : Canvas.TableMetrics K) (ids : IdSupply),
        (Workspace.tablesOf metrics ids script).1.map (·.toTableDefinition)
          = script.definitions := by
  obtain ⟨text, script, hwrite, hread, hdefs, hreports⟩ := readScript_writeScript d e now hne h hd
  refine ⟨text, script, hwrite, hread, ?_, ?_, ?_⟩
  · rw [hdefs, ← filter_writingOrder]
    refine List.map_congr_left fun t ht => ?_
    have hmem := (perm_writingOrder ts).mem_iff.1 (List.mem_of_mem_filter ht)
    exact reread_of_canonical ts (hcanonical t hmem)
  · rw [hreports, filter_isEmpty_writingOrder]
  · intro K _ metrics ids
    exact Workspace.definitions_tablesOf metrics ids script

/-- Tables with keywords, quotes and line breaks in their names, one of them without columns, and
with a reference that dangles. -/
def awkwardTables : List TableDefinition :=
  [⟨"table", [⟨"key", "INT", true, true, none⟩,
      ⟨"x \"y\".z", "TIME WITHOUT TIME ZONE", false, true, some ⟨"it's\n", "LIKE"⟩⟩,
      ⟨"gone", "CHAR[][]", false, false, some ⟨"nowhere", "x"⟩⟩]⟩,
    ⟨"empty", []⟩,
    ⟨"it's\n", [⟨"LIKE", "DECIMAL", true, false, none⟩]⟩]

theorem awkwardTables_writable : ∀ t ∈ awkwardTables, Writable t := by
  have hint : IsTypeText "INT" := ⟨⟨"INT", [], by decide, by decide⟩, by decide⟩
  have hdecimal : IsTypeText "DECIMAL" := ⟨⟨"DECIMAL", [], by decide, by decide⟩, by decide⟩
  have hchar : IsTypeText "CHAR[][]" :=
    ⟨⟨"CHAR", [.brackets, .brackets], by decide, by decide⟩, by decide⟩
  have htime : IsTypeText "TIME WITHOUT TIME ZONE" :=
    ⟨⟨"TIME", [.word "WITHOUT" (by decide), .word "TIME" (by decide), .word "ZONE" (by decide)],
      by decide, by decide⟩, by decide⟩
  intro t ht
  simp only [awkwardTables, List.mem_cons, List.not_mem_nil, or_false] at ht
  rcases ht with rfl | rfl | rfl
  · refine ⟨by decide, by decide, ?_, by decide, ?_⟩
    · simp [hint, htime, hchar]
    · simp
      decide
  · exact ⟨by decide, by simp, by simp, by simp, by simp⟩
  · exact ⟨by decide, by decide, by simp [hdecimal], by decide, by simp⟩

/-- The awkward tables are written for one dialect and read in another. -/
theorem definitions_of_awkwardTables :
    ∃ text script, writeScript .mysql ⟨0, 0⟩ awkwardTables = .ok text ∧
      readScript .postgresql text = .ok script ∧
      script.definitions =
        [⟨"it's\n", [⟨"LIKE", "DECIMAL", true, false, none⟩]⟩,
          ⟨"table", [⟨"key", "INT", true, true, none⟩,
            ⟨"x \"y\".z", "TIME WITHOUT TIME ZONE", false, true, some ⟨"it's\n", "LIKE"⟩⟩,
            ⟨"gone", "CHAR[][]", false, false, none⟩]⟩] := by
  obtain ⟨text, script, hwrite, hread, hdefs, -⟩ :=
    definitions_of_written .mysql .postgresql ⟨0, 0⟩ (by decide)
      awkwardTables_writable (by decide) (by decide +kernel)
  exact ⟨text, script, hwrite, hread, hdefs.trans (by decide)⟩

end SchemaGraph.Sql
