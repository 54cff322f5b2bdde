import SchemaGraph.Proofs.Schema.Imported
import SchemaGraph.Proofs.Schema.Targets
import SchemaGraph.Proofs.Sql.Attaching
import SchemaGraph.Proofs.Sql.Declaring

/-!
# Whatever is read is a schema

The tables of a script that was read are closed: they pass all checks of a schema, and no reference
dangles, whatever the text was. An import is therefore never refused by the schema.
-/

namespace SchemaGraph.Sql

theorem names_resolveTable (d : Dialect) (tables : List DeclaredTable) (t : DeclaredTable) :
    (resolveTable d tables t).columns.map (·.name) = t.columns.map (·.name) := by
  rw [resolveTable, List.map_map]
  rfl

theorem proper_resolveTable {d : Dialect} {text : String} (tables : List DeclaredTable)
    {t : DeclaredTable} (h : t.Proper (columnClauses d text)) :
    (resolveTable d tables t).Proper := by
  refine ⟨h.name, fun c hc => ?_, ?_⟩
  · obtain ⟨u, hu, rfl⟩ := List.mem_map.1 hc
    obtain ⟨clause, hclause, k, hread, hname, -⟩ := h.origin u hu
    have hblank := allBlank_of_readClause hclause hread
    rwa [hname] at hblank
  · rw [names_resolveTable]
    exact h.distinct

/-- A reference of a resolved table has a target among the resolved tables. -/
theorem hasTarget_resolveTable (d : Dialect) {tables : List DeclaredTable} {t : DeclaredTable}
    {c : Column} (hc : c ∈ (resolveTable d tables t).columns) {r : ForeignKey}
    (hr : c.foreignKey = some r) :
    hasTarget (tables.map (resolveTable d tables)) r = true := by
  obtain ⟨u, -, rfl⟩ := List.mem_map.1 hc
  obtain ⟨-, target, htarget, hname, hcolumn⟩ :=
    Attachment.target_of_mem_pairs (Attachment.mem_pairs_of_referenceOf hr)
  rw [DeclaredTable.hasColumn, List.any_eq_true] at hcolumn
  obtain ⟨v, hv, hvname⟩ := hcolumn
  rw [hasTarget_iff]
  exact ⟨_, List.mem_map_of_mem htarget, hname, _, List.mem_map_of_mem hv, eq_of_beq hvname⟩

/-- Resolving proper tables gives closed ones. -/
theorem closed_resolveTable {d : Dialect} {text : String} {ds : Declarations}
    (h : ds.Proper (columnClauses d text)) :
    Closed (ds.tables.map (resolveTable d ds.tables)) := by
  refine ⟨⟨fun t ht => ?_, ?_⟩, fun t ht => ?_, fun t ht c hc r hr => ?_⟩
  · obtain ⟨u, hu, rfl⟩ := List.mem_map.1 ht
    exact proper_resolveTable _ (h.table u hu)
  · rw [List.map_map]
    exact h.distinct
  · obtain ⟨u, hu, rfl⟩ := List.mem_map.1 ht
    have hne := (h.table u hu).nonempty
    rw [resolveTable]
    exact fun hnil => hne (List.map_eq_nil_iff.1 hnil)
  · obtain ⟨u, -, rfl⟩ := List.mem_map.1 ht
    exact hasTarget_resolveTable d hc hr

/-- What a text declares is proper. -/
theorem proper_declarations (d : Dialect) (text : String) :
    (Declarations.ofStatements (statements (tokens d.backslashEscapes text.toList))).Proper
      (columnClauses d text) :=
  Declarations.proper_ofStatements (statements_lexed _ _)

theorem eq_of_readScript {d : Dialect} {text : String} {script : Script}
    (h : readScript d text = .ok script) :
    script = Script.ofStatements d (statements (tokens d.backslashEscapes text.toList)) := by
  unfold readScript at h
  dsimp only at h
  split at h
  · cases h
  · cases h
    rfl

/-- A text with a `CREATE TABLE` is read. -/
theorem readScript_of_countP {ss : List Statement} {d : Dialect} {text : String}
    (hread : statements (tokens d.backslashEscapes text.toList) = ss)
    (h : ss.countP (·.creates) ≠ 0) : readScript d text = .ok (Script.ofStatements d ss) := by
  simp only [readScript, hread]
  exact if_neg h

/-- A text is not read only if it has no `CREATE TABLE`. -/
theorem noTableStatements_iff (d : Dialect) (text : String) :
    readScript d text = .error .noTableStatements ↔
      (statements (tokens d.backslashEscapes text.toList)).countP (·.creates) = 0 := by
  unfold readScript
  dsimp only
  split
  · exact iff_of_true rfl ‹_›
  · exact iff_of_false (by simp) ‹_›

theorem countP_of_readScript {d : Dialect} {text : String} {script : Script}
    (h : readScript d text = .ok script) :
    (statements (tokens d.backslashEscapes text.toList)).countP (·.creates) ≠ 0 := by
  intro hzero
  rw [(noTableStatements_iff d text).2 hzero] at h
  cases h

/-- What is known of the outcome is known of a script. -/
theorem exists_script_map {α : Type} {d : Dialect} {text : String} {f : Script → α} {a : α}
    (h : (readScript d text).map f = .ok a) :
    ∃ script, readScript d text = .ok script ∧ f script = a := by
  cases hread : readScript d text with
  | error e =>
    rw [hread] at h
    cases h
  | ok script =>
    rw [hread] at h
    exact ⟨script, rfl, Except.ok.inj h⟩

theorem exists_script {d : Dialect} {text : String} {ts : List TableDefinition}
    (h : (readScript d text).map (·.definitions) = .ok ts) :
    ∃ script, readScript d text = .ok script ∧ script.definitions = ts :=
  exists_script_map h

/-- The tables that are read from a script are closed. -/
theorem closed_definitions {d : Dialect} {text : String} {script : Script}
    (h : readScript d text = .ok script) : Closed script.definitions := by
  rw [eq_of_readScript h]
  exact closed_resolveTable (proper_declarations d text)

/-- Every column that is read is defined by a clause of the script. -/
theorem clause_of_column {d : Dialect} {text : String} {script : Script}
    (h : readScript d text = .ok script) {t : TableDefinition} (ht : t ∈ script.definitions)
    {c : Column} (hc : c ∈ t.columns) :
    ∃ clause ∈ columnClauses d text, ∃ k, readClause clause = .ok (.column k) ∧
      k.name = c.name ∧ c.typeName = normalizeType d k.declared := by
  rw [eq_of_readScript h] at ht
  obtain ⟨u, hu, rfl⟩ := List.mem_map.1 ht
  obtain ⟨v, hv, rfl⟩ := List.mem_map.1 hc
  obtain ⟨clause, hclause, k, hread, hname, hdeclared⟩ :=
    ((proper_declarations d text).table u hu).origin v hv
  exact ⟨clause, hclause, k, hread, hname, by rw [hdeclared, resolveColumn]⟩

section
variable {K : Type} [Scalar K]

/-- The tables of an import pass the checks of a schema. -/
theorem replaceAll_tablesOf {d : Dialect} {text : String} {script : Script}
    (h : readScript d text = .ok script) (metrics : Canvas.TableMetrics K) (ids : IdSupply) :
    Model.replaceAll (Workspace.tablesOf metrics ids script).1
      = .ok (.withTables (Workspace.tablesOf metrics ids script).1) := by
  rw [Model.replaceAll_iff, Workspace.definitions_tablesOf]
  exact ⟨(closed_definitions h).toProperTables, rfl⟩

/-- An import fails only because of its ticket or because its script has no statements. -/
theorem error_of_finishImport {w : Workspace K} {ticket : UInt32} {text : String}
    {e : ImportError} (h : w.finishImport ticket text = .error e) :
    e = .superseded ∨ e = .script .noTableStatements := by
  rw [Workspace.finishImport_eq] at h
  split at h
  · cases h
    exact Or.inl rfl
  · split at h
    · rename_i reason _
      cases h
      cases reason
      exact Or.inr rfl
    · rename_i script hread
      dsimp only at h
      rw [replaceAll_tablesOf hread] at h
      cases h

end

/-- **Validity of scripts.** Whatever text is read, in whatever dialect: its tables are closed. Once
they are placed, each reference is one relationship, and the schema accepts them. So an import is
refused only if it was superseded or if its text has no `CREATE TABLE` at all. -/
theorem valid_of_readScript (d : Dialect) (text : String) :
    (∀ script, readScript d text = .ok script →
      Closed script.definitions ∧
        ∀ {K : Type} [Scalar K] (metrics : Canvas.TableMetrics K) (ids : IdSupply),
          let ts := (Workspace.tablesOf metrics ids script).1
          (Relationship.resolve ts = ts.flatMap fun t => t.columns.filterMap fun c =>
            c.foreignKey.map (Relationship.ofReference t c)) ∧
          Model.replaceAll ts = .ok (.withTables ts)) ∧
      ∀ {K : Type} [Scalar K] (w : Workspace K) (ticket : UInt32) (e : ImportError),
        w.finishImport ticket text = .error e →
          e = .superseded ∨ e = .script .noTableStatements := by
  refine ⟨fun script h => ⟨closed_definitions h, fun metrics ids => ⟨?_, ?_⟩⟩, ?_⟩
  · refine Relationship.resolve_of_closed ?_
    rw [Workspace.definitions_tablesOf]
    exact closed_definitions h
  · exact replaceAll_tablesOf h metrics ids
  · intro K _ w ticket e h
    exact error_of_finishImport h

/-- A text with faults of many kinds: a keyword and a blank text as column names, a reference that
dangles, a column and a table that come twice, a table without columns and one without an end. -/
def faultyText : String :=
  "CREATE TABLE a (key INT, \"\" TEXT, b INT REFERENCES a(key), c INT REFERENCES gone(x), b TEXT);
  CREATE TABLE a (z INT); CREATE TABLE e (CHECK (x)); ALTER TABLE a ADD COLUMN \"c d\" CHAR;
  CREATE TABLE f (k INT, "

/-- What is left of the faulty text is valid. -/
theorem valid_of_faultyText :
    ∃ script, readScript .sqlite faultyText = .ok script ∧
      script.definitions =
        [⟨"a", [⟨"key", "INT", false, false, none⟩,
            ⟨"b", "INT", false, false, some ⟨"a", "key"⟩⟩,
            ⟨"c", "INT", false, false, none⟩, ⟨"c d", "CHAR", false, false, none⟩]⟩,
          ⟨"f", [⟨"k", "INT", false, false, none⟩]⟩] ∧
      Closed script.definitions := by
  obtain ⟨script, hread, hdefs⟩ := @exists_script .sqlite faultyText
    ([⟨"a", [⟨"key", "INT", false, false, none⟩,
          ⟨"b", "INT", false, false, some ⟨"a", "key"⟩⟩,
          ⟨"c", "INT", false, false, none⟩, ⟨"c d", "CHAR", false, false, none⟩]⟩,
        ⟨"f", [⟨"k", "INT", false, false, none⟩]⟩]) (by decide +kernel)
  exact ⟨script, hread, hdefs, ((valid_of_readScript .sqlite faultyText).1 script hread).1⟩

end SchemaGraph.Sql
