import SchemaGraph.Proofs.Sql.ExactReferences
import SchemaGraph.Proofs.Sql.Findings
import SchemaGraph.Proofs.Sql.Validity

/-!
# Every statement is accounted for

A `CREATE TABLE` either gives a table or is reported as one that does not, and no other statement
adds or takes away a table. So the tables of a script and the reports of lost ones add up to its
`CREATE TABLE` statements (`length_effects`). In the body of a table each clause is accounted for by
its finding (`Accounted`).
-/

namespace SchemaGraph.Sql

open DeclaredTable

/-! ## Lost tables -/

/-- The problem is that a `CREATE TABLE` gives no table. -/
def Problem.losesTable : Problem → Bool
  | duplicateTable | missingTableName | missingBody | noColumns => true
  | _ => false

/-- The number of `CREATE TABLE` statements that are reported to give no table. -/
def lostTables (reports : List Diagnostic) : Nat := reports.countP (·.problem.losesTable)

theorem lostTables_append (reports more : List Diagnostic) :
    lostTables (reports ++ more) = lostTables reports + lostTables more := List.countP_append

theorem lostTables_eq_zero {reports : List Diagnostic}
    (h : ∀ r ∈ reports, r.problem.losesTable = false) : lostTables reports = 0 :=
  List.countP_eq_zero.2 fun r hr => by simp [h r hr]

theorem losesTable_of_isOfClause {p : Problem} (h : p.isOfClause = true) :
    p.losesTable = false := by
  cases p <;> first | rfl | cases h

theorem lostTables_unknownKeys (t : DeclaredTable) (clause : Option Nat) (names : List String) :
    lostTables (t.unknownKeys clause names) = 0 := by
  refine lostTables_eq_zero fun r hr => ?_
  obtain ⟨name, -, rfl⟩ := List.mem_map.1 hr
  rfl

/-- No problem within a body costs the table. -/
theorem lostTables_foundReports (name : String) (body : List Token) :
    lostTables (foundReports name (bodyFindings body)) = 0 := by
  rw [foundReports, lostTables_append, lostTables_eq_zero, Nat.zero_add]
  · refine lostTables_eq_zero fun r hr => ?_
    obtain ⟨key, -, hr⟩ := List.mem_flatMap.1 hr
    obtain ⟨column, -, rfl⟩ := List.mem_map.1 hr
    rfl
  · intro r hr
    obtain ⟨f, hf, hreport⟩ := List.mem_filterMap.1 hr
    exact losesTable_of_isOfClause (isOfClause_of_report? hf hreport).2

theorem lostTables_extendReports (t : DeclaredTable) (action clause : List Token) :
    lostTables (t.extendReports action clause) = 0 := by
  unfold extendReports
  split
  · rename_i p hread
    simp [lostTables, losesTable_of_isOfClause (isOfClause_of_readClause hread)]
  · exact lostTables_unknownKeys t none _
  · split <;> rfl
  · rfl

theorem lostTables_actionReports (t : DeclaredTable) (actions : List (List Token)) :
    lostTables (t.actionReports actions) = 0 := by
  induction actions generalizing t with
  | nil => rfl
  | cons action actions ih =>
    rw [actionReports, lostTables_append, ih, alterReports]
    cases addition? action with
    | none => rfl
    | some clause => exact lostTables_extendReports t action clause

/-- A statement gives a table, or loses one, if it is a `CREATE TABLE`, and else does neither. -/
theorem length_effect (s : Statement) (ts : List DeclaredTable) :
    (s.effect ts).length + lostTables (s.reports ts) = ts.length + if s.creates then 1 else 0 := by
  cases s with
  | createTable name body closed =>
    by_cases hname : name ∈ ts.map (·.name)
    · rw [Statement.effect, Statement.reports, if_pos hname, if_pos hname]
      cases closed <;> rfl
    · rw [effect_createTable hname, reports_createTable hname, newTableReports, lostTables_append,
        lostTables_append, lostTables_foundReports]
      have hopen : lostTables (if closed then [] else [⟨name, none, "", .unterminatedBody⟩])
          = 0 := by
        cases closed <;> rfl
      rw [hopen]
      split <;> simp [Statement.creates, lostTables, Problem.losesTable]
  | nameless found => rfl
  | bodiless name => rfl
  | alterTable name actions =>
    rw [Statement.effect, List.length_map, Statement.reports]
    split
    · have hnone : lostTables (unknownTableReports name actions) = 0 := by
        refine lostTables_eq_zero fun r hr => ?_
        obtain ⟨action, -, rfl⟩ := List.mem_map.1 hr
        rfl
      rw [hnone]
      rfl
    · rw [lostTables_actionReports]
      rfl

/-- The tables and the lost ones add up to the `CREATE TABLE` statements. -/
theorem length_effects (ts : List DeclaredTable) (ss : List Statement) :
    (effects ts ss).length + lostTables (reportsAfter ts ss)
      = ts.length + ss.countP (·.creates) := by
  induction ss generalizing ts with
  | nil => rfl
  | cons s ss ih =>
    have hstep := length_effect s ts
    have hrest := ih (s.effect ts)
    rw [reportsAfter, lostTables_append, List.countP_cons]
    show (effects (s.effect ts) ss).length + _ = _
    omega

/-- No table is lost when foreign keys are attached. -/
theorem lostTables_attachAll (ts : List DeclaredTable) :
    lostTables (attachAll ts).diagnostics = 0 := by
  refine lostTables_eq_zero fun r hr => ?_
  have hproblem := isMismatch_of_mem_attachAll ts hr
  cases hp : r.problem <;> first | rfl | simp [hp, Problem.isMismatch] at hproblem

/-! ## Whole scripts -/

/-- The body of a `CREATE TABLE` of a new name is accounted for: each clause has one finding, and
what the script has of the body is what is found. `before` are the statements before it. -/
structure Accounted (d : Dialect) (ss before : List Statement) (name : String) (body : List Token)
    (closed : Bool) (script : Script) : Prop where
  clauses : (bodyFindings body).map (fun f => (f.clause, f.place)) = (splitClauses body).zipIdx
  /-- The table begins with the new columns and their foreign keys. -/
  table : (bodyFindings body).filterMap Finding.column? ≠ [] →
    ∃ t ∈ (Declarations.ofStatements ss).tables,
      resolveTable d (Declarations.ofStatements ss).tables t ∈ script.definitions ∧
      (foundTable name (bodyFindings body)).Grows t
  /-- The reports on the statement stand where those on the statements before it end. -/
  reports : ∃ late, script.diagnostics = (Declarations.ofStatements before).diagnostics ++
    newTableReports name (bodyFindings body) closed ++ late
  /-- A clause is reported once where its finding says so, and else not at all. -/
  once : ∀ f ∈ bodyFindings body,
    reportsOn f.place (newTableReports name (bodyFindings body) closed) = (f.report? name).toList

/-- The body of a new table is accounted for, whatever statements follow. -/
theorem accounted_ofStatements (d : Dialect) (before after : List Statement) {name : String}
    (h : name ∉ (Declarations.ofStatements before).tables.map (·.name)) (body : List Token)
    (closed : Bool) :
    Accounted d (before ++ .createTable name body closed :: after) before name body closed
      (Script.ofStatements d (before ++ .createTable name body closed :: after)) := by
  refine ⟨clauses_findings 0 [] _, fun hcolumns => ?_, ?_,
    fun f hf => reportsOn_newTableReports name hf closed⟩
  · have hmem : foundTable name (bodyFindings body)
        ∈ (Statement.createTable name body closed).effect
          (Declarations.ofStatements before).tables := by
      rw [effect_createTable h, if_neg (by simpa using hcolumns)]
      simp
    obtain ⟨t, ht, hgrows⟩ := exists_grows_effects hmem after
    have htables : t ∈ (Declarations.ofStatements
        (before ++ .createTable name body closed :: after)).tables := by
      rw [tables_eq_effects, effects_append, ← tables_eq_effects]
      exact ht
    exact ⟨t, htables, List.mem_map_of_mem htables, hgrows⟩
  · have hreports : (Declarations.ofStatements
          (before ++ .createTable name body closed :: after)).diagnostics
        = (Declarations.ofStatements before).diagnostics ++
          newTableReports name (bodyFindings body) closed ++
          reportsAfter ((Statement.createTable name body closed).effect
            (Declarations.ofStatements before).tables) after := by
      rw [Declarations.diagnostics_ofStatements, Declarations.diagnostics_ofStatements,
        reportsAfter_append, ← tables_eq_effects, reportsAfter, reports_createTable h,
        List.append_assoc]
    rw [Script.ofStatements, hreports]
    exact ⟨_, List.append_assoc ..⟩

/-- A new column is a column of the table in the script. -/
theorem Accounted.exists_column {d : Dialect} {ss before : List Statement} {name : String}
    {body : List Token} {closed : Bool} {script : Script}
    (h : Accounted d ss before name body closed script) {f : Finding} (hf : f ∈ bodyFindings body)
    {c : ColumnClause} (hc : f.outcome = .column c) :
    ∃ t ∈ script.definitions, t.name = name ∧
      ∃ k ∈ t.columns, k.name = c.name ∧ k.typeName = normalizeType d c.declared := by
  have hcolumn : (⟨c.name, c.declared, c.primaryKey, c.notNull⟩ : DeclaredColumn)
      ∈ (bodyFindings body).filterMap Finding.column? :=
    List.mem_filterMap.2 ⟨f, hf, by simp [Finding.column?, hc]⟩
  obtain ⟨t, -, ht, hgrows⟩ := h.table (List.ne_nil_of_mem hcolumn)
  have hlabel : (c.name, c.declared) ∈ (foundTable name (bodyFindings body)).labels := by
    rw [foundTable, labels_marked]
    exact List.mem_map_of_mem hcolumn
  obtain ⟨k, hk, hlabel⟩ := List.mem_map.1 (hgrows.labels.subset hlabel)
  obtain ⟨hname, hdeclared⟩ := Prod.mk.inj hlabel
  refine ⟨_, ht, hgrows.name, _, List.mem_map_of_mem hk, hname, ?_⟩
  rw [resolveColumn, hdeclared]

/-- **Every `CREATE TABLE` is accounted for.** Whatever text is read, in whatever dialect: each of
its `CREATE TABLE` statements gives a table or is reported as one that does not, and reading fails
only if there is none. In each body of a table whose name is new there, each clause has exactly one
outcome, and the table and the reports on it are made up of these. -/
theorem accounted_of_readScript (d : Dialect) (text : String) :
    let ss := statements (tokens d.backslashEscapes text.toList)
    (readScript d text = .error .noTableStatements ↔ ss.countP (·.creates) = 0) ∧
      ∀ script, readScript d text = .ok script →
        ss.countP (·.creates) = script.definitions.length + lostTables script.diagnostics ∧
        ∀ before name body closed after, ss = before ++ .createTable name body closed :: after →
          name ∉ (Declarations.ofStatements before).tables.map (·.name) →
          Accounted d ss before name body closed script := by
  intro ss
  refine ⟨noTableStatements_iff d text, fun script hread => ?_⟩
  have hscript : script = Script.ofStatements d ss := eq_of_readScript hread
  refine ⟨?_, fun before name body closed after hss hname => ?_⟩
  · have hcount := length_effects [] ss
    rw [hscript]
    show _ = ((Declarations.ofStatements ss).tables.map _).length
      + lostTables ((Declarations.ofStatements ss).diagnostics ++ _)
    rw [List.length_map, tables_eq_effects, lostTables_append, lostTables_attachAll,
      Declarations.diagnostics_ofStatements, Nat.add_zero, hcount]
    exact (Nat.zero_add _).symm
  · rw [hscript, hss]
    exact accounted_ofStatements d before after hname body closed

/-- Of five statements one gives a table. In its body there is a clause of each outcome. -/
def accountedText : String :=
  "CREATE TABLE a (id INT, id TEXT, KEY (id), x, PRIMARY KEY (id, gone),
    FOREIGN KEY (id) REFERENCES b);
  CREATE TABLE a (z INT); CREATE TABLE; CREATE TABLE c; CREATE TABLE e (CHECK (x));
  ALTER TABLE a ADD COLUMN late TEXT"

/-- The body of the one table. -/
def accountedBody : List Token :=
  [.word "id", .word "INT", .comma, .word "id", .word "TEXT", .comma,
    .keyword .key, .leftParen, .word "id", .rightParen, .comma, .word "x", .comma,
    .keyword .primary, .keyword .key, .leftParen, .word "id", .comma, .word "gone", .rightParen,
    .comma, .keyword .foreign, .keyword .key, .leftParen, .word "id", .rightParen,
    .keyword .references, .word "b"]

/-- The body and the statements of the text are accounted for. -/
theorem accounted_of_accountedText :
    ∃ script, readScript .standard accountedText = .ok script ∧
      script.definitions.length = 1 ∧ lostTables script.diagnostics = 4 ∧
      ((bodyFindings accountedBody).map fun f => (f.place, f.outcome)) =
        [(0, .column ⟨"id", "INT", false, false, none⟩), (1, .reported (.duplicateColumn "id")),
          (2, .skipped), (3, .reported (.missingType "x")), (4, .primaryKey ["id", "gone"]),
          (5, .foreignKey ["id"] ⟨"b", []⟩)] ∧
      Accounted .standard (statements (tokens false accountedText.toList)) [] "a" accountedBody true
        script := by
  have hstatements : statements (tokens Dialect.standard.backslashEscapes accountedText.toList)
      = [] ++ .createTable "a" accountedBody true ::
        [.createTable "a" [.word "z", .word "INT"] true, .nameless ";", .bodiless "c",
          .createTable "e" [.keyword .check, .leftParen, .word "x", .rightParen] true,
          .alterTable "a" [[.keyword .add, .word "COLUMN", .word "late", .word "TEXT"]]] := by
    rw [accountedText, String.toList_ofList]
    decide +kernel
  have houtcome : (readScript .standard accountedText).map (·.definitions.length) = .ok 1 := by
    rw [readScript, accountedText, String.toList_ofList]
    decide +kernel
  obtain ⟨script, hread, hlength⟩ := exists_script_map houtcome
  obtain ⟨hcount, haccounted⟩ := (accounted_of_readScript .standard accountedText).2 script hread
  have hfive : (statements (tokens Dialect.standard.backslashEscapes
      accountedText.toList)).countP (·.creates) = 5 := by
    rw [hstatements]
    rfl
  refine ⟨script, hread, hlength, by omega, by decide +kernel, ?_⟩
  exact haccounted _ _ _ _ _ hstatements (by simp [Declarations.ofStatements, Declarations.empty])

end SchemaGraph.Sql
