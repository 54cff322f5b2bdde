import SchemaGraph.Proofs.Sql.CompleteStatement
import SchemaGraph.Proofs.Sql.KeyForm
import SchemaGraph.Sql.Script

/-!
# The three spellings of a key

A key on one column is declared as part of the column, as a clause of the table's body, or by a
later `ALTER TABLE`. Whatever complete statements stand around it, and wherever in the body the
clause stands, the three scripts give the same tables (`readScript_keySpellings`).
-/

namespace SchemaGraph.Sql

open DeclaredTable

/-! ## The script without the key -/

/-- The statement creates a table of the name. -/
def Statement.createsTable (table : String) : Statement → Bool
  | createTable name _ _ => name == table
  | _ => false

/-- A statement that creates a table, with other clauses in its body. -/
def TableStatement.withClauses (s : TableStatement) (clauses : List (List Token))
    (h : ∀ clause ∈ clauses, Whole clause) : TableStatement :=
  { s with body := joinClauses clauses, body_nested := nested_joinClauses h }

/-- A script of complete statements with a table, a column of it, and a key on the column that is
still to be declared. -/
structure KeyScript where
  before : List CompleteStatement
  create : TableStatement
  semicolon : Bool
  between : List CompleteStatement
  after : List CompleteStatement
  clausesBefore : List (List Token)
  column : ColumnForm
  clausesAfter : List (List Token)
  key : KeyForm
  columnName : ColumnName
  body_eq : create.body = joinClauses (clausesBefore ++ column.tokens [] :: clausesAfter)
  clauses_whole : ∀ clause ∈ clausesBefore ++ clausesAfter, Whole clause
  ended : Ended (before ++ create.complete semicolon :: (between ++ after))
  columnName_eq : columnName.name = column.column.name
  /-- The table is not created before. -/
  table_new : ∀ s ∈ before, ∀ st ∈ s.statement, st.createsTable create.name = false
  /-- The column is not defined before. -/
  column_new : ∀ clause ∈ clausesBefore, definesColumn columnName.name clause = false
  /-- No clause declares another foreign key on the column, if the key is one. -/
  clauses_free : key ≠ .primary → ∀ clause ∈ clausesBefore ++ column.tokens [] :: clausesAfter,
    declaresKeyOn columnName.name clause = false
  /-- No statement does so either. -/
  statements_free : key ≠ .primary → ∀ s ∈ between ++ after, ∀ st ∈ s.statement,
    st.declaresKeyOn create.name columnName.name = false

/-- An `ALTER TABLE` that declares the key. -/
structure KeyStatement (p : KeyScript) where
  only : Bool
  table : QualifiedName
  constraint : Option ConstraintName
  semicolon : Bool
  table_eq : table.name = p.create.name
  ended : semicolon = true ∨ beginsStatement (p.after.flatMap (·.tokens)) = true

namespace KeyScript

variable (p : KeyScript)

/-- The clauses of the table. -/
def clauses : List (List Token) := p.clausesBefore ++ p.column.tokens [] :: p.clausesAfter

/-- The key as a clause. -/
def keyClause (constraint : Option ConstraintName) : List Token :=
  constraintTokens constraint ++ p.key.clause p.columnName

/-- The clause begins with a keyword. -/
theorem keyClause_eq_cons (constraint : Option ConstraintName) :
    ∃ k more, p.keyClause constraint = .keyword k :: more := by
  unfold keyClause
  cases constraint with
  | none => cases p.key <;> exact ⟨_, _, rfl⟩
  | some t => exact ⟨_, _, rfl⟩

theorem whole_clauses {words : List Token} (h : Whole words) :
    ∀ clause ∈ p.clausesBefore ++ p.column.tokens words :: p.clausesAfter, Whole clause := by
  intro clause hclause
  rw [List.mem_append, List.mem_cons, or_left_comm, ← List.mem_append] at hclause
  rcases hclause with rfl | hclause
  · exact p.column.whole_tokens h
  · exact p.clauses_whole clause hclause

/-- The key is part of its column. -/
def inlined : List CompleteStatement :=
  let create := p.create.withClauses _ (p.whole_clauses p.key.whole_words)
  p.before ++ create.complete p.semicolon :: (p.between ++ p.after)

theorem whole_clauses_key (constraint : Option ConstraintName) {first last : List (List Token)}
    (h : first ++ last = p.clauses) :
    ∀ clause ∈ first ++ p.keyClause constraint :: last, Whole clause := by
  intro clause hclause
  rw [List.mem_append, List.mem_cons, or_left_comm, ← List.mem_append, h] at hclause
  rcases hclause with rfl | hclause
  · exact p.key.whole_clause p.columnName constraint
  · exact p.whole_clauses .nil clause hclause

/-- The key is a clause of the body, between `first` and `last`. -/
def withClause (constraint : Option ConstraintName) {first last : List (List Token)}
    (h : first ++ last = p.clauses) : List CompleteStatement :=
  let create := p.create.withClauses _ (p.whole_clauses_key constraint h)
  p.before ++ create.complete p.semicolon :: (p.between ++ p.after)

end KeyScript

/-- A group that ends within the actions ends no statement. -/
theorem actionTokens_nested {ts : List Token} (hn : Nested ts)
    (h : ∀ t ∈ ts, t ≠ .semicolon ∧ t ≠ .keyword .create ∧ t ≠ .keyword .alter) (depth : Nat)
    (rest : List Token) :
    actionTokens depth (ts ++ rest)
      = (ts ++ (actionTokens depth rest).1, (actionTokens depth rest).2) := by
  induction hn generalizing depth rest with
  | nil => rfl
  | @token t ts hl hr _ ih =>
    rw [List.forall_mem_cons] at h
    rw [List.cons_append, actionTokens, if_neg (by simp [h.1]), if_neg (by simp [h.1]),
      depthAfter_of_ne hl hr, ih h.2]
    rfl
  | @group inner ts _ _ ihi ih =>
    simp only [List.forall_mem_cons, List.forall_mem_append] at h
    rw [List.cons_append, List.append_assoc, List.cons_append, actionTokens, if_neg (by simp),
      if_neg (by simp), depthAfter, ihi h.2.1, actionTokens, if_neg (by simp), if_neg (by simp),
      depthAfter, Nat.add_sub_cancel, ih h.2.2.2]
    simp

namespace KeyStatement

variable {p : KeyScript} (a : KeyStatement p)

/-- The tokens of the action. -/
def action : List Token := .keyword .add :: p.keyClause a.constraint

/-- The tokens of the statement. -/
def tokens : List Token :=
  .keyword .alter :: .keyword .table :: ((if a.only then [.keyword .only] else []) ++
    (a.table.tokens ++ (a.action ++ if a.semicolon then [.semicolon] else [])))

theorem whole_action : Whole a.action :=
  .token (by simp) (by simp) (by simp) (p.key.whole_clause p.columnName a.constraint)

theorem skipIfExistsOnly_tokens (rest : List Token) :
    skipIfExistsOnly ((if a.only then [.keyword .only] else []) ++ (a.table.tokens ++ rest))
      = a.table.tokens ++ rest := by
  obtain ⟨t, more, htable, ht⟩ := cons_of_qualifiedName?
    (@QualifiedName.qualifiedName?_tokens a.table [] (by simp))
  rw [List.append_nil] at htable
  rw [htable, List.cons_append]
  cases a.only with
  | true => rfl
  | false =>
    rw [if_neg (by simp), List.nil_append]
    unfold skipIfExistsOnly
    split
    · rename_i heq
      exact absurd (List.cons.inj heq).1 (ht _)
    · rw [skipKeyword, if_neg (ht _)]

/-- The statement is read as one action. -/
theorem alterTable_tokens :
    alterTable (a.tokens.tail ++ [.keyword .create])
      = (some (.alterTable p.create.name [a.action]), [.keyword .create]) := by
  have hshape : a.tokens.tail ++ [.keyword .create] = .keyword .table ::
      ((if a.only then [.keyword .only] else []) ++ (a.table.tokens ++ (a.action ++
        ((if a.semicolon then [.semicolon] else []) ++ [.keyword .create])))) := by
    simp [tokens]
  have hwithin : ∀ t ∈ a.action, t ≠ .semicolon ∧ t ≠ .keyword .create ∧ t ≠ .keyword .alter := by
    intro t ht
    rcases List.mem_cons.1 ht with rfl | ht
    · simp
    · exact p.key.clause_within p.columnName a.constraint t ht
  have hend : actionTokens 0 ((if a.semicolon then [.semicolon] else []) ++ [.keyword .create])
      = ([], [.keyword .create]) := by
    cases a.semicolon <;> rfl
  have hsplit : splitClauses a.action = [a.action] :=
    @splitClauses_joinClauses [a.action] (by simpa using a.whole_action) (by simp [action])
  rw [hshape, alterTable]
  simp only [a.skipIfExistsOnly_tokens]
  rw [a.table.qualifiedName?_tokens (by simp [action])]
  simp only [actionTokens_nested a.whole_action.nested hwithin, hend, List.append_nil, hsplit,
    a.table_eq]

/-- The statement, which is complete. -/
def complete : CompleteStatement where
  tokens := a.tokens
  statement := some (.alterTable p.create.name [a.action])
  complete := .alter a.alterTable_tokens

theorem endsBefore_after : EndsBefore a.tokens (p.after.flatMap (·.tokens)) := by
  rcases a.ended with hsemicolon | hbegin
  · refine Or.inl ?_
    have hshape : a.tokens = (.keyword .alter :: .keyword .table ::
        ((if a.only then [.keyword .only] else []) ++ (a.table.tokens ++ a.action)))
          ++ [.semicolon] := by
      simp [tokens, hsemicolon]
    rw [hshape, List.getLast?_concat]
  · exact Or.inr hbegin

end KeyStatement

/-- The key is declared by a later statement. -/
def KeyScript.withStatement (p : KeyScript) (a : KeyStatement p) : List CompleteStatement :=
  p.before ++ p.create.complete p.semicolon :: (p.between ++ a.complete :: p.after)

/-! ## The scripts are cut into their statements -/

namespace KeyScript

variable (p : KeyScript)

theorem ended_withClauses {clauses : List (List Token)} (h : ∀ clause ∈ clauses, Whole clause) :
    Ended (p.before ++ (p.create.withClauses clauses h).complete p.semicolon ::
      (p.between ++ p.after)) := by
  have hold := ended_of_append p.ended
  refine ended_append p.ended ⟨?_, hold.2⟩ rfl
  rw [TableStatement.endsBefore_complete]
  exact (TableStatement.endsBefore_complete _ _ _).1 hold.1

theorem ended_withStatement (a : KeyStatement p) : Ended (p.withStatement a) := by
  obtain ⟨hcreate, hrest⟩ := ended_of_append p.ended
  have halter : Ended (a.complete :: p.after) := ⟨a.endsBefore_after, ended_of_append hrest⟩
  refine ended_append p.ended ⟨?_, ended_append hrest halter rfl⟩ rfl
  rw [TableStatement.endsBefore_complete] at hcreate ⊢
  rw [List.flatMap_append] at hcreate ⊢
  exact hcreate.imp_right fun hbegin => beginsStatement_append hbegin rfl

end KeyScript

/-! ## The tables of a script -/

/-- The tables that a script leaves, if the tables `ts` are declared before. -/
def tablesAfter (ss : List CompleteStatement) (ts : List DeclaredTable) : List DeclaredTable :=
  (ss.flatMap (·.statement.toList)).foldl (fun ts s => s.effect ts) ts

theorem tablesAfter_append (ss ss' : List CompleteStatement) (ts : List DeclaredTable) :
    tablesAfter (ss ++ ss') ts = tablesAfter ss' (tablesAfter ss ts) := by
  rw [tablesAfter, List.flatMap_append, List.foldl_append]
  rfl

theorem tablesAfter_cons {c : CompleteStatement} {s : Statement} (h : c.statement = some s)
    (cs : List CompleteStatement) (ts : List DeclaredTable) :
    tablesAfter (c :: cs) ts = tablesAfter cs (s.effect ts) := by
  rw [tablesAfter, List.flatMap_cons, h]
  rfl

/-- Only a statement that creates a table of the name brings the name up. -/
theorem not_mem_effect {table : String} {s : Statement} (h : s.createsTable table = false)
    {ts : List DeclaredTable} (hts : table ∉ ts.map (·.name)) :
    table ∉ (s.effect ts).map (·.name) := by
  cases s with
  | createTable name body closed =>
    have hne : name ≠ table := by simpa [Statement.createsTable] using h
    rw [Statement.effect]
    split
    · exact hts
    · rw [List.map_append, List.mem_append, not_or]
      refine ⟨hts, fun hmem => ?_⟩
      obtain ⟨t, ht, htable⟩ := List.mem_map.1 hmem
      rw [Option.mem_toList] at ht
      exact hne ((name_createdTable? ht).symm.trans htable)
  | nameless found => exact hts
  | bodiless name => exact hts
  | alterTable name actions =>
    rw [Statement.effect, Declarations.names_map_atName _ fun t => name_foldl_altered t actions]
    exact hts

theorem not_mem_tablesAfter {table : String} {ss : List CompleteStatement}
    (h : ∀ c ∈ ss, ∀ s ∈ c.statement, s.createsTable table = false) {ts : List DeclaredTable}
    (hts : table ∉ ts.map (·.name)) : table ∉ (tablesAfter ss ts).map (·.name) := by
  induction ss generalizing ts with
  | nil => exact hts
  | cons c ss ih =>
    rw [List.forall_mem_cons] at h
    cases hs : c.statement with
    | none =>
      have hskip : tablesAfter (c :: ss) ts = tablesAfter ss ts := by
        rw [tablesAfter, List.flatMap_cons, hs]
        rfl
      rw [hskip]
      exact ih h.2 hts
    | some s =>
      rw [tablesAfter_cons hs]
      exact ih h.2 (not_mem_effect (h.1 s hs) hts)

/-- A script of complete statements, one of which creates a table, gives the tables that its
statements leave. -/
theorem readScript_complete (d : Dialect) {text : String} {ss : List CompleteStatement}
    (htokens : tokens d.backslashEscapes text.toList = ss.flatMap (·.tokens)) (h : Ended ss)
    {c : CompleteStatement} (hc : c ∈ ss) {s : Statement} (hs : c.statement = some s)
    (hcreates : s.creates = true) :
    ∃ script, readScript d text = .ok script ∧
      script.definitions = (tablesAfter ss []).map (resolveTable d (tablesAfter ss [])) := by
  have hmem : s ∈ ss.flatMap (·.statement.toList) :=
    List.mem_flatMap.2 ⟨c, hc, by simp [hs]⟩
  have hcount : (ss.flatMap (·.statement.toList)).countP (·.creates) ≠ 0 :=
    Nat.pos_iff_ne_zero.1 (List.countP_pos_iff.2 ⟨s, hmem, hcreates⟩)
  refine ⟨Script.ofStatements d (ss.flatMap (·.statement.toList)), ?_, ?_⟩
  · simp only [readScript, htokens, statements_script h]
    exact if_neg hcount
  · simp only [Script.ofStatements, Declarations.tables_ofStatements]
    rfl

/-! ## The three scripts -/

namespace KeyScript

variable (p : KeyScript)

/-- The tables of the script without the key, to one of which the key is added. -/
def keyedTables : List DeclaredTable :=
  (tablesAfter (p.between ++ p.after) (p.create.statement.effect (tablesAfter p.before []))).map
    (atName p.create.name fun t => t.extended (p.keyClause none))

/-- The name of the constraint makes no difference. -/
theorem extended_keyClause (constraint : Option ConstraintName) (t : DeclaredTable) :
    t.extended (p.keyClause constraint) = t.extended (p.keyClause none) := by
  rw [extended, extended, keyClause, keyClause, p.key.readClause_clause, p.key.readClause_clause]

theorem isKeyOn_keyClause (constraint : Option ConstraintName) :
    IsKeyOn p.columnName.name (p.keyClause constraint) :=
  p.key.isKeyOn_clause p.columnName constraint

theorem effect_action (a : KeyStatement p) (ts : List DeclaredTable) :
    (Statement.alterTable p.create.name [a.action]).effect ts
      = ts.map (atName p.create.name fun t => t.extended (p.keyClause none)) := by
  have hadd : addition? a.action = some (p.keyClause a.constraint) := by
    obtain ⟨k, more, hkey⟩ := p.keyClause_eq_cons a.constraint
    rw [KeyStatement.action, addition?, hkey]
    rfl
  have haltered : ∀ t, [a.action].foldl altered t = t.extended (p.keyClause none) := by
    intro t
    rw [List.foldl_cons, List.foldl_nil, altered, hadd, ← p.extended_keyClause a.constraint]
    rfl
  rw [Statement.effect, funext haltered]

theorem ne_primary {constraint : Option ConstraintName}
    (h : declaresKeyOn p.columnName.name (p.keyClause constraint) = true) : p.key ≠ .primary := by
  intro hprimary
  rw [declaresKeyOn, keyClause, p.key.readClause_clause, hprimary] at h
  cases h

theorem isInlined (hdot : p.key.endsWithTable = true → p.column.rest.head? ≠ some .dot)
    (constraint : Option ConstraintName) :
    IsInlined p.columnName.name (p.keyClause constraint) (p.column.tokens [])
      (p.column.tokens p.key.words) := by
  refine p.column.isInlined p.key p.columnName_eq constraint (fun hkey => ?_) hdot
  exact p.clauses_free (p.ne_primary hkey) _ (List.mem_append_right _ (List.mem_cons_self ..))

/-- The column is defined without the key. -/
theorem definesColumn_column : definesColumn p.columnName.name (p.column.tokens []) = true := by
  have hread : readClause (p.column.tokens []) = .ok (.column p.column.column) := p.column.read
  simp [definesColumn, hread, p.columnName_eq]

theorem splitClauses_column {words : List Token} (h : Whole words) :
    splitClauses (joinClauses (p.clausesBefore ++ p.column.tokens words :: p.clausesAfter))
      = p.clausesBefore.filter (fun clause => !clause.isEmpty) ++
        p.column.tokens words :: p.clausesAfter.filter (fun clause => !clause.isEmpty) := by
  rw [splitClauses_joinClauses_filter (p.whole_clauses h), List.filter_append,
    List.filter_cons_of_pos (by rfl)]

theorem splitClauses_body :
    splitClauses p.create.body = p.clausesBefore.filter (fun clause => !clause.isEmpty) ++
      p.column.tokens [] :: p.clausesAfter.filter (fun clause => !clause.isEmpty) := by
  rw [p.body_eq]
  exact p.splitClauses_column .nil

theorem new_name : p.create.name ∉ (tablesAfter p.before []).map (·.name) :=
  not_mem_tablesAfter p.table_new List.not_mem_nil

theorem hasColumn_create :
    HasColumn p.create.name p.columnName.name
      (p.create.statement.effect (tablesAfter p.before [])) := by
  exact hasColumn_effect_createTable
    (hasColumn_declareBody p.splitClauses_body p.definesColumn_column _) p.new_name true

/-- The key may be declared before or after the statements that follow the table. -/
theorem alike_tablesAfter {ss : List CompleteStatement} (hss : ss ⊆ p.between ++ p.after)
    {ts : List DeclaredTable} (h : HasColumn p.create.name p.columnName.name ts) :
    List.Forall₂ Alike
      (tablesAfter ss (ts.map (atName p.create.name fun t => t.extended (p.keyClause none))))
      ((tablesAfter ss ts).map (atName p.create.name fun t => t.extended (p.keyClause none))) := by
  refine alike_foldl_extended h (p.isKeyOn_keyClause none) fun hkey s hs => ?_
  obtain ⟨c, hc, hstatement⟩ := List.mem_flatMap.1 hs
  exact p.statements_free (p.ne_primary hkey) c (hss hc) s (Option.mem_toList.1 hstatement)

theorem alike_withClauses {clauses : List (List Token)} (hwhole : ∀ clause ∈ clauses, Whole clause)
    (h : Alike (declareBody p.create.name (joinClauses clauses)).1
      ((declareBody p.create.name p.create.body).1.extended (p.keyClause none))) :
    List.Forall₂ Alike
      (tablesAfter (p.before ++ (p.create.withClauses clauses hwhole).complete p.semicolon ::
        (p.between ++ p.after)) [])
      p.keyedTables := by
  rw [tablesAfter_append, tablesAfter_cons rfl]
  have hcreate := alike_effect_createTable (p.isKeyOn_keyClause none) h p.new_name true
  exact alike_trans (alike_foldl_effect hcreate _)
    (p.alike_tablesAfter (List.Subset.refl _) p.hasColumn_create)

theorem alike_inlined (hdot : p.key.endsWithTable = true → p.column.rest.head? ≠ some .dot) :
    List.Forall₂ Alike (tablesAfter p.inlined []) p.keyedTables := by
  refine p.alike_withClauses _ ?_
  refine alike_declareBody_inlined (p.isInlined hdot none) p.splitClauses_body
    (p.splitClauses_column p.key.whole_words) (fun clause hclause => ?_)
    (fun hkey clause hclause => ?_) p.create.name
  · exact p.column_new clause (List.mem_of_mem_filter hclause)
  · exact p.clauses_free (p.ne_primary hkey) clause
      (List.mem_append_right _ (List.mem_cons_of_mem _ (List.mem_of_mem_filter hclause)))

theorem alike_withClause (constraint : Option ConstraintName) {first last : List (List Token)}
    (h : first ++ last = p.clauses) :
    List.Forall₂ Alike (tablesAfter (p.withClause constraint h) []) p.keyedTables := by
  refine p.alike_withClauses _ ?_
  have hbody : splitClauses p.create.body = first.filter (fun clause => !clause.isEmpty) ++
      last.filter (fun clause => !clause.isEmpty) := by
    rw [p.body_eq, splitClauses_joinClauses_filter (p.whole_clauses .nil), ← List.filter_append, h]
    rfl
  have hbody' : splitClauses (joinClauses (first ++ p.keyClause constraint :: last))
      = first.filter (fun clause => !clause.isEmpty) ++
        p.keyClause constraint :: last.filter (fun clause => !clause.isEmpty) := by
    obtain ⟨k, more, hkey⟩ := p.keyClause_eq_cons constraint
    rw [splitClauses_joinClauses_filter (p.whole_clauses_key constraint h), List.filter_append,
      List.filter_cons_of_pos (by rw [hkey]; rfl)]
  rw [← p.extended_keyClause constraint]
  refine alike_declareBody_clause (p.isKeyOn_keyClause constraint) hbody hbody'
    (fun hkey clause hclause => ?_) p.create.name
  refine p.clauses_free (p.ne_primary hkey) clause ?_
  have hmem : clause ∈ first ++ last := List.mem_append_right _ (List.mem_of_mem_filter hclause)
  rwa [h] at hmem

theorem hasColumn_tablesAfter (ss : List CompleteStatement) {ts : List DeclaredTable}
    (h : HasColumn p.create.name p.columnName.name ts) :
    HasColumn p.create.name p.columnName.name (tablesAfter ss ts) := by
  unfold tablesAfter
  induction ss.flatMap (·.statement.toList) generalizing ts with
  | nil => exact h
  | cons s ss ih => exact ih (h.effect s)

theorem alike_withStatement (a : KeyStatement p) :
    List.Forall₂ Alike (tablesAfter (p.withStatement a) []) p.keyedTables := by
  have hcolumn := p.hasColumn_tablesAfter p.between p.hasColumn_create
  have hafter := p.alike_tablesAfter (List.subset_append_right ..) hcolumn
  rw [← tablesAfter_append, ← p.effect_action a] at hafter
  rwa [withStatement, tablesAfter_append, tablesAfter_cons rfl, tablesAfter_append,
    tablesAfter_cons rfl]

end KeyScript

/-- A table with a column that is to refer to another table. -/
def petsTable : TableStatement :=
  .plain (.word "pets") "pets" [.word "id", .word "INT", .comma, .word "owner", .word "INT",
    .keyword .not, .keyword .null] rfl (.of_forall (by decide))

/-- The other table. -/
def usersTable : TableStatement :=
  .plain (.word "users") "users" [.word "id", .word "INT"] rfl (.of_forall (by decide))

def ownerColumn : ColumnForm where
  name := .word "owner"
  typeWord := .word "INT"
  typeRest := []
  rest := [.keyword .not, .keyword .null]
  column := ⟨"owner", "INT", false, true, none⟩
  typeRest_idle := .nil
  rest_whole := .of_forall (by decide)
  rest_ends := rfl
  read := by decide +kernel

def petsScript : KeyScript where
  before := [⟨[.word "BEGIN", .semicolon], none, .other (by decide)⟩]
  create := petsTable
  semicolon := true
  between := [usersTable.complete false]
  after := []
  clausesBefore := [[.word "id", .word "INT"]]
  column := ownerColumn
  clausesAfter := []
  key := .foreign ⟨[.word "public"], .word "users", "users", by decide, rfl⟩
    (some ⟨.word "id", "id", rfl⟩)
  columnName := ⟨.quoted "owner", "owner", rfl⟩
  body_eq := rfl
  clauses_whole := by
    intro clause hclause
    rw [List.append_nil, List.mem_singleton] at hclause
    rw [hclause]
    exact .of_forall (by decide)
  ended := ⟨Or.inl rfl, Or.inl rfl, Or.inr rfl, trivial⟩
  columnName_eq := rfl
  table_new := by
    intro s hs st hst
    rw [List.mem_singleton.1 hs] at hst
    cases hst
  column_new := by decide +kernel
  clauses_free := fun _ => by decide +kernel
  statements_free := fun _ => by decide +kernel

/-- The constraint of the key. -/
def ownerConstraint : Option ConstraintName := some ⟨.word "lives", rfl⟩

def ownerStatement : KeyStatement petsScript where
  only := true
  table := ⟨[], .word "pets", "pets", by decide, rfl⟩
  constraint := ownerConstraint
  semicolon := false
  table_eq := rfl
  ended := Or.inr rfl

def inlinedText : String :=
  "BEGIN; CREATE TABLE pets (id INT, owner INT REFERENCES public.users (id) NOT NULL);
  CREATE TABLE users (id INT)"

def ownClauseText : String :=
  "BEGIN; CREATE TABLE pets (CONSTRAINT lives FOREIGN KEY (\"owner\") REFERENCES public.users (id),
  id INT, owner INT NOT NULL); CREATE TABLE users (id INT)"

def laterText : String :=
  "BEGIN; CREATE TABLE pets (id INT, owner INT NOT NULL); CREATE TABLE users (id INT)
  ALTER TABLE ONLY pets ADD CONSTRAINT lives FOREIGN KEY (\"owner\") REFERENCES public.users (id)"

def ownersTable : TableStatement :=
  .plain (.word "r") "r" [.word "a", .word "INT", .keyword .primary, .keyword .key] rfl
    (.of_forall (by decide))

/-- Neither the dot nor the name after it means anything in this table. -/
def dottedTable : TableStatement :=
  .plain (.word "t") "t" [.word "c", .word "INT", .dot, .word "x"] rfl (.of_forall (by decide))

def dottedColumn : ColumnForm where
  name := .word "c"
  typeWord := .word "INT"
  typeRest := []
  rest := [.dot, .word "x"]
  column := ⟨"c", "INT", false, false, none⟩
  typeRest_idle := .nil
  rest_whole := .of_forall (by decide)
  rest_ends := rfl
  read := by decide +kernel

def dottedScript : KeyScript where
  before := [ownersTable.complete true]
  create := dottedTable
  semicolon := true
  between := []
  after := []
  clausesBefore := []
  column := dottedColumn
  clausesAfter := []
  key := .foreign ⟨[], .word "r", "r", by decide, rfl⟩ none
  columnName := ⟨.word "c", "c", rfl⟩
  body_eq := rfl
  clauses_whole := by simp
  ended := ⟨Or.inl rfl, Or.inl rfl, trivial⟩
  columnName_eq := rfl
  table_new := by decide +kernel
  column_new := by decide
  clauses_free := fun _ => by decide +kernel
  statements_free := fun _ => by decide

def dottedStatement : KeyStatement dottedScript where
  only := false
  table := ⟨[], .word "t", "t", by decide, rfl⟩
  constraint := none
  semicolon := true
  table_eq := rfl
  ended := Or.inl rfl

def dottedInlineText : String :=
  "CREATE TABLE r (a INT PRIMARY KEY); CREATE TABLE t (c INT REFERENCES r .x);"

def dottedClauseText : String :=
  "CREATE TABLE r (a INT PRIMARY KEY); CREATE TABLE t (c INT .x, FOREIGN KEY (c) REFERENCES r);"

def dottedLaterText : String :=
  "CREATE TABLE r (a INT PRIMARY KEY); CREATE TABLE t (c INT .x);
  ALTER TABLE t ADD FOREIGN KEY (c) REFERENCES r;"

end SchemaGraph.Sql
