import SchemaGraph.Proofs.Sql.StatementReports

/-!
# What becomes of the clauses of a body

Each clause of a body has one outcome, and it depends on the clause and on those before it only
(`outcome`). What the body declares and reports is made up of the outcomes of its clauses, one for
each of them (`declareBody_eq_found`, `reports_createTable`).
-/

namespace SchemaGraph.Sql

open DeclaredTable

/-! ## Outcomes -/

/-- What becomes of a clause of a body. -/
inductive Outcome where
  /-- It defines a new column. -/
  | column (c : ColumnClause)
  | primaryKey (columns : List String)
  | foreignKey (columns : List String) (target : Reference)
  | skipped
  | reported (p : Problem)
  deriving DecidableEq, Repr

/-- What becomes of a clause that follows the clauses `past` of its body. Of two columns of one name
the second is reported. -/
def outcome (past : List (List Token)) (clause : List Token) : Outcome :=
  match readClause clause with
  | .error p => .reported p
  | .ok .skipped => .skipped
  | .ok (.primaryKey columns) => .primaryKey columns
  | .ok (.foreignKey columns target) => .foreignKey columns target
  | .ok (.column c) =>
    if past.any (definesColumn c.name) then .reported (.duplicateColumn c.name) else .column c

/-- The clauses define the same columns. -/
def SameColumns (past past' : List (List Token)) : Prop :=
  ∀ column, past.any (definesColumn column) = past'.any (definesColumn column)

theorem SameColumns.append {past past' : List (List Token)} (h : SameColumns past past')
    (clauses : List (List Token)) : SameColumns (past ++ clauses) (past' ++ clauses) :=
  fun column => by rw [List.any_append, List.any_append, h]

/-- The outcome of a clause depends on the columns that are defined before it. -/
theorem outcome_congr {past past' : List (List Token)} (h : SameColumns past past')
    (clause : List Token) : outcome past clause = outcome past' clause := by
  unfold SameColumns at h
  unfold outcome
  split <;> simp only [h]

/-- A clause of a body with its position and its outcome. -/
structure Finding where
  place : Nat
  clause : List Token
  outcome : Outcome
  deriving DecidableEq, Repr

/-- The findings on clauses from position `i` on, which follow the clauses `past`. -/
def findings (i : Nat) (past : List (List Token)) : List (List Token) → List Finding
  | [] => []
  | clause :: rest => ⟨i, clause, outcome past clause⟩ :: findings (i + 1) (past ++ [clause]) rest

/-- The findings on the clauses of a body. -/
def bodyFindings (body : List Token) : List Finding := findings 0 [] (splitClauses body)

namespace Finding

/-- The new column. -/
def column? (f : Finding) : Option DeclaredColumn :=
  match f.outcome with
  | .column c => some ⟨c.name, c.declared, c.primaryKey, c.notNull⟩
  | _ => none

/-- The foreign key that is declared, as a clause of its own or with a new column. -/
def key? (f : Finding) : Option KeyDeclaration :=
  match f.outcome with
  | .column c => c.reference.map fun target => ⟨[c.name], target, some f.place⟩
  | .foreignKey columns target => some ⟨columns, target, some f.place⟩
  | _ => none

/-- The primary key. -/
def primaryKey? (f : Finding) : Option (Nat × List String) :=
  match f.outcome with
  | .primaryKey columns => some (f.place, columns)
  | _ => none

/-- The report on the clause, as one of the table of the given name. -/
def report? (name : String) (f : Finding) : Option Diagnostic :=
  match f.outcome with
  | .reported p => some ⟨name, some f.place, clauseText f.clause, p⟩
  | _ => none

end Finding

/-- There is one finding for each clause, in order. -/
theorem clauses_findings (i : Nat) (past clauses : List (List Token)) :
    (findings i past clauses).map (fun f => (f.clause, f.place)) = clauses.zipIdx i := by
  induction clauses generalizing i past with
  | nil => rfl
  | cons clause clauses ih => rw [findings, List.map_cons, ih, List.zipIdx_cons]

theorem findings_append (i : Nat) (past clauses more : List (List Token)) :
    findings i past (clauses ++ more)
      = findings i past clauses ++ findings (i + clauses.length) (past ++ clauses) more := by
  induction clauses generalizing i past with
  | nil => simp [findings]
  | cons clause clauses ih =>
    rw [List.cons_append, findings, ih, findings, List.cons_append, List.length_cons,
      List.append_assoc, List.singleton_append, Nat.add_assoc, Nat.add_comm 1]

/-- Of the clauses before, only the columns that they define matter. -/
theorem findings_congr (i : Nat) {past past' : List (List Token)} (h : SameColumns past past')
    (clauses : List (List Token)) : findings i past clauses = findings i past' clauses := by
  induction clauses generalizing i past past' with
  | nil => rfl
  | cons clause clauses ih =>
    rw [findings, findings, outcome_congr h, ih (i + 1) (h.append [clause])]

theorem places_findings (i : Nat) (past clauses : List (List Token)) :
    (findings i past clauses).map (·.place) = List.range' i clauses.length := by
  have hplaces := congrArg (List.map Prod.snd) (clauses_findings i past clauses)
  rw [List.map_map, List.zipIdx_map_snd] at hplaces
  exact hplaces

/-- A clause has its finding at its position. -/
theorem getElem?_findings (i : Nat) (past clauses : List (List Token)) (n : Nat) :
    (findings i past clauses)[n]?
      = clauses[n]?.map fun clause => ⟨i + n, clause, outcome (past ++ clauses.take n) clause⟩ := by
  induction clauses generalizing i past n with
  | nil => rfl
  | cons clause clauses ih =>
    cases n with
    | zero => simp [findings]
    | succ n =>
      rw [findings, List.getElem?_cons_succ, ih, List.getElem?_cons_succ, List.take_succ_cons,
        List.append_assoc, List.singleton_append, Nat.add_assoc, Nat.add_comm 1]

theorem mem_bodyFindings {i : Nat} {body clause : List Token}
    (h : (splitClauses body)[i]? = some clause) :
    (⟨i, clause, outcome ((splitClauses body).take i) clause⟩ : Finding) ∈ bodyFindings body := by
  refine List.mem_of_getElem? (i := i) ?_
  rw [bodyFindings, getElem?_findings, h, Option.map_some, Nat.zero_add, List.nil_append]

/-- No two findings share a position. -/
theorem eq_of_place {body : List Token} {f g : Finding} (hf : f ∈ bodyFindings body)
    (hg : g ∈ bodyFindings body) (h : f.place = g.place) : f = g := by
  have hplaces : ((bodyFindings body).map (·.place)).Nodup := by
    rw [bodyFindings, places_findings]
    exact List.nodup_range'
  exact List.inj_on_of_nodup_map hplaces hf hg h

/-! ## Bodies -/

namespace Body

/-- What has been read of a body after more findings. -/
def followed (b : Body) (fs : List Finding) : Body where
  table := { b.table with
    columns := b.table.columns ++ fs.filterMap Finding.column?
    keys := b.table.keys ++ fs.filterMap Finding.key? }
  primaryKeys := b.primaryKeys ++ fs.filterMap Finding.primaryKey?
  diagnostics := b.diagnostics ++ fs.filterMap (Finding.report? b.table.name)

theorem followed_nil (b : Body) : b.followed [] = b := by simp [followed]

theorem followed_append (b : Body) (fs gs : List Finding) :
    b.followed (fs ++ gs) = (b.followed fs).followed gs := by
  simp [followed]

theorem followed_singleton (b : Body) (f : Finding) :
    b.followed [f] =
      ⟨⟨b.table.name, b.table.columns ++ f.column?.toList, b.table.keys ++ f.key?.toList⟩,
        b.primaryKeys ++ f.primaryKey?.toList,
        b.diagnostics ++ (f.report? b.table.name).toList⟩ := by
  simp only [followed, List.filterMap_cons, List.filterMap_nil]
  cases f.column? <;> cases f.key? <;> cases f.primaryKey? <;> cases f.report? b.table.name <;> rfl

/-- A clause is read as its outcome says. -/
theorem add_eq_followed {b : Body} {past : List (List Token)}
    (h : ∀ column, b.table.hasColumn column = past.any (definesColumn column)) (i : Nat)
    (clause : List Token) : b.add i clause = b.followed [⟨i, clause, outcome past clause⟩] := by
  rw [followed_singleton]
  unfold add outcome
  obtain ⟨⟨name, columns, keys⟩, primaryKeys, reports⟩ := b
  cases readClause clause with
  | error p => simp [report, Finding.column?, Finding.key?, Finding.primaryKey?, Finding.report?]
  | ok k =>
    cases k with
    | column c =>
      dsimp only
      rw [h]
      split
      · simp [report, Finding.column?, Finding.key?, Finding.primaryKey?, Finding.report?]
      · simp [addColumn, Finding.column?, Finding.key?, Finding.primaryKey?, Finding.report?]
    | _ => simp [addKey, Finding.column?, Finding.key?, Finding.primaryKey?, Finding.report?]

/-- The clauses of a body are read as their outcomes say. -/
theorem addAll_eq_followed {b : Body} {past : List (List Token)}
    (h : ∀ column, b.table.hasColumn column = past.any (definesColumn column)) (i : Nat)
    (clauses : List (List Token)) : b.addAll i clauses = b.followed (findings i past clauses) := by
  induction clauses generalizing b past i with
  | nil => exact b.followed_nil.symm
  | cons clause clauses ih =>
    have hstep : ∀ column, (b.add i clause).table.hasColumn column
        = (past ++ [clause]).any (definesColumn column) := by
      intro column
      rw [hasColumn_add, h, List.any_append]
      simp
    rw [addAll, ih hstep, add_eq_followed h, ← followed_append]
    rfl

end Body

/-- The table that findings make up. -/
def foundTable (name : String) (fs : List Finding) : DeclaredTable :=
  (⟨name, fs.filterMap Finding.column?, fs.filterMap Finding.key?⟩ : DeclaredTable).marked
    ((fs.filterMap Finding.primaryKey?).flatMap (·.2))

/-- The reports that findings give rise to: those on clauses, and those on names in primary keys
that are not those of columns. -/
def foundReports (name : String) (fs : List Finding) : List Diagnostic :=
  fs.filterMap (Finding.report? name) ++
    (fs.filterMap Finding.primaryKey?).flatMap fun key =>
      (foundTable name fs).unknownKeys (some key.1) key.2

/-- A body declares and reports what is found of its clauses. -/
theorem declareBody_eq_found (name : String) (body : List Token) :
    declareBody name body
      = (foundTable name (bodyFindings body), foundReports name (bodyFindings body)) := by
  have hread := @Body.addAll_eq_followed ⟨⟨name, [], []⟩, [], []⟩ [] (fun _ => rfl) 0
    (splitClauses body)
  rw [declareBody, hread, Prod.ext_iff]
  refine ⟨applyPrimaryKeys_eq _ _, ?_⟩
  dsimp only
  rw [reports_applyPrimaryKeys, foundReports]
  simp only [foundTable, unknownKeys_marked]
  rfl

/-- The columns of a body are those that its clauses define. -/
theorem hasColumn_foundTable (name : String) (body : List Token) (column : String) :
    (foundTable name (bodyFindings body)).hasColumn column
      = (splitClauses body).any (definesColumn column) := by
  have hbody : foundTable name (bodyFindings body) = (declareBody name body).1 :=
    congrArg Prod.fst (declareBody_eq_found name body).symm
  rw [hbody, declareBody_eq, Body.hasColumn_result, Body.hasColumn_addAll]
  rfl

theorem isEmpty_foundTable (name : String) (fs : List Finding) :
    (foundTable name fs).columns.isEmpty = (fs.filterMap Finding.column?).isEmpty := by
  rw [foundTable, marked, List.isEmpty_map]

/-! ## Reports on one clause -/

/-- The problem is that of a clause that cannot be used. -/
def Problem.isOfClause : Problem → Bool
  | missingColumnName | missingType _ | missingColumnList | missingReferences
  | missingReferencedTable | columnCountMismatch _ _ | duplicateColumn _ => true
  | _ => false

theorem error_of_map {α β : Type} {f : α → β} {x : Except Problem α} {p : Problem}
    (h : x.map f = .error p) : x = .error p := by
  cases x with
  | error q => exact congrArg Except.error (Except.error.inj h)
  | ok a => cases h

theorem isOfClause_of_columnList? {ts : List Token} {p : Problem} (h : columnList? ts = .error p) :
    p.isOfClause = true := by
  unfold columnList? at h
  split at h
  · dsimp only at h
    split at h
    · cases h
      rfl
    · cases h
  · cases h
    rfl

theorem isOfClause_of_reference? {ts : List Token} {p : Problem} (h : reference? ts = .error p) :
    p.isOfClause = true := by
  unfold reference? at h
  split at h
  · cases h
    rfl
  · exact isOfClause_of_columnList? (error_of_map h)
  · cases h

theorem isOfClause_of_modifiers {c : ColumnClause} {ts : List Token} {p : Problem}
    (h : modifiers c ts = .error p) : p.isOfClause = true := by
  fun_induction modifiers c ts <;> simp_all
  · exact isOfClause_of_reference? ‹_›
  · rw [← h]
    rfl

theorem isOfClause_of_columnClause {ts : List Token} {p : Problem}
    (h : columnClause ts = .error p) : p.isOfClause = true := by
  unfold columnClause at h
  split at h
  · cases h
    rfl
  split at h
  · cases h
    rfl
  split at h
  · cases h
    rfl
  split at h
  · cases h
    rfl
  · exact isOfClause_of_modifiers (error_of_map h)

theorem isOfClause_of_primaryKeyClause {ts : List Token} {p : Problem}
    (h : primaryKeyClause ts = .error p) : p.isOfClause = true :=
  isOfClause_of_columnList? (error_of_map h)

theorem isOfClause_of_foreignKeyClause {ts : List Token} {p : Problem}
    (h : foreignKeyClause ts = .error p) : p.isOfClause = true := by
  unfold foreignKeyClause at h
  split at h
  · cases h
    exact isOfClause_of_columnList? ‹_›
  · unfold foreignKeyTarget at h
    split at h
    · split at h
      · cases h
        exact isOfClause_of_reference? ‹_›
      · split at h
        · cases h
          rfl
        · cases h
    · cases h
      rfl

theorem isOfClause_of_constraintClause {ts : List Token} {p : Problem}
    (h : constraintClause ts = .error p) : p.isOfClause = true := by
  unfold constraintClause at h
  split at h
  · exact isOfClause_of_primaryKeyClause h
  · exact isOfClause_of_foreignKeyClause h
  · cases h

/-- A clause that cannot be read has the problem of a clause. -/
theorem isOfClause_of_readClause {ts : List Token} {p : Problem} (h : readClause ts = .error p) :
    p.isOfClause = true := by
  unfold readClause at h
  split at h
  · exact isOfClause_of_constraintClause h
  · exact isOfClause_of_primaryKeyClause h
  · exact isOfClause_of_foreignKeyClause h
  · cases h
  · cases h
  · split at h
    · cases h
    · exact isOfClause_of_columnClause h
  · split at h
    · cases h
    · exact isOfClause_of_columnClause h
  · split at h
    · cases h
    · exact isOfClause_of_columnClause h
  · exact isOfClause_of_columnClause h

theorem isOfClause_of_outcome {past : List (List Token)} {clause : List Token} {p : Problem}
    (h : outcome past clause = .reported p) : p.isOfClause = true := by
  unfold outcome at h
  split at h
  · cases h
    exact isOfClause_of_readClause ‹_›
  · cases h
  · cases h
  · cases h
  · split at h
    · cases h
      rfl
    · cases h

/-- The clause of a finding has the outcome that it has after some clauses. -/
theorem exists_outcome {i : Nat} {past clauses : List (List Token)} {f : Finding}
    (h : f ∈ findings i past clauses) : ∃ before, f.outcome = outcome before f.clause := by
  induction clauses generalizing i past with
  | nil => cases h
  | cons clause clauses ih =>
    rcases List.mem_cons.1 h with rfl | h
    · exact ⟨past, rfl⟩
    · exact ih h

/-- A report on a clause is about a problem of a clause. -/
theorem isOfClause_of_report? {name : String} {i : Nat} {past clauses : List (List Token)}
    {f : Finding} (hf : f ∈ findings i past clauses) {r : Diagnostic}
    (hr : f.report? name = some r) : r.clause = some f.place ∧ r.problem.isOfClause = true := by
  obtain ⟨before, houtcome⟩ := exists_outcome hf
  unfold Finding.report? at hr
  split at hr
  · rename_i p hp
    cases hr
    exact ⟨rfl, isOfClause_of_outcome (houtcome.symm.trans hp)⟩
  · cases hr

/-- The problem is that a primary key names a column that is not there. -/
def Problem.isUnknownKey : Problem → Bool
  | unknownKeyColumn _ => true
  | _ => false

theorem isUnknownKey_of_isOfClause {p : Problem} (h : p.isOfClause = true) :
    p.isUnknownKey = false := by
  cases p <;> first | rfl | cases h

/-- The reports on the clause at a position, apart from those on names in a primary key. -/
def reportsOn (place : Nat) (reports : List Diagnostic) : List Diagnostic :=
  reports.filter fun r => r.clause == some place && !r.problem.isUnknownKey

theorem reportsOn_append (place : Nat) (reports more : List Diagnostic) :
    reportsOn place (reports ++ more) = reportsOn place reports ++ reportsOn place more :=
  List.filter_append ..

theorem reportsOn_unknownKeys (place : Nat) (t : DeclaredTable) (clause : Option Nat)
    (names : List String) : reportsOn place (t.unknownKeys clause names) = [] := by
  rw [reportsOn, List.filter_eq_nil_iff]
  intro r hr
  obtain ⟨name, -, rfl⟩ := List.mem_map.1 hr
  simp [Problem.isUnknownKey]

theorem le_place {i : Nat} {past clauses : List (List Token)} {f : Finding}
    (h : f ∈ findings i past clauses) : i ≤ f.place := by
  have hplace := List.mem_map_of_mem (f := Finding.place) h
  rw [places_findings, List.mem_range'_1] at hplace
  exact hplace.1

/-- Findings on later clauses do not report on the clause at an earlier position. -/
theorem reportsOn_later (name : String) {place i : Nat} (h : place < i)
    (past clauses : List (List Token)) :
    reportsOn place ((findings i past clauses).filterMap (Finding.report? name)) = [] := by
  rw [reportsOn, List.filter_eq_nil_iff]
  intro r hr
  obtain ⟨f, hf, hreport⟩ := List.mem_filterMap.1 hr
  have hne : f.place ≠ place := Nat.ne_of_gt (Nat.lt_of_lt_of_le h (le_place hf))
  simp [(isOfClause_of_report? hf hreport).1, hne]

/-- The findings report on each of their clauses once, or not at all. -/
theorem reportsOn_findings (name : String) {i : Nat} {past clauses : List (List Token)}
    {f : Finding} (hf : f ∈ findings i past clauses) :
    reportsOn f.place ((findings i past clauses).filterMap (Finding.report? name))
      = (f.report? name).toList := by
  induction clauses generalizing i past with
  | nil => cases hf
  | cons clause clauses ih =>
    have hsplit : (findings i past (clause :: clauses)).filterMap (Finding.report? name)
        = ((⟨i, clause, outcome past clause⟩ : Finding).report? name).toList
          ++ (findings (i + 1) (past ++ [clause]) clauses).filterMap (Finding.report? name) := by
      rw [findings, List.filterMap_cons]
      cases Finding.report? name ⟨i, clause, outcome past clause⟩ <;> rfl
    have hmem : (⟨i, clause, outcome past clause⟩ : Finding)
        ∈ findings i past (clause :: clauses) := List.mem_cons_self ..
    have hhead : ∀ r, (⟨i, clause, outcome past clause⟩ : Finding).report? name = some r →
        r.clause = some i ∧ r.problem.isOfClause = true := fun r hr =>
      isOfClause_of_report? hmem hr
    rw [hsplit, reportsOn_append]
    rcases List.mem_cons.1 hf with rfl | hf
    · rw [reportsOn_later name (Nat.lt_succ_self i), List.append_nil]
      refine List.filter_eq_self.2 fun r hr => ?_
      obtain ⟨hclause, hproblem⟩ := hhead r (Option.mem_toList.1 hr)
      simp [hclause, isUnknownKey_of_isOfClause hproblem]
    · have hne : i ≠ f.place := Nat.ne_of_lt (le_place hf)
      have hnone : reportsOn f.place
          ((⟨i, clause, outcome past clause⟩ : Finding).report? name).toList = [] := by
        refine List.filter_eq_nil_iff.2 fun r hr => ?_
        simp [(hhead r (Option.mem_toList.1 hr)).1, hne]
      rw [hnone, ih hf]
      rfl

/-! ## Statements -/

/-- The reports on a `CREATE TABLE` of a new name, of whose body the findings are `fs`. -/
def newTableReports (name : String) (fs : List Finding) (closed : Bool) : List Diagnostic :=
  (if closed then [] else [⟨name, none, "", .unterminatedBody⟩]) ++
    (foundReports name fs ++
      if (fs.filterMap Finding.column?).isEmpty then [⟨name, none, "", .noColumns⟩] else [])

/-- Reports other than those on the table itself come from its clauses. -/
theorem filter_newTableReports {p : Diagnostic → Bool} {name : String}
    (hopen : p ⟨name, none, "", .unterminatedBody⟩ = false)
    (hempty : p ⟨name, none, "", .noColumns⟩ = false) (fs : List Finding) (closed : Bool) :
    (newTableReports name fs closed).filter p = (foundReports name fs).filter p := by
  have hfirst : (if closed then []
      else [(⟨name, none, "", .unterminatedBody⟩ : Diagnostic)]).filter p = [] := by
    cases closed <;> simp [hopen]
  have hlast : (if (fs.filterMap Finding.column?).isEmpty
      then [(⟨name, none, "", .noColumns⟩ : Diagnostic)] else []).filter p = [] := by
    split <;> simp [hempty]
  rw [newTableReports, List.filter_append, List.filter_append, hfirst, hlast, List.nil_append,
    List.append_nil]

/-- Each clause is reported once or not at all, apart from the names in a primary key. -/
theorem reportsOn_newTableReports (name : String) {body : List Token} {f : Finding}
    (hf : f ∈ bodyFindings body) (closed : Bool) :
    reportsOn f.place (newTableReports name (bodyFindings body) closed)
      = (f.report? name).toList := by
  have hkeys : reportsOn f.place
      (((bodyFindings body).filterMap Finding.primaryKey?).flatMap fun key =>
        (foundTable name (bodyFindings body)).unknownKeys (some key.1) key.2) = [] := by
    rw [reportsOn, List.filter_flatMap, List.flatMap_eq_nil_iff]
    exact fun key _ => reportsOn_unknownKeys f.place _ _ _
  rw [reportsOn, filter_newTableReports rfl rfl, ← reportsOn, foundReports, reportsOn_append, hkeys,
    List.append_nil]
  exact reportsOn_findings name hf

/-- A report on the clause at a position is that of its finding, or comes from a primary key. -/
theorem finding_of_mem_newTableReports {name : String} {body : List Token} {closed : Bool}
    {r : Diagnostic} (hr : r ∈ newTableReports name (bodyFindings body) closed) {i : Nat}
    (hi : r.clause = some i) :
    ∃ f ∈ bodyFindings body, f.place = i ∧
      (f.report? name = some r ∨ ∃ columns, f.outcome = .primaryKey columns) := by
  have hfound : r ∈ (newTableReports name (bodyFindings body) closed).filter (·.clause.isSome) :=
    List.mem_filter.2 ⟨hr, by simp [hi]⟩
  rw [filter_newTableReports rfl rfl, List.mem_filter, foundReports] at hfound
  rcases List.mem_append.1 hfound.1 with hr | hr
  · obtain ⟨f, hf, hreport⟩ := List.mem_filterMap.1 hr
    rw [(isOfClause_of_report? hf hreport).1, Option.some.injEq] at hi
    exact ⟨f, hf, hi, Or.inl hreport⟩
  · obtain ⟨key, hkey, hr⟩ := List.mem_flatMap.1 hr
    obtain ⟨column, -, rfl⟩ := List.mem_map.1 hr
    obtain ⟨f, hf, hprimary⟩ := List.mem_filterMap.1 hkey
    unfold Finding.primaryKey? at hprimary
    split at hprimary
    · rename_i columns houtcome
      cases hprimary
      exact ⟨f, hf, Option.some.inj hi, Or.inr ⟨columns, houtcome⟩⟩
    · cases hprimary

section
variable {ts : List DeclaredTable} {name : String}

theorem reports_createTable (h : name ∉ ts.map (·.name)) (body : List Token) (closed : Bool) :
    (Statement.createTable name body closed).reports ts
      = newTableReports name (bodyFindings body) closed := by
  rw [Statement.reports, if_neg h, createReports, declareBody_eq_found, newTableReports]
  dsimp only
  rw [isEmpty_foundTable]

/-- What a statement of a new name does to the tables. -/
theorem effect_createTable (h : name ∉ ts.map (·.name)) (body : List Token) (closed : Bool) :
    (Statement.createTable name body closed).effect ts
      = ts ++ if ((bodyFindings body).filterMap Finding.column?).isEmpty then []
        else [foundTable name (bodyFindings body)] := by
  rw [Statement.effect, if_neg h, createdTable?, declareBody_eq_found]
  dsimp only
  rw [isEmpty_foundTable]
  split <;> rfl

end

/-! ## Later statements -/

namespace DeclaredTable

theorem labels_marked (t : DeclaredTable) (names : List String) :
    (t.marked names).labels = t.labels := by
  rw [DeclaredTable.labels, marked, List.map_map]
  refine List.map_congr_left fun c _ => ?_
  rw [Function.comp_apply]
  split <;> rfl

/-- The second table comes from the first one by additions: columns are marked, and columns and
foreign keys come at the end. -/
structure Grows (t u : DeclaredTable) : Prop where
  name : u.name = t.name
  columns : ∃ marks, (t.marked marks).columns <+: u.columns
  keys : t.keys <+: u.keys

namespace Grows

variable {t u v : DeclaredTable}

/-- Nothing need be marked. -/
theorem of_prefix (hname : u.name = t.name) (hcolumns : t.columns <+: u.columns)
    (hkeys : t.keys <+: u.keys) : t.Grows u :=
  ⟨hname, ⟨[], by rwa [marked_nil]⟩, hkeys⟩

theorem refl (t : DeclaredTable) : t.Grows t := of_prefix rfl List.prefix_rfl List.prefix_rfl

theorem trans (h : t.Grows u) (h' : u.Grows v) : t.Grows v := by
  obtain ⟨marks, hcolumns⟩ := h.columns
  obtain ⟨marks', hcolumns'⟩ := h'.columns
  refine ⟨h'.name.trans h.name, ⟨marks ++ marks', ?_⟩, h.keys.trans h'.keys⟩
  rw [marked_append]
  exact (hcolumns.map _).trans hcolumns'

/-- Columns keep their names and types. -/
theorem labels (h : t.Grows u) : t.labels <+: u.labels := by
  obtain ⟨marks, hcolumns⟩ := h.columns
  rw [← labels_marked t marks]
  exact hcolumns.map _

theorem extended (t : DeclaredTable) (clause : List Token) : t.Grows (t.extended clause) := by
  unfold DeclaredTable.extended
  split
  · exact ⟨rfl, ⟨_, List.prefix_rfl⟩, List.prefix_rfl⟩
  · exact of_prefix rfl List.prefix_rfl (List.prefix_append ..)
  · split
    · exact refl t
    · exact of_prefix rfl (List.prefix_append ..) (List.prefix_append ..)
  · exact refl t

theorem foldl_altered (t : DeclaredTable) (actions : List (List Token)) :
    t.Grows (actions.foldl altered t) := by
  induction actions generalizing t with
  | nil => exact refl t
  | cons action actions ih =>
    have hstep : t.Grows (t.altered action) := by
      unfold altered
      cases addition? action with
      | none => exact refl t
      | some clause => exact extended t clause
    exact hstep.trans (ih _)

end Grows

end DeclaredTable

/-- No statement takes a table away or renames it. -/
theorem exists_grows_effect {ts : List DeclaredTable} {t : DeclaredTable} (ht : t ∈ ts)
    (s : Statement) : ∃ u ∈ s.effect ts, t.Grows u := by
  cases s with
  | createTable name body closed =>
    rw [Statement.effect]
    split
    · exact ⟨t, ht, .refl t⟩
    · exact ⟨t, List.mem_append_left _ ht, .refl t⟩
  | nameless found => exact ⟨t, ht, .refl t⟩
  | bodiless name => exact ⟨t, ht, .refl t⟩
  | alterTable name actions =>
    refine ⟨_, List.mem_map_of_mem ht, ?_⟩
    unfold atName
    split
    · exact .foldl_altered t actions
    · exact .refl t

theorem exists_grows_effects {ts : List DeclaredTable} {t : DeclaredTable} (ht : t ∈ ts)
    (ss : List Statement) : ∃ u ∈ effects ts ss, t.Grows u := by
  induction ss generalizing ts t with
  | nil => exact ⟨t, ht, .refl t⟩
  | cons s ss ih =>
    obtain ⟨u, hu, hgrows⟩ := exists_grows_effect ht s
    obtain ⟨v, hv, hgrows'⟩ := ih hu
    exact ⟨v, hv, hgrows.trans hgrows'⟩

end SchemaGraph.Sql
