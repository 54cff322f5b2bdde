import SchemaGraph.Proofs.Sql.ExactReferences
import SchemaGraph.Proofs.Sql.PrimaryKeyMarks
import SchemaGraph.Proofs.Sql.Validity

/-!
# Names in a primary key that are not those of columns

An entry of a primary key that names no column is reported, and makes no other difference: without
it the tables are the same, and of the reports just one is missing (`EntryLeftOut.script`).
-/

namespace SchemaGraph.Sql

open DeclaredTable

/-! ## All reports on unknown names -/

/-- The reports on the entries of a primary key that are not names of columns. -/
def unknownEntries (name : String) (place : Option Nat) (known : String → Bool)
    (clause : List Token) : List Diagnostic :=
  ((listedKeys clause).filter fun x => !known x).map fun x =>
    ⟨name, place, "", .unknownKeyColumn x⟩

/-- The reports on the entries of a body that are not names of its columns. -/
def bodyEntries (name : String) (body : List Token) : List Diagnostic :=
  (splitClauses body).zipIdx.flatMap fun p =>
    unknownEntries name (some p.2) (fun x => (splitClauses body).any (definesColumn x)) p.1

/-- The reports on the entries of additions that are not names of columns when they are made. -/
def additionEntries (t : DeclaredTable) : List (List Token) → List Diagnostic
  | [] => []
  | action :: actions =>
    ((addition? action).map (unknownEntries t.name none t.hasColumn)).getD []
      ++ additionEntries (t.altered action) actions

/-- The reports on such entries of a statement, when the tables `ts` are declared before it. -/
def Statement.entries (ts : List DeclaredTable) : Statement → List Diagnostic
  | createTable name body _ => if name ∈ ts.map (·.name) then [] else bodyEntries name body
  | alterTable name actions =>
    ((ts.find? fun t => t.name == name).map fun t => additionEntries t actions).getD []
  | _ => []

/-- The reports on such entries of statements, when the tables `ts` are declared before. -/
def entriesAfter (ts : List DeclaredTable) : List Statement → List Diagnostic
  | [] => []
  | s :: ss => s.entries ts ++ entriesAfter (s.effect ts) ss

/-- The reports on names in a primary key, of all the given ones. -/
def unknownKeyReports (reports : List Diagnostic) : List Diagnostic :=
  reports.filter (·.problem.isUnknownKey)

theorem unknownKeyReports_append (reports more : List Diagnostic) :
    unknownKeyReports (reports ++ more) = unknownKeyReports reports ++ unknownKeyReports more :=
  List.filter_append ..

theorem unknownKeyReports_eq_nil {reports : List Diagnostic}
    (h : ∀ r ∈ reports, r.problem.isUnknownKey = false) : unknownKeyReports reports = [] :=
  List.filter_eq_nil_iff.2 fun r hr => by simp [h r hr]

theorem unknownKeyReports_unknownKeys (t : DeclaredTable) (clause : Option Nat)
    (names : List String) :
    unknownKeyReports (t.unknownKeys clause names) = t.unknownKeys clause names := by
  refine List.filter_eq_self.2 fun r hr => ?_
  obtain ⟨name, -, rfl⟩ := List.mem_map.1 hr
  rfl

/-- The primary keys that are found are those that the clauses list. -/
theorem flatMap_listedKeys {α : Type} {g : Nat × List String → List α} (hg : ∀ i, g (i, []) = [])
    (i : Nat) (past clauses : List (List Token)) :
    ((findings i past clauses).filterMap Finding.primaryKey?).flatMap g
      = (clauses.zipIdx i).flatMap fun p => g (p.2, listedKeys p.1) := by
  induction clauses generalizing i past with
  | nil => rfl
  | cons clause clauses ih =>
    have hclause : ((⟨i, clause, outcome past clause⟩ : Finding).primaryKey?.toList).flatMap g
        = g (i, listedKeys clause) := by
      unfold outcome listedKeys
      cases readClause clause with
      | error p => exact (hg i).symm
      | ok k =>
        cases k with
        | primaryKey columns => exact List.append_nil _
        | column c =>
          dsimp only
          split <;> exact (hg i).symm
        | _ => exact (hg i).symm
    rw [List.zipIdx_cons, List.flatMap_cons, ← ih (i + 1) (past ++ [clause]), findings,
      List.filterMap_cons, ← hclause]
    cases Finding.primaryKey? ⟨i, clause, outcome past clause⟩ <;> simp

theorem unknownKeyReports_foundReports (name : String) (body : List Token) :
    unknownKeyReports (foundReports name (bodyFindings body)) = bodyEntries name body := by
  have hclauses :
      unknownKeyReports ((bodyFindings body).filterMap (Finding.report? name)) = [] := by
    refine unknownKeyReports_eq_nil fun r hr => ?_
    obtain ⟨f, hf, hreport⟩ := List.mem_filterMap.1 hr
    exact isUnknownKey_of_isOfClause (isOfClause_of_report? hf hreport).2
  have hkeys : unknownKeyReports (((bodyFindings body).filterMap Finding.primaryKey?).flatMap
        fun key => (foundTable name (bodyFindings body)).unknownKeys (some key.1) key.2)
      = ((bodyFindings body).filterMap Finding.primaryKey?).flatMap fun key =>
        (foundTable name (bodyFindings body)).unknownKeys (some key.1) key.2 := by
    rw [unknownKeyReports, List.filter_flatMap]
    exact List.flatMap_congr fun key _ => unknownKeyReports_unknownKeys ..
  rw [foundReports, unknownKeyReports_append, hclauses, List.nil_append, hkeys, bodyFindings,
    flatMap_listedKeys (fun _ => rfl), ← bodyFindings, bodyEntries]
  refine List.flatMap_congr fun p _ => ?_
  simp only [unknownKeys, unknownEntries, hasColumn_foundTable]
  rfl

theorem unknownKeyReports_extendReports (t : DeclaredTable) (action clause : List Token) :
    unknownKeyReports (t.extendReports action clause)
      = unknownEntries t.name none t.hasColumn clause := by
  unfold extendReports unknownEntries listedKeys
  cases hread : readClause clause with
  | error p =>
    have hproblem := isUnknownKey_of_isOfClause (isOfClause_of_readClause hread)
    exact unknownKeyReports_eq_nil fun r hr => by rw [List.mem_singleton.1 hr]; exact hproblem
  | ok k =>
    cases k with
    | primaryKey columns => exact unknownKeyReports_unknownKeys t none columns
    | column c =>
      dsimp only
      split <;> rfl
    | _ => rfl

theorem unknownKeyReports_actionReports (t : DeclaredTable) (actions : List (List Token)) :
    unknownKeyReports (t.actionReports actions) = additionEntries t actions := by
  induction actions generalizing t with
  | nil => rfl
  | cons action actions ih =>
    rw [actionReports, unknownKeyReports_append, ih, additionEntries, alterReports]
    cases addition? action with
    | none => rfl
    | some clause => exact congrArg (· ++ _) (unknownKeyReports_extendReports t action clause)

/-- Each entry of a statement that names no column is reported once. -/
theorem unknownKeyReports_reports (ts : List DeclaredTable) (s : Statement) :
    unknownKeyReports (s.reports ts) = s.entries ts := by
  cases s with
  | createTable name body closed =>
    rw [Statement.entries]
    by_cases hname : name ∈ ts.map (·.name)
    · rw [Statement.reports, if_pos hname, if_pos hname]
      cases closed <;> rfl
    · rw [if_neg hname, reports_createTable hname, ← unknownKeyReports_foundReports]
      exact filter_newTableReports rfl rfl _ closed
  | nameless found => rfl
  | bodiless name => rfl
  | alterTable name actions =>
    rw [Statement.reports, Statement.entries]
    cases ts.find? fun t => t.name == name with
    | none =>
      refine unknownKeyReports_eq_nil fun r hr => ?_
      obtain ⟨action, -, rfl⟩ := List.mem_map.1 hr
      rfl
    | some t => exact unknownKeyReports_actionReports t actions

/-- Each entry that names no column is reported once, and nothing else is reported as one. -/
theorem unknownKeyReports_reportsAfter (ts : List DeclaredTable) (ss : List Statement) :
    unknownKeyReports (reportsAfter ts ss) = entriesAfter ts ss := by
  induction ss generalizing ts with
  | nil => rfl
  | cons s ss ih =>
    rw [reportsAfter, unknownKeyReports_append, unknownKeyReports_reports, ih, entriesAfter]

/-! ## One entry of a list -/

/-- What a list of names is as the primary key of a clause. Without names it is a clause that is
skipped. -/
def listing (names : List String) : Clause := if names = [] then .skipped else .primaryKey names

section
variable {names : List String} {clause : List Token} (h : readClause clause = .ok (listing names))
include h

theorem listedKeys_listing : listedKeys clause = names := by
  rw [listedKeys, h, listing]
  by_cases hnone : names = [] <;> simp [hnone]

theorem definesColumn_listing (column : String) : definesColumn column clause = false := by
  rw [definesColumn, h, listing]
  by_cases hnone : names = [] <;> simp [hnone]

theorem extended_listing (t : DeclaredTable) : t.extended clause = t.marked names := by
  rw [DeclaredTable.extended, h, listing]
  by_cases hnone : names = [] <;> simp [hnone, marked_nil]

theorem extendReports_listing (t : DeclaredTable) (action : List Token) :
    t.extendReports action clause = t.unknownKeys none names := by
  rw [DeclaredTable.extendReports, h, listing]
  by_cases hnone : names = [] <;> simp [hnone, unknownKeys]

/-- The clause gives nothing but a primary key. -/
theorem finding_listing {β : Type} {g : Finding → Option β}
    (hskip : ∀ i c, g ⟨i, c, .skipped⟩ = none)
    (hkey : ∀ i c columns, g ⟨i, c, .primaryKey columns⟩ = none) (i : Nat)
    (past : List (List Token)) : g ⟨i, clause, outcome past clause⟩ = none := by
  rw [outcome, h, listing]
  by_cases hnone : names = [] <;> simp [hnone, hskip, hkey]

end

/-- Both clauses list a primary key, and in the second one an entry `x` is left out. -/
def LacksEntry (x : String) (clause clause' : List Token) : Prop :=
  ∃ xs ys, readClause clause = .ok (listing (xs ++ x :: ys)) ∧
    readClause clause' = .ok (listing (xs ++ ys))

section
variable {t : DeclaredTable} {x : String}

/-- A name that is not that of a column marks nothing. -/
theorem marked_unknown (hx : t.hasColumn x = false) (xs ys : List String) :
    t.marked (xs ++ x :: ys) = t.marked (xs ++ ys) := by
  refine marked_congr fun name hname => ?_
  have hne : name ≠ x := by
    rintro rfl
    rw [hx] at hname
    cases hname
  simp [hne]

/-- A name that is not that of a column is reported once. -/
theorem oneMore_unknownKeys (hx : t.hasColumn x = false) (clause : Option Nat)
    (xs ys : List String) :
    OneMore ⟨t.name, clause, "", .unknownKeyColumn x⟩ (t.unknownKeys clause (xs ++ x :: ys))
      (t.unknownKeys clause (xs ++ ys)) := by
  refine ⟨t.unknownKeys clause xs, t.unknownKeys clause ys, ?_, ?_⟩
  · simp [unknownKeys, hx]
  · simp [unknownKeys]

variable {clause clause' : List Token}

theorem LacksEntry.altered (h : LacksEntry x clause clause') (hx : t.hasColumn x = false)
    {action action' : List Token} (hadd : addition? action = some clause)
    (hadd' : addition? action' = some clause') : t.altered action = t.altered action' := by
  obtain ⟨xs, ys, hread, hread'⟩ := h
  rw [DeclaredTable.altered, DeclaredTable.altered, hadd, hadd']
  show t.extended clause = t.extended clause'
  rw [extended_listing hread, extended_listing hread', marked_unknown hx]

theorem LacksEntry.extendReports (h : LacksEntry x clause clause') (hx : t.hasColumn x = false)
    (action action' : List Token) :
    OneMore ⟨t.name, none, "", .unknownKeyColumn x⟩ (t.extendReports action clause)
      (t.extendReports action' clause') := by
  obtain ⟨xs, ys, hread, hread'⟩ := h
  rw [extendReports_listing hread, extendReports_listing hread']
  exact oneMore_unknownKeys hx none xs ys

end

/-! ## One clause of a body -/

section
variable {x : String} {clause clause' : List Token}

/-- The columns and the foreign keys are the same, and so are the reports on clauses. -/
theorem LacksEntry.filterMap_findings (h : LacksEntry x clause clause') {β : Type}
    {g : Finding → Option β} (hskip : ∀ i c, g ⟨i, c, .skipped⟩ = none)
    (hkey : ∀ i c columns, g ⟨i, c, .primaryKey columns⟩ = none)
    (pre post : List (List Token)) :
    (findings 0 [] (pre ++ clause :: post)).filterMap g
      = (findings 0 [] (pre ++ clause' :: post)).filterMap g := by
  obtain ⟨xs, ys, hread, hread'⟩ := h
  have hsame : SameColumns (pre ++ [clause]) (pre ++ [clause']) := fun column => by
    simp [definesColumn_listing hread, definesColumn_listing hread']
  rw [findings_append, findings_append, findings, findings, List.nil_append,
    findings_congr _ hsame, List.filterMap_append, List.filterMap_append, List.filterMap_cons,
    List.filterMap_cons, finding_listing hread hskip hkey, finding_listing hread' hskip hkey]

/-- What the primary keys of a body add up to, clause by clause. -/
theorem flatMap_primaryKeys {α : Type} {g : Nat × List String → List α}
    (hg : ∀ i, g (i, []) = []) (pre : List (List Token)) (clause : List Token)
    (post : List (List Token)) :
    ((findings 0 [] (pre ++ clause :: post)).filterMap Finding.primaryKey?).flatMap g
      = (pre.zipIdx.flatMap fun p => g (p.2, listedKeys p.1)) ++
        (g (pre.length, listedKeys clause) ++
          (post.zipIdx (pre.length + 1)).flatMap fun p => g (p.2, listedKeys p.1)) := by
  rw [flatMap_listedKeys hg, List.zipIdx_append, List.flatMap_append, List.zipIdx_cons,
    List.flatMap_cons, Nat.zero_add]

end

/-- The table is the same, and one report is missing. -/
theorem found_lacksEntry {x : String} {body body' clause clause' : List Token}
    {pre post : List (List Token)} (hbody : splitClauses body = pre ++ clause :: post)
    (hbody' : splitClauses body' = pre ++ clause' :: post) (h : LacksEntry x clause clause')
    (hx : ∀ c ∈ splitClauses body, definesColumn x c = false) (name : String) :
    foundTable name (bodyFindings body) = foundTable name (bodyFindings body') ∧
      (bodyFindings body).filterMap Finding.column?
        = (bodyFindings body').filterMap Finding.column? ∧
      OneMore ⟨name, some pre.length, "", .unknownKeyColumn x⟩
        (foundReports name (bodyFindings body)) (foundReports name (bodyFindings body')) := by
  have hcolumn : (foundTable name (bodyFindings body)).hasColumn x = false := by
    rw [hasColumn_foundTable, List.any_eq_false]
    exact fun c hc => by simp [hx c hc]
  have hsame : ∀ {β : Type} {g : Finding → Option β}, (∀ i c, g ⟨i, c, .skipped⟩ = none) →
      (∀ i c columns, g ⟨i, c, .primaryKey columns⟩ = none) →
      (bodyFindings body).filterMap g = (bodyFindings body').filterMap g := by
    intro β g hskip hkey
    rw [bodyFindings, bodyFindings, hbody, hbody']
    exact h.filterMap_findings hskip hkey pre post
  have hcolumns : (bodyFindings body).filterMap Finding.column?
      = (bodyFindings body').filterMap Finding.column? := hsame (fun _ _ => rfl) fun _ _ _ => rfl
  have hkeys : (bodyFindings body).filterMap Finding.key?
      = (bodyFindings body').filterMap Finding.key? := hsame (fun _ _ => rfl) fun _ _ _ => rfl
  have hreports : (bodyFindings body).filterMap (Finding.report? name)
      = (bodyFindings body').filterMap (Finding.report? name) :=
    hsame (fun _ _ => rfl) fun _ _ _ => rfl
  obtain ⟨xs, ys, hread, hread'⟩ := h
  -- The primary keys of both bodies differ in the entry.
  have hprimary : ∀ {α : Type} {g : Nat × List String → List α}, (∀ i, g (i, []) = []) →
      ∃ early late, ((bodyFindings body).filterMap Finding.primaryKey?).flatMap g
          = early ++ (g (pre.length, xs ++ x :: ys) ++ late) ∧
        ((bodyFindings body').filterMap Finding.primaryKey?).flatMap g
          = early ++ (g (pre.length, xs ++ ys) ++ late) := by
    intro α g hg
    rw [bodyFindings, bodyFindings, hbody, hbody', flatMap_primaryKeys hg, flatMap_primaryKeys hg,
      listedKeys_listing hread, listedKeys_listing hread']
    exact ⟨_, _, rfl, rfl⟩
  have htable : foundTable name (bodyFindings body) = foundTable name (bodyFindings body') := by
    obtain ⟨early, late, hnames, hnames'⟩ :=
      @hprimary String (fun key => key.2) fun _ => rfl
    rw [foundTable, hasColumn_marked] at hcolumn
    rw [foundTable, foundTable, ← hcolumns, ← hkeys, hnames, hnames']
    have hmarked := marked_unknown hcolumn (early ++ xs) (ys ++ late)
    simpa using hmarked
  refine ⟨htable, hcolumns, ?_⟩
  obtain ⟨early, late, hunknown, hunknown'⟩ := @hprimary Diagnostic
    (fun key => (foundTable name (bodyFindings body)).unknownKeys (some key.1) key.2) fun _ => rfl
  rw [foundReports, foundReports, ← htable, ← hreports, hunknown, hunknown']
  have hmore := oneMore_unknownKeys hcolumn (some pre.length) xs ys
  exact ((hmore.append_right late).append_left early).append_left _

/-! ## One entry of a script -/

/-- In the second statement an entry `x` of a primary key is left out that is not the name of a
column there: not one of the body, if the key is a clause of it, and not one of the table as it is
when the key is added. `r` is the report on the entry, and `ts` are the tables before the
statement. -/
inductive EntryLeftOut (ts : List DeclaredTable) (x : String) :
    Statement → Statement → Diagnostic → Prop where
  | body {name : String} (hnew : name ∉ ts.map (·.name)) {body body' clause clause' : List Token}
    {pre post : List (List Token)} (hbody : splitClauses body = pre ++ clause :: post)
    (hbody' : splitClauses body' = pre ++ clause' :: post) (h : LacksEntry x clause clause')
    (hx : ∀ c ∈ splitClauses body, definesColumn x c = false) (closed : Bool) :
    EntryLeftOut ts x (.createTable name body closed) (.createTable name body' closed)
      ⟨name, some pre.length, "", .unknownKeyColumn x⟩
  | addition {name : String} {t : DeclaredTable} (ht : ts.find? (fun t => t.name == name) = some t)
    {pre post : List (List Token)} {action action' clause clause' : List Token}
    (hadd : addition? action = some clause) (hadd' : addition? action' = some clause')
    (h : LacksEntry x clause clause') (hx : (pre.foldl altered t).hasColumn x = false) :
    EntryLeftOut ts x (.alterTable name (pre ++ action :: post))
      (.alterTable name (pre ++ action' :: post)) ⟨name, none, "", .unknownKeyColumn x⟩

theorem actionReports_append (t : DeclaredTable) (actions more : List (List Token)) :
    t.actionReports (actions ++ more)
      = t.actionReports actions ++ (actions.foldl altered t).actionReports more := by
  induction actions generalizing t with
  | nil => rfl
  | cons action actions ih =>
    rw [List.cons_append, actionReports, ih, actionReports, List.append_assoc, List.foldl_cons]

namespace EntryLeftOut

variable {ts : List DeclaredTable} {x : String} {s s' : Statement} {r : Diagnostic}

theorem creates (h : EntryLeftOut ts x s s' r) : s.creates = s'.creates := by
  cases h <;> rfl

/-- The statement does the same. -/
theorem effect (h : EntryLeftOut ts x s s' r) (hd : (ts.map (·.name)).Nodup) :
    s.effect ts = s'.effect ts := by
  cases h with
  | body hnew hbody hbody' h hx closed =>
    obtain ⟨htable, hcolumns, -⟩ := found_lacksEntry hbody hbody' h hx _
    rw [effect_createTable hnew, effect_createTable hnew, htable, hcolumns]
  | @addition name t ht pre post action action' clause clause' hadd hadd' h hx =>
    refine List.map_congr_left fun u hu => ?_
    unfold atName
    split
    · rename_i hname
      have htname : t.name = name := by simpa using List.find?_some ht
      have hsame : u = t := List.inj_on_of_nodup_map hd hu (List.mem_of_find?_eq_some ht)
        (hname.trans htname.symm)
      dsimp only
      rw [hsame, List.foldl_append, List.foldl_append, List.foldl_cons, List.foldl_cons,
        h.altered hx hadd hadd']
    · rfl

/-- The statement has one report less. -/
theorem reports (h : EntryLeftOut ts x s s' r) : OneMore r (s.reports ts) (s'.reports ts) := by
  cases h with
  | body hnew hbody hbody' h hx closed =>
    obtain ⟨-, hcolumns, hmore⟩ := found_lacksEntry hbody hbody' h hx _
    rw [reports_createTable hnew, reports_createTable hnew, newTableReports, newTableReports,
      hcolumns]
    exact (hmore.append_right _).append_left _
  | @addition name t ht pre post action action' clause clause' hadd hadd' h hx =>
    have hname : (pre.foldl altered t).name = name := by
      rw [name_foldl_altered]
      simpa using List.find?_some ht
    have hmore := h.extendReports hx action action'
    rw [hname] at hmore
    rw [Statement.reports, Statement.reports, ht]
    dsimp only
    rw [actionReports_append, actionReports_append, actionReports, actionReports,
      h.altered hx hadd hadd', alterReports, alterReports, hadd, hadd']
    exact (hmore.append_right _).append_left _

/-- The script has one report less, and else is the same. -/
theorem script {before : List Statement}
    (h : EntryLeftOut (Declarations.ofStatements before).tables x s s' r) (d : Dialect)
    (after : List Statement) :
    let script := Script.ofStatements d (before ++ s :: after)
    let script' := Script.ofStatements d (before ++ s' :: after)
    script.definitions = script'.definitions ∧ script.dropped = script'.dropped ∧
      OneMore r script.diagnostics script'.diagnostics := by
  have hd := nodup_ofStatements before
  have htables : (Declarations.ofStatements (before ++ s :: after)).tables
      = (Declarations.ofStatements (before ++ s' :: after)).tables := by
    rw [tables_eq_effects, tables_eq_effects, effects_append, effects_append, ← tables_eq_effects]
    show effects (s.effect _) after = effects (s'.effect _) after
    rw [h.effect hd]
  have hmore : OneMore r (Declarations.ofStatements (before ++ s :: after)).diagnostics
      (Declarations.ofStatements (before ++ s' :: after)).diagnostics := by
    rw [Declarations.diagnostics_ofStatements, Declarations.diagnostics_ofStatements,
      reportsAfter_append, reportsAfter_append, reportsAfter, reportsAfter, ← tables_eq_effects,
      h.effect hd]
    exact (h.reports.append_right _).append_left _
  refine ⟨?_, ?_, ?_⟩
  · simp only [Script.ofStatements, htables]
  · simp only [Script.ofStatements, htables]
  · simp only [Script.ofStatements, htables]
    exact hmore.append_right _

end EntryLeftOut

/-! ## Whole scripts -/

/-- The clauses that the table of a text is made of. -/
def clausesOf (d : Dialect) (text : String) (table : String) : List Reading :=
  readingsOf table (readings [] (statements (tokens d.backslashEscapes text.toList)))

/-- A column of a script is marked for the reasons that its clauses give. -/
theorem primaryKey_iff {d : Dialect} {text : String} {script : Script}
    (h : readScript d text = .ok script) {t : TableDefinition} (ht : t ∈ script.definitions)
    {c : Column} (hc : c ∈ t.columns) :
    c.primaryKey = true ↔ MarkedBy (clausesOf d text t.name) c.name := by
  rw [eq_of_readScript h] at ht
  obtain ⟨u, hu, rfl⟩ := List.mem_map.1 ht
  obtain ⟨v, hv, rfl⟩ := List.mem_map.1 hc
  have hdistinct := ((proper_declarations d text).table u hu).distinct
  refine Iff.trans ?_ (((builtFrom_ofStatements _).built u hu).marks_iff v.name)
  constructor
  · exact fun hkey => ⟨v, hv, rfl, hkey⟩
  · rintro ⟨w, hw, hname, hkey⟩
    rwa [List.inj_on_of_nodup_map hdistinct hw hv hname] at hkey

theorem unknownKeyReports_ofStatements (d : Dialect) (ss : List Statement) :
    unknownKeyReports (Script.ofStatements d ss).diagnostics = entriesAfter [] ss := by
  have hnone : unknownKeyReports (attachAll (Declarations.ofStatements ss).tables).diagnostics
      = [] := by
    refine unknownKeyReports_eq_nil fun r hr => ?_
    have hproblem := isMismatch_of_mem_attachAll _ hr
    cases hp : r.problem <;> first | rfl | simp [hp, Problem.isMismatch] at hproblem
  rw [Script.ofStatements, unknownKeyReports_append, hnone, List.append_nil,
    Declarations.diagnostics_ofStatements, unknownKeyReports_reportsAfter]

/-- **Marks of the primary key are exact.** In every script a column is marked if its accepted
definition says so, if its body defines it and lists it in a primary key, before or after, or if an
addition lists it that comes after its definition, and for no other reason. Each entry of a primary
key that is not the name of a column there is reported once, and nothing else is reported as one.
If it is left out, this one report is missing, and all tables are the same. -/
theorem marked_of_readScript {d : Dialect} {text : String} {script : Script}
    (h : readScript d text = .ok script) :
    (∀ t ∈ script.definitions, ∀ c ∈ t.columns,
      (c.primaryKey = true ↔ MarkedBy (clausesOf d text t.name) c.name)) ∧
    unknownKeyReports script.diagnostics
      = entriesAfter [] (statements (tokens d.backslashEscapes text.toList)) ∧
    ∀ (text' : String) (before after : List Statement) (s s' : Statement) (x : String)
      (r : Diagnostic),
      statements (tokens d.backslashEscapes text.toList) = before ++ s :: after →
      statements (tokens d.backslashEscapes text'.toList) = before ++ s' :: after →
      EntryLeftOut (Declarations.ofStatements before).tables x s s' r →
      ∃ script', readScript d text' = .ok script' ∧ script.definitions = script'.definitions ∧
        script.dropped = script'.dropped ∧ OneMore r script.diagnostics script'.diagnostics := by
  have hscript := eq_of_readScript h
  refine ⟨fun t ht c hc => primaryKey_iff h ht hc, ?_, ?_⟩
  · rw [hscript]
    exact unknownKeyReports_ofStatements d _
  · intro text' before after s s' x r hss hss' hleft
    obtain ⟨hdefs, hdropped, hmore⟩ := hleft.script d after
    have hcount := countP_of_readScript h
    rw [hss, List.countP_append, List.countP_cons, hleft.creates, ← List.countP_cons,
      ← List.countP_append] at hcount
    rw [hss] at hscript
    rw [hscript]
    exact ⟨_, readScript_of_countP hss' hcount, hdefs, hdropped, hmore⟩

/-! ## Names that become those of columns later -/

/-- A column that is marked by its definition, two by a clause of the body, before and after it, one
by an addition; and a name that becomes that of a column only later. -/
def marksText : String :=
  "CREATE TABLE t (a INT PRIMARY KEY, b INT, PRIMARY KEY (b, late, c), c INT, d INT, e INT);
  ALTER TABLE t ADD PRIMARY KEY (d, other); ALTER TABLE t ADD COLUMN late INT"

/-- The same script without the name. -/
def shorterText : String :=
  "CREATE TABLE t (a INT PRIMARY KEY, b INT, PRIMARY KEY (b, c), c INT, d INT, e INT);
  ALTER TABLE t ADD PRIMARY KEY (d, other); ALTER TABLE t ADD COLUMN late INT"

/-- The primary key of both texts, with these tokens between its parentheses. -/
def marksKey (names : List Token) : List Token :=
  [.keyword .primary, .keyword .key, .leftParen] ++ names ++ [.rightParen]

/-- The body of both texts. -/
def marksBody (names : List Token) : List Token :=
  [.word "a", .word "INT", .keyword .primary, .keyword .key, .comma, .word "b", .word "INT",
    .comma] ++ marksKey names ++ [.comma, .word "c", .word "INT", .comma, .word "d", .word "INT",
    .comma, .word "e", .word "INT"]

/-- The statements of both texts after the first one. -/
def marksAlters : List Statement :=
  [.alterTable "t" [[.keyword .add, .keyword .primary, .keyword .key, .leftParen, .word "d",
      .comma, .word "other", .rightParen]],
    .alterTable "t" [[.keyword .add, .word "COLUMN", .word "late", .word "INT"]]]

/-- Without the name the marks are the same. -/
theorem marked_of_marksText :
    ∃ script script', readScript .standard marksText = .ok script ∧
      readScript .standard shorterText = .ok script' ∧ script.definitions = script'.definitions ∧
      (∀ t ∈ script.definitions, ∀ c ∈ t.columns, (c.primaryKey = true ↔
        MarkedBy (clausesOf .standard marksText t.name) c.name)) ∧
      script.definitions.map (fun t => (t.name, t.columns.map fun c => (c.name, c.primaryKey)))
        = [("t", [("a", true), ("b", true), ("c", true), ("d", true), ("e", false),
          ("late", false)])] ∧
      unknownKeyReports script.diagnostics
        = [⟨"t", some 2, "", .unknownKeyColumn "late"⟩,
          ⟨"t", none, "", .unknownKeyColumn "other"⟩] ∧
      OneMore ⟨"t", some 2, "", .unknownKeyColumn "late"⟩ script.diagnostics
        script'.diagnostics := by
  have hstatements : statements (tokens Dialect.standard.backslashEscapes marksText.toList)
      = [] ++ .createTable "t" (marksBody [.word "b", .comma, .word "late", .comma, .word "c"]) true
        :: marksAlters := by
    rw [marksText, String.toList_ofList]
    decide +kernel
  have hstatements' : statements (tokens Dialect.standard.backslashEscapes shorterText.toList)
      = [] ++ .createTable "t" (marksBody [.word "b", .comma, .word "c"]) true :: marksAlters := by
    rw [shorterText, String.toList_ofList]
    decide +kernel
  have houtcome : (readScript .standard marksText).map (fun script => script.definitions.map
      fun t => (t.name, t.columns.map fun c => (c.name, c.primaryKey)))
      = .ok [("t", [("a", true), ("b", true), ("c", true), ("d", true), ("e", false),
          ("late", false)])] := by
    rw [readScript, hstatements]
    decide +kernel
  obtain ⟨script, hread, hmarks⟩ := exists_script_map houtcome
  obtain ⟨hkeys, hentries, hless⟩ := marked_of_readScript hread
  have hsplit : ∀ names ∈ [[.word "b", .comma, .word "late", .comma, .word "c"],
      [.word "b", .comma, .word "c"]], splitClauses (marksBody names)
        = [[.word "a", .word "INT", .keyword .primary, .keyword .key], [.word "b", .word "INT"]]
          ++ marksKey names ::
            [[.word "c", .word "INT"], [.word "d", .word "INT"], [.word "e", .word "INT"]] := by
    decide +kernel
  have hlacks : LacksEntry "late" (marksKey [.word "b", .comma, .word "late", .comma, .word "c"])
      (marksKey [.word "b", .comma, .word "c"]) :=
    ⟨["b"], ["c"], by decide +kernel, by decide +kernel⟩
  have hleft : EntryLeftOut (Declarations.ofStatements []).tables "late"
      (.createTable "t" (marksBody [.word "b", .comma, .word "late", .comma, .word "c"]) true)
      (.createTable "t" (marksBody [.word "b", .comma, .word "c"]) true)
      ⟨"t", some 2, "", .unknownKeyColumn "late"⟩ :=
    .body (by decide) (hsplit _ (by simp)) (hsplit _ (by simp)) hlacks (by decide +kernel) true
  obtain ⟨script', hread', hsame, -, hmore⟩ :=
    hless shorterText [] marksAlters _ _ "late" _ hstatements hstatements' hleft
  refine ⟨script, script', hread, hread', hsame, hkeys, hmarks, ?_, hmore⟩
  rw [hentries, hstatements]
  decide +kernel

/-- A body that lists a column which only an addition defines. -/
def lateText : String :=
  "CREATE TABLE t (a INT, PRIMARY KEY (b)); ALTER TABLE t ADD COLUMN b INT;"

/-- That a clause of the body lists a column is not enough: an addition may define it. -/
theorem not_marked_lateText :
    ∃ script, readScript .standard lateText = .ok script ∧
      ¬ ∀ t ∈ script.definitions, ∀ c ∈ t.columns, (c.primaryKey = true ↔
        OwnKey (clausesOf .standard lateText t.name) c.name ∨
          (∃ r ∈ clausesOf .standard lateText t.name,
            r.place.isSome = true ∧ c.name ∈ listedKeys r.clause) ∨
          LaterKey (clausesOf .standard lateText t.name) c.name) := by
  have hstatements : statements (tokens Dialect.standard.backslashEscapes lateText.toList)
      = [.createTable "t" [.word "a", .word "INT", .comma, .keyword .primary, .keyword .key,
          .leftParen, .word "b", .rightParen] true,
        .alterTable "t" [[.keyword .add, .word "COLUMN", .word "b", .word "INT"]]] := by
    rw [lateText, String.toList_ofList]
    decide +kernel
  have houtcome : (readScript .standard lateText).map (fun script => script.definitions)
      = .ok [⟨"t", [⟨"a", "INT", false, false, none⟩, ⟨"b", "INT", false, false, none⟩]⟩] := by
    rw [readScript, hstatements]
    decide +kernel
  obtain ⟨script, hread, hdefs⟩ := exists_script_map houtcome
  refine ⟨script, hread, fun hmarked => ?_⟩
  have hlisted : ∃ r ∈ clausesOf .standard lateText "t",
      r.place.isSome = true ∧ "b" ∈ listedKeys r.clause := by
    rw [clausesOf, hstatements]
    decide +kernel
  rw [hdefs] at hmarked
  have hkey := (hmarked _ (List.mem_cons_self ..) ⟨"b", "INT", false, false, none⟩
    (by simp)).2 (Or.inr (Or.inl hlisted))
  cases hkey

end SchemaGraph.Sql
