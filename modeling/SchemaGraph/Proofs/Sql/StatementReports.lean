import SchemaGraph.Proofs.Sql.Readings

/-!
# What statements report

What a statement reports depends on the tables that are declared before it, and on nothing that was
reported. So the reports of a script are those of its statements, one after the other
(`Declarations.diagnostics_ofStatements`). Reports are as separate from the tables as this: a
statement adds its reports to those before it, and has its effect on the tables.
-/

namespace SchemaGraph.Sql

/-! ## One table -/

namespace DeclaredTable

/-- The reports on the names in a primary key that are not those of columns. -/
def unknownKeys (t : DeclaredTable) (clause : Option Nat) (names : List String) :
    List Diagnostic :=
  (names.filter fun name => !t.hasColumn name).map fun name =>
    ⟨t.name, clause, "", .unknownKeyColumn name⟩

/-- The reports on what a clause adds to a table, of which they quote `action`. -/
def extendReports (t : DeclaredTable) (action clause : List Token) : List Diagnostic :=
  match readClause clause with
  | .error p => [⟨t.name, none, clauseText action, p⟩]
  | .ok (.primaryKey columns) => t.unknownKeys none columns
  | .ok (.column c) =>
    if t.hasColumn c.name then [⟨t.name, none, clauseText action, .duplicateColumn c.name⟩] else []
  | _ => []

/-- The reports on an action of an `ALTER TABLE`. -/
def alterReports (t : DeclaredTable) (action : List Token) : List Diagnostic :=
  ((addition? action).map (t.extendReports action)).getD []

/-- The reports on actions that are carried out one after the other. -/
def actionReports (t : DeclaredTable) : List (List Token) → List Diagnostic
  | [] => []
  | action :: actions => t.alterReports action ++ (t.altered action).actionReports actions

theorem unknownKeys_marked (t : DeclaredTable) (marks : List String) (clause : Option Nat)
    (names : List String) :
    (t.marked marks).unknownKeys clause names = t.unknownKeys clause names := by
  rw [unknownKeys, hasColumn_marked]
  rfl

end DeclaredTable

open DeclaredTable

/-- A primary key reports each of its names that is not that of a column. -/
theorem reports_applyPrimaryKey (clause : Option Nat) (t : DeclaredTable) (names : List String) :
    (applyPrimaryKey clause t names).2 = t.unknownKeys clause names := by
  induction names generalizing t with
  | nil => rfl
  | cons name names ih =>
    rw [applyPrimaryKey]
    split
    · rename_i hname
      have hmark : t.markPrimaryKey name = t.marked [name] := by simp [markPrimaryKey, marked]
      rw [ih, hmark, unknownKeys_marked, unknownKeys, unknownKeys, List.filter_cons_of_neg]
      simp [hname]
    · rename_i hname
      rw [unknownKeys, List.filter_cons_of_pos, List.map_cons, ← unknownKeys, ← ih]
      simpa using hname

/-- The primary keys of a body report one after the other. -/
theorem reports_applyPrimaryKeys (t : DeclaredTable) (keys : List (Nat × List String)) :
    (applyPrimaryKeys t keys).2 = keys.flatMap fun key => t.unknownKeys (some key.1) key.2 := by
  induction keys generalizing t with
  | nil => rfl
  | cons key keys ih =>
    have hkeys := ih (applyPrimaryKey (some key.1) t key.2).1
    simp only [applyPrimaryKey_eq, unknownKeys_marked] at hkeys
    rw [List.flatMap_cons, ← hkeys, ← reports_applyPrimaryKey, ← applyPrimaryKey_eq (some key.1)]
    rfl

/-! ## One report more -/

/-- The first reports are the second ones and one more. -/
def OneMore (r : Diagnostic) (reports reports' : List Diagnostic) : Prop :=
  ∃ early late, reports = early ++ r :: late ∧ reports' = early ++ late

namespace OneMore

variable {r : Diagnostic} {reports reports' : List Diagnostic}

theorem append_left (h : OneMore r reports reports') (before : List Diagnostic) :
    OneMore r (before ++ reports) (before ++ reports') := by
  obtain ⟨early, late, rfl, rfl⟩ := h
  exact ⟨before ++ early, late, (List.append_assoc ..).symm, (List.append_assoc ..).symm⟩

theorem append_right (h : OneMore r reports reports') (after : List Diagnostic) :
    OneMore r (reports ++ after) (reports' ++ after) := by
  obtain ⟨early, late, rfl, rfl⟩ := h
  exact ⟨early, late ++ after, by simp, by simp⟩

end OneMore

/-! ## Statements -/

/-- The reports on additions to a table that is not there. -/
def unknownTableReports (name : String) (actions : List (List Token)) : List Diagnostic :=
  (actions.filter fun action => (addition? action).isSome).map fun action =>
    ⟨name, none, clauseText action, .unknownTable⟩

/-- What a statement reports, when the tables `ts` are declared before it. -/
def Statement.reports (ts : List DeclaredTable) : Statement → List Diagnostic
  | createTable name body closed =>
    (if closed then [] else [⟨name, none, "", .unterminatedBody⟩]) ++
      if name ∈ ts.map (·.name) then [⟨name, none, "", .duplicateTable⟩]
      else createReports name body
  | nameless found => [⟨"", none, found, .missingTableName⟩]
  | bodiless name => [⟨name, none, "", .missingBody⟩]
  | alterTable name actions =>
    match ts.find? fun t => t.name == name with
    | none => unknownTableReports name actions
    | some t => t.actionReports actions

/-- The tables after statements, when the tables `ts` are declared before. -/
def effects (ts : List DeclaredTable) (ss : List Statement) : List DeclaredTable :=
  ss.foldl (fun ts s => s.effect ts) ts

/-- What statements report, when the tables `ts` are declared before. -/
def reportsAfter (ts : List DeclaredTable) : List Statement → List Diagnostic
  | [] => []
  | s :: ss => s.reports ts ++ reportsAfter (s.effect ts) ss

theorem effects_append (ts : List DeclaredTable) (ss us : List Statement) :
    effects ts (ss ++ us) = effects (effects ts ss) us := List.foldl_append ..

theorem reportsAfter_append (ts : List DeclaredTable) (ss us : List Statement) :
    reportsAfter ts (ss ++ us) = reportsAfter ts ss ++ reportsAfter (effects ts ss) us := by
  induction ss generalizing ts with
  | nil => rfl
  | cons s ss ih => rw [List.cons_append, reportsAfter, ih, reportsAfter, List.append_assoc]; rfl

theorem nodup_effects {ts : List DeclaredTable} (hd : (ts.map (·.name)).Nodup)
    (ss : List Statement) : ((effects ts ss).map (·.name)).Nodup := by
  induction ss generalizing ts with
  | nil => exact hd
  | cons s ss ih => exact ih (Declarations.nodup_effect s hd)

theorem tables_eq_effects (ss : List Statement) :
    (Declarations.ofStatements ss).tables = effects [] ss := Declarations.tables_ofStatements ss

theorem nodup_ofStatements (ss : List Statement) :
    ((Declarations.ofStatements ss).tables.map (·.name)).Nodup := by
  rw [tables_eq_effects]
  exact @nodup_effects [] List.nodup_nil ss

namespace Declarations

variable {d : Declarations}

theorem diagnostics_create (d : Declarations) (name : String) (body : List Token)
    (closed : Bool) :
    (d.create name body closed).diagnostics
      = d.diagnostics ++ (Statement.createTable name body closed).reports d.tables := by
  rw [Statement.reports]
  unfold create
  extract_lets d'
  have htable : d'.table? name = d.table? name := by
    unfold d'
    split <;> rfl
  have hreport : d'.diagnostics
      = d.diagnostics ++ if closed then [] else [⟨name, none, "", .unterminatedBody⟩] := by
    unfold d'
    split
    · exact (List.append_nil _).symm
    · rfl
  rw [htable]
  cases hfind : d.table? name with
  | some t =>
    have hname : t.name = name := by simpa using List.find?_some hfind
    rw [if_pos (List.mem_map.2 ⟨t, mem_of_table? hfind, hname⟩), ← List.append_assoc, ← hreport]
    rfl
  | none =>
    rw [if_neg (not_mem_of_table? hfind), ← List.append_assoc, ← hreport, createReports]
    dsimp only
    split
    · exact List.append_assoc ..
    · exact congrArg _ (List.append_nil _).symm

theorem diagnostics_extend (d : Declarations) (t : DeclaredTable) (action clause : List Token) :
    (d.extend t action clause).diagnostics = d.diagnostics ++ t.extendReports action clause := by
  unfold extend extendReports
  cases readClause clause with
  | error p => rfl
  | ok k =>
    cases k with
    | skipped => exact (List.append_nil _).symm
    | primaryKey columns => exact congrArg _ (reports_applyPrimaryKey none t columns)
    | foreignKey columns target => exact (List.append_nil _).symm
    | column c =>
      dsimp only
      split
      · rfl
      · exact (List.append_nil _).symm

theorem diagnostics_alter (d : Declarations) (name : String) (action : List Token) :
    (d.alter name action).diagnostics
      = d.diagnostics ++ match d.table? name with
        | none => unknownTableReports name [action]
        | some t => t.alterReports action := by
  unfold alter
  split
  · rename_i rest
    cases hfind : d.table? name with
    | none => rfl
    | some t => exact diagnostics_extend d t _ _
  · rename_i hadd
    have hnone := addition?_eq_none hadd
    cases d.table? name <;> simp [unknownTableReports, alterReports, hnone]

/-- An action goes on with the table of its name, if there is one. -/
theorem table?_alter (hd : (d.tables.map (·.name)).Nodup) (name : String) (action : List Token) :
    (d.alter name action).table? name = (d.table? name).map fun t => t.altered action := by
  rw [table?, table?, tables_alter hd, List.find?_map]
  have hsame : (fun t : DeclaredTable => t.name == name) ∘ atName name (fun t => t.altered action)
      = fun t => t.name == name := by
    funext t
    rw [Function.comp_apply, name_atName fun u => name_altered u action]
  rw [hsame]
  cases hfind : d.tables.find? fun t => t.name == name with
  | none => rfl
  | some t =>
    have hname : t.name = name := by simpa using List.find?_some hfind
    rw [Option.map_some, Option.map_some, atName_of_eq _ hname]

theorem diagnostics_carryOut (hd : (d.tables.map (·.name)).Nodup) (s : Statement) :
    (d.carryOut s).diagnostics = d.diagnostics ++ s.reports d.tables := by
  cases s with
  | createTable name body closed => exact diagnostics_create d name body closed
  | nameless found => rfl
  | bodiless name => rfl
  | alterTable name actions =>
    rw [carryOut, Statement.reports]
    show _ = d.diagnostics ++ match d.table? name with
      | none => unknownTableReports name actions
      | some t => t.actionReports actions
    induction actions generalizing d with
    | nil => cases d.table? name <;> simp [unknownTableReports, actionReports]
    | cons action actions ih =>
      have hd' : ((d.alter name action).tables.map (·.name)).Nodup := by
        rw [tables_alter hd, names_map_atName _ fun t => name_altered t action]
        exact hd
      rw [List.foldl_cons, ih hd', diagnostics_alter, table?_alter hd, List.append_assoc]
      refine congrArg _ ?_
      cases d.table? name with
      | none => simp [unknownTableReports, ← List.map_append, ← List.filter_append]
      | some t => rfl

/-- A script reports what its statements report, one after the other. -/
theorem diagnostics_ofStatements (ss : List Statement) :
    (ofStatements ss).diagnostics = reportsAfter [] ss := by
  have hrun : ∀ d : Declarations, (d.tables.map (·.name)).Nodup →
      (ss.foldl carryOut d).diagnostics = d.diagnostics ++ reportsAfter d.tables ss := by
    induction ss with
    | nil => exact fun d _ => (List.append_nil _).symm
    | cons s ss ih =>
      intro d hd
      have htables := tables_carryOut hd s
      rw [List.foldl_cons, ih _ (htables ▸ nodup_effect s hd), diagnostics_carryOut hd, htables,
        List.append_assoc, reportsAfter]
  exact hrun empty List.nodup_nil

end Declarations

end SchemaGraph.Sql
