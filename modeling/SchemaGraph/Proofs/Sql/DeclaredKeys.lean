import SchemaGraph.Proofs.Sql.Readings

/-!
# The foreign keys that a script declares

The foreign keys of a table are those of its readings in order (`keys_of_built`): one for each
clause about a foreign key, and one for each column that has a reference, unless the column is
defined already. A clause whose two lists of columns differ in length declares no key, and is
reported once (`mismatches_ofStatements`).
-/

namespace SchemaGraph.Sql

open DeclaredTable

/-! ## Keys -/

/-- The foreign key that a clause declares, when `past` are the clauses of the table before it. A
second definition of a column is rejected, and its reference with it. -/
def Reading.key? (past : List Reading) (r : Reading) : Option KeyDeclaration :=
  match readClause r.clause with
  | .ok (.column c) =>
    if past.any fun p => definesColumn c.name p.clause then none
    else c.reference.map fun target => ⟨[c.name], target, r.place⟩
  | .ok (.foreignKey columns target) => some ⟨columns, target, r.place⟩
  | _ => none

/-- The foreign keys that clauses declare, when `past` are the clauses of the table before them. -/
def declaredKeys (past : List Reading) : List Reading → List KeyDeclaration
  | [] => []
  | r :: rs => (r.key? past).toList ++ declaredKeys (past ++ [r]) rs

theorem declaredKeys_append (past rs more : List Reading) :
    declaredKeys past (rs ++ more) = declaredKeys past rs ++ declaredKeys (past ++ rs) more := by
  induction rs generalizing past with
  | nil => simp [declaredKeys]
  | cons r rs ih => simp [declaredKeys, ih]

theorem hasColumn_addColumn (t : DeclaredTable) (i : Option Nat) (c : ColumnClause)
    (column : String) :
    (t.addColumn i c).hasColumn column = (t.hasColumn column || c.name == column) := by
  simp [addColumn, DeclaredTable.hasColumn]

/-- The table has the foreign keys and the columns that the clauses declare. -/
structure Follows (rs : List Reading) (t : DeclaredTable) : Prop where
  keys : t.keys = declaredKeys [] rs
  columns : ∀ column, t.hasColumn column = rs.any fun r => definesColumn column r.clause

namespace Follows

variable {rs : List Reading} {t u : DeclaredTable}

/-- One more clause is followed, if its key and its column are added. -/
theorem concat (h : Follows rs t) {r : Reading} (hkeys : u.keys = t.keys ++ (r.key? rs).toList)
    (hcolumns : ∀ column, u.hasColumn column
      = (t.hasColumn column || definesColumn column r.clause)) : Follows (rs ++ [r]) u := by
  refine ⟨?_, fun column => ?_⟩
  · rw [declaredKeys_append, hkeys, h.keys]
    simp [declaredKeys]
  · rw [hcolumns, h.columns, List.any_append]
    simp

theorem marked (h : Follows rs t) (names : List String) : Follows rs (t.marked names) :=
  ⟨h.keys, fun column => by rw [hasColumn_marked]; exact h.columns column⟩

/-- Whether a column is defined already is seen from the table. -/
theorem key?_eq (h : Follows rs t) (r : Reading) :
    r.key? rs = match readClause r.clause with
      | .ok (.column c) =>
        if t.hasColumn c.name then none
        else c.reference.map fun target => ⟨[c.name], target, r.place⟩
      | .ok (.foreignKey columns target) => some ⟨columns, target, r.place⟩
      | _ => none := by
  unfold Reading.key?
  split <;> simp [h.columns, *]

theorem extended (h : Follows rs t) {r : Reading} (hplace : r.place = none) :
    Follows (rs ++ [r]) (t.extended r.clause) := by
  have hkey := h.key?_eq r
  rw [hplace] at hkey
  refine h.concat ?_ fun column => ?_
  · rw [hkey]
    unfold DeclaredTable.extended
    cases hread : readClause r.clause with
    | error p => simp
    | ok k =>
      cases k with
      | column c => by_cases hc : t.hasColumn c.name = true <;> simp [hc, addColumn]
      | _ => simp [addKey, DeclaredTable.marked]
  · unfold DeclaredTable.extended definesColumn
    cases hread : readClause r.clause with
    | error p => simp
    | ok k =>
      cases k with
      | primaryKey columns => simp [hasColumn_marked]
      | foreignKey columns target => simp [addKey, DeclaredTable.hasColumn]
      | skipped => simp
      | column c =>
        by_cases hc : t.hasColumn c.name = true
        · by_cases hname : c.name = column
          · simp [← hname, hc]
          · simp [hc, hname]
        · simp [hc, hasColumn_addColumn]

theorem body_add {b : Body} (h : Follows rs b.table) (r : Reading) {i : Nat}
    (hplace : r.place = some i) : Follows (rs ++ [r]) (b.add i r.clause).table := by
  have hkey := h.key?_eq r
  rw [hplace] at hkey
  refine h.concat ?_ (Body.hasColumn_add b i r.clause)
  rw [hkey]
  unfold Body.add
  cases hread : readClause r.clause with
  | error p => simp [Body.report]
  | ok k =>
    cases k with
    | column c =>
      by_cases hc : b.table.hasColumn c.name = true <;> simp [hc, addColumn, Body.report]
    | _ => simp [addKey]

theorem body_addAll {b : Body} (h : Follows rs b.table) (name : String) (kept : Bool) (i : Nat)
    (clauses : List (List Token)) :
    Follows (rs ++ clauseReadings name kept i clauses) (b.addAll i clauses).table := by
  induction clauses generalizing rs b i with
  | nil => simpa [clauseReadings, Body.addAll] using h
  | cons clause clauses ih =>
    have hstep := ih (h.body_add ⟨name, some i, clause, clause, kept⟩ rfl) (i + 1)
    rwa [List.append_assoc] at hstep

theorem foldl_extended (h : Follows rs t) {more : List Reading}
    (hplace : ∀ r ∈ more, r.place = none) :
    Follows (rs ++ more) ((more.map (·.clause)).foldl DeclaredTable.extended t) := by
  induction more generalizing rs t with
  | nil => simpa using h
  | cons r more ih =>
    rw [List.forall_mem_cons] at hplace
    have hstep := ih (h.extended hplace.1) hplace.2
    rwa [List.append_assoc] at hstep

end Follows

theorem follows_declareBody (name : String) (body : List Token) :
    Follows (bodyReadings name body) (declareBody name body).1 := by
  have hempty : Follows [] (⟨⟨name, [], []⟩, [], []⟩ : Body).table := ⟨rfl, fun _ => rfl⟩
  rw [declareBody_eq]
  exact (hempty.body_addAll name (makesTable body) 0 (splitClauses body)).marked _

/-- A table follows the readings that it is built from. -/
theorem Built.follows {rs : List Reading} {t : DeclaredTable} (h : Built rs t) : Follows rs t := by
  obtain ⟨body, added, -, hreadings, hadded, htable⟩ := h
  rw [hreadings, htable]
  -- The name of the table is that of its body.
  have hname : ((added.map (·.clause)).foldl DeclaredTable.extended
      (declareBody t.name body).1).name = t.name := by rw [← htable]
  rw [hname]
  exact (follows_declareBody t.name body).foldl_extended hadded

/-! ## Reports -/

/-- The problem is that two lists of columns differ in length. -/
def Problem.isMismatch : Problem → Bool
  | columnCountMismatch _ _ => true
  | _ => false

/-- The reports on lists of columns that differ in length. -/
def mismatches (reports : List Diagnostic) : List Diagnostic :=
  reports.filter (·.problem.isMismatch)

/-- The report on a clause whose lists of columns differ in length. -/
def Reading.mismatch? (r : Reading) : Option Diagnostic :=
  match readClause r.clause with
  | .error (.columnCountMismatch m n) =>
    some ⟨r.table, r.place, clauseText r.quoted, .columnCountMismatch m n⟩
  | _ => none

theorem mismatches_append (reports more : List Diagnostic) :
    mismatches (reports ++ more) = mismatches reports ++ mismatches more := List.filter_append ..

theorem mismatches_concat (reports : List Diagnostic) {r : Diagnostic}
    (h : r.problem.isMismatch = false) : mismatches (reports ++ [r]) = mismatches reports := by
  simp [mismatches, h]

/-- A problem of a clause is reported as a mismatch, if it is one. -/
theorem mismatches_error {r : Reading} {p : Problem} (h : readClause r.clause = .error p) :
    mismatches [⟨r.table, r.place, clauseText r.quoted, p⟩] = r.mismatch?.toList := by
  unfold Reading.mismatch?
  rw [h]
  cases p <;> rfl

theorem mismatch?_ok {r : Reading} {k : Clause} (h : readClause r.clause = .ok k) :
    r.mismatch? = none := by
  unfold Reading.mismatch?
  rw [h]

theorem mismatches_applyPrimaryKey (clause : Option Nat) (t : DeclaredTable)
    (names : List String) : mismatches (applyPrimaryKey clause t names).2 = [] := by
  induction names generalizing t with
  | nil => rfl
  | cons name names ih =>
    rw [applyPrimaryKey]
    split
    · exact ih _
    · exact ih _

theorem mismatches_applyPrimaryKeys (t : DeclaredTable) (keys : List (Nat × List String)) :
    mismatches (applyPrimaryKeys t keys).2 = [] := by
  induction keys generalizing t with
  | nil => rfl
  | cons key keys ih =>
    have happend := mismatches_append (applyPrimaryKey (some key.1) t key.2).2
      (applyPrimaryKeys (applyPrimaryKey (some key.1) t key.2).1 keys).2
    rw [mismatches_applyPrimaryKey, ih] at happend
    exact happend

/-- A clause of a body is reported once, if its lists differ. -/
theorem mismatches_body_add (b : Body) {r : Reading} {i : Nat} (htable : r.table = b.table.name)
    (hplace : r.place = some i) (hquoted : r.quoted = r.clause) :
    mismatches (b.add i r.clause).diagnostics = mismatches b.diagnostics ++ r.mismatch?.toList := by
  unfold Body.add
  cases hread : readClause r.clause with
  | error p =>
    rw [← mismatches_error hread, htable, hplace, hquoted, ← mismatches_append]
    rfl
  | ok k =>
    rw [mismatch?_ok hread, Option.toList_none, List.append_nil]
    cases k with
    | column c =>
      dsimp only
      split
      · exact mismatches_concat _ rfl
      · rfl
    | _ => rfl

theorem Body.name_add (b : Body) (i : Nat) (clause : List Token) :
    (b.add i clause).table.name = b.table.name := by
  unfold Body.add
  split
  · rfl
  · rfl
  · rfl
  · rfl
  · split <;> rfl

theorem mismatches_body_addAll (b : Body) (kept : Bool) (i : Nat) (clauses : List (List Token)) :
    mismatches (b.addAll i clauses).diagnostics
      = mismatches b.diagnostics
        ++ (clauseReadings b.table.name kept i clauses).filterMap Reading.mismatch? := by
  induction clauses generalizing b i with
  | nil => simp [clauseReadings, Body.addAll]
  | cons clause clauses ih =>
    have hclause := @mismatches_body_add b ⟨b.table.name, some i, clause, clause, kept⟩ i
      rfl rfl rfl
    have hreadings : clauseReadings b.table.name kept i (clause :: clauses)
        = ⟨b.table.name, some i, clause, clause, kept⟩
          :: clauseReadings b.table.name kept (i + 1) clauses := rfl
    rw [Body.addAll, ih, Body.name_add, hclause, hreadings, List.filterMap_cons, List.append_assoc]
    cases Reading.mismatch? ⟨b.table.name, some i, clause, clause, kept⟩ <;> rfl

theorem mismatches_declareBody (name : String) (body : List Token) :
    mismatches (declareBody name body).2
      = (bodyReadings name body).filterMap Reading.mismatch? := by
  have hclauses := mismatches_body_addAll ⟨⟨name, [], []⟩, [], []⟩ (makesTable body) 0
    (splitClauses body)
  unfold declareBody
  dsimp only
  rw [mismatches_append, mismatches_applyPrimaryKeys, List.append_nil, hclauses]
  rfl

namespace Declarations

variable {d : Declarations}

theorem table?_eq_none_iff {name : String} :
    d.table? name = none ↔ name ∉ d.tables.map (·.name) := by
  refine ⟨not_mem_of_table?, fun h => ?_⟩
  rw [table?, List.find?_eq_none]
  intro t ht hname
  exact h (List.mem_map.2 ⟨t, ht, eq_of_beq hname⟩)

theorem mismatches_create (d : Declarations) (name : String) (body : List Token) (closed : Bool) :
    mismatches (d.create name body closed).diagnostics
      = mismatches d.diagnostics
        ++ ((Statement.createTable name body closed).readings (d.tables.map (·.name))).filterMap
          Reading.mismatch? := by
  unfold create
  extract_lets d'
  have htable : d'.table? name = d.table? name := by
    unfold d'
    split <;> rfl
  have hclosed : mismatches d'.diagnostics = mismatches d.diagnostics := by
    unfold d'
    split
    · rfl
    · exact mismatches_concat _ rfl
  rw [htable, Statement.readings]
  cases hfind : d.table? name with
  | some t =>
    have hname : t.name = name := by simpa using List.find?_some hfind
    rw [if_pos (List.mem_map.2 ⟨t, mem_of_table? hfind, hname⟩), List.filterMap_nil,
      List.append_nil, ← hclosed]
    exact mismatches_concat _ rfl
  | none =>
    rw [if_neg (table?_eq_none_iff.1 hfind), ← mismatches_declareBody, ← hclosed,
      ← mismatches_append]
    dsimp only
    split
    · exact mismatches_concat _ rfl
    · rfl

theorem mismatches_extend (d : Declarations) (t : DeclaredTable) (action clause : List Token) :
    mismatches (d.extend t action clause).diagnostics
      = mismatches d.diagnostics
        ++ (Reading.mismatch? ⟨t.name, none, action, clause, true⟩).toList := by
  unfold extend
  cases hread : readClause clause with
  | error p =>
    rw [← @mismatches_error ⟨t.name, none, action, clause, true⟩ p hread, ← mismatches_append]
    rfl
  | ok k =>
    rw [@mismatch?_ok ⟨t.name, none, action, clause, true⟩ k hread, Option.toList_none,
      List.append_nil]
    cases k with
    | skipped => rfl
    | primaryKey columns =>
      have happend := mismatches_append d.diagnostics (applyPrimaryKey none t columns).2
      rw [mismatches_applyPrimaryKey, List.append_nil] at happend
      exact happend
    | foreignKey columns target => rfl
    | column c =>
      dsimp only
      split
      · exact mismatches_concat _ rfl
      · rfl

theorem mismatches_alter (d : Declarations) (name : String) (action : List Token) :
    mismatches (d.alter name action).diagnostics
      = mismatches d.diagnostics
        ++ (if name ∈ d.tables.map (·.name) then additions name [action] else []).filterMap
          Reading.mismatch? := by
  unfold alter additions
  split
  · rename_i rest
    cases hfind : d.table? name with
    | none =>
      rw [if_neg (table?_eq_none_iff.1 hfind), List.filterMap_nil, List.append_nil]
      exact mismatches_concat _ rfl
    | some t =>
      have hname : t.name = name := by simpa using List.find?_some hfind
      rw [if_pos (List.mem_map.2 ⟨t, mem_of_table? hfind, hname⟩), ← hname]
      refine (mismatches_extend d t _ _).trans (congrArg (mismatches d.diagnostics ++ ·) ?_)
      simp only [addition?, Option.map_some, List.filterMap_cons, List.filterMap_nil]
      cases Reading.mismatch? ⟨t.name, none, .keyword .add :: rest, addedClause rest, true⟩ <;> rfl
  · rename_i hadd
    simp [addition?_eq_none hadd]

theorem names_alter (hd : (d.tables.map (·.name)).Nodup) (name : String) (action : List Token) :
    (d.alter name action).tables.map (·.name) = d.tables.map (·.name) := by
  rw [tables_alter hd, names_map_atName _ fun t => name_altered t action]

theorem mismatches_carryOut (hd : (d.tables.map (·.name)).Nodup) (s : Statement) :
    mismatches (d.carryOut s).diagnostics
      = mismatches d.diagnostics
        ++ (s.readings (d.tables.map (·.name))).filterMap Reading.mismatch? := by
  cases s with
  | createTable name body closed => exact mismatches_create d name body closed
  | nameless found => exact (mismatches_concat d.diagnostics rfl).trans (List.append_nil _).symm
  | bodiless name => exact (mismatches_concat d.diagnostics rfl).trans (List.append_nil _).symm
  | alterTable name actions =>
    rw [carryOut, Statement.readings]
    induction actions generalizing d with
    | nil => simp [additions]
    | cons action actions ih =>
      have hnames := names_alter hd name action
      rw [List.foldl_cons, ih (hnames ▸ hd), mismatches_alter, hnames, List.append_assoc,
        ← List.filterMap_append]
      congr 2
      split
      · simp only [additions, List.filterMap_cons, List.filterMap_nil]
        cases addition? action <;> rfl
      · rfl

/-- The reports on mismatches are those on the clauses that are read, one on each of them. -/
theorem mismatches_ofStatements (ss : List Statement) :
    mismatches (ofStatements ss).diagnostics
      = (readings [] ss).filterMap Reading.mismatch? := by
  have hrun : ∀ d : Declarations, (d.tables.map (·.name)).Nodup →
      mismatches (ss.foldl carryOut d).diagnostics
        = mismatches d.diagnostics
          ++ (readings (d.tables.map (·.name)) ss).filterMap Reading.mismatch? := by
    induction ss with
    | nil => intro d _; simp [readings]
    | cons s ss ih =>
      intro d hd
      have htables := tables_carryOut hd s
      have hnames : (d.carryOut s).tables.map (·.name)
          = s.namesAfter (d.tables.map (·.name)) := by
        rw [htables, names_effect]
      rw [List.foldl_cons, ih _ (htables ▸ nodup_effect s hd), mismatches_carryOut hd, hnames,
        readings, List.filterMap_append, List.append_assoc]
  exact hrun empty List.nodup_nil

end Declarations

end SchemaGraph.Sql
