import SchemaGraph.Proofs.Sql.CreatedTables

/-!
# What statements do to the declared tables

Apart from reports, a statement either adds one table at the end or changes the one table of its
name. So the tables of a script come about by a function on lists of tables (`Statement.effect`),
which is easier to reason about than the lookups and replacements it stands for
(`Declarations.tables_ofStatements`).
-/

namespace SchemaGraph.Sql

namespace DeclaredTable

/-! ## One table -/

/-- The table with the named columns marked as part of the primary key. -/
def marked (t : DeclaredTable) (names : List String) : DeclaredTable :=
  { t with columns := t.columns.map fun c =>
      if c.name ∈ names then { c with primaryKey := true } else c }

/-- The table with what a clause adds to it. -/
def extended (t : DeclaredTable) (clause : List Token) : DeclaredTable :=
  match readClause clause with
  | .ok (.primaryKey columns) => t.marked columns
  | .ok (.foreignKey columns target) => t.addKey none columns target
  | .ok (.column c) => if t.hasColumn c.name then t else t.addColumn none c
  | _ => t

/-- The table after an action of an `ALTER TABLE`. -/
def altered (t : DeclaredTable) (action : List Token) : DeclaredTable :=
  ((addition? action).map t.extended).getD t

/-- The change `f`, made only to a table of the given name. -/
def atName (name : String) (f : DeclaredTable → DeclaredTable) (t : DeclaredTable) :
    DeclaredTable :=
  if t.name = name then f t else t

variable {t : DeclaredTable}

theorem hasColumn_iff {name : String} :
    t.hasColumn name = true ↔ name ∈ t.columns.map (·.name) := by
  simp [hasColumn]

theorem marked_nil (t : DeclaredTable) : t.marked [] = t := by
  simp [marked]

theorem names_marked (t : DeclaredTable) (names : List String) :
    (t.marked names).columns.map (·.name) = t.columns.map (·.name) := by
  rw [marked, List.map_map]
  refine List.map_congr_left fun c _ => ?_
  rw [Function.comp_apply]
  split <;> rfl

theorem hasColumn_marked (t : DeclaredTable) (names : List String) :
    (t.marked names).hasColumn = t.hasColumn := by
  funext name
  rw [Bool.eq_iff_iff, hasColumn_iff, hasColumn_iff, names_marked]

/-- Columns may be marked one after the other. -/
theorem marked_append (t : DeclaredTable) (names more : List String) :
    t.marked (names ++ more) = (t.marked names).marked more := by
  simp only [marked, List.map_map]
  congr 1
  refine List.map_congr_left fun c _ => ?_
  rw [Function.comp_apply]
  by_cases hn : c.name ∈ names <;> by_cases hm : c.name ∈ more <;> simp [hn, hm]

/-- Only the names of columns count, and each of them once. -/
theorem marked_congr {names names' : List String}
    (h : ∀ name, t.hasColumn name = true → (name ∈ names ↔ name ∈ names')) :
    t.marked names = t.marked names' := by
  simp only [marked]
  congr 1
  refine List.map_congr_left fun c hc => ?_
  simp only [h c.name (hasColumn_iff.2 (List.mem_map_of_mem hc))]

theorem atName_of_eq {name : String} (f : DeclaredTable → DeclaredTable) (h : t.name = name) :
    atName name f t = f t := if_pos h

theorem atName_of_ne {name : String} (f : DeclaredTable → DeclaredTable) (h : t.name ≠ name) :
    atName name f t = t := if_neg h

theorem name_extended (t : DeclaredTable) (clause : List Token) :
    (t.extended clause).name = t.name := by
  unfold extended
  split
  · rfl
  · rfl
  · split <;> rfl
  · rfl

theorem name_altered (t : DeclaredTable) (action : List Token) :
    (t.altered action).name = t.name := by
  unfold altered
  cases addition? action with
  | none => rfl
  | some clause => exact name_extended t clause

theorem name_foldl_altered (t : DeclaredTable) (actions : List (List Token)) :
    (actions.foldl altered t).name = t.name := by
  induction actions generalizing t with
  | nil => rfl
  | cons action actions ih => rw [List.foldl_cons, ih, name_altered]

theorem name_atName {name : String} {f : DeclaredTable → DeclaredTable}
    (hf : ∀ u, (f u).name = u.name) (t : DeclaredTable) : (atName name f t).name = t.name := by
  unfold atName
  split
  · exact hf t
  · rfl

end DeclaredTable

open DeclaredTable

/-- A primary key marks its columns. -/
theorem applyPrimaryKey_eq (clause : Option Nat) (t : DeclaredTable) (names : List String) :
    (applyPrimaryKey clause t names).1 = t.marked names := by
  induction names generalizing t with
  | nil => exact t.marked_nil.symm
  | cons name names ih =>
    rw [applyPrimaryKey, ← List.singleton_append, marked_append]
    have hmark : t.markPrimaryKey name = t.marked [name] := by simp [markPrimaryKey, marked]
    split
    · rw [ih, hmark]
    · rename_i hno
      have hsame : t.marked [name] = t := by
        refine (marked_congr fun other hother => ?_).trans t.marked_nil
        refine iff_of_false (fun hmem => hno ?_) (List.not_mem_nil)
        rw [← List.mem_singleton.1 hmem]
        exact hother
      rw [hsame]
      exact ih t

theorem applyPrimaryKeys_eq (t : DeclaredTable) (keys : List (Nat × List String)) :
    (applyPrimaryKeys t keys).1 = t.marked (keys.flatMap (·.2)) := by
  induction keys generalizing t with
  | nil => exact t.marked_nil.symm
  | cons key keys ih =>
    obtain ⟨i, names⟩ := key
    rw [List.flatMap_cons, marked_append, ← ih, ← applyPrimaryKey_eq (some i)]
    rfl

/-! ## All tables -/

/-- What a statement does to the tables. -/
def Statement.effect : Statement → List DeclaredTable → List DeclaredTable
  | createTable name body _, ts =>
    if name ∈ ts.map (·.name) then ts else ts ++ (createdTable? name body).toList
  | alterTable name actions, ts => ts.map (atName name fun t => actions.foldl altered t)
  | _, ts => ts

namespace Declarations

variable {d : Declarations}

/-- To put a changed table in its place is to make the change there. -/
theorem tables_put (hd : (d.tables.map (·.name)).Nodup) {t : DeclaredTable} (ht : t ∈ d.tables)
    {f : DeclaredTable → DeclaredTable} (hf : (f t).name = t.name) :
    (d.put (f t)).tables = d.tables.map (atName t.name f) := by
  refine List.map_congr_left fun u hu => ?_
  rw [atName, hf]
  split
  · rename_i hname
    rw [List.inj_on_of_nodup_map hd hu ht hname]
  · rfl

/-- A table that is not changed may as well be changed into itself. -/
theorem map_atName_of_eq (hd : (d.tables.map (·.name)).Nodup) {t : DeclaredTable}
    (ht : t ∈ d.tables) {f : DeclaredTable → DeclaredTable} (hf : f t = t) :
    d.tables.map (atName t.name f) = d.tables := by
  refine (List.map_congr_left fun u hu => ?_).trans (List.map_id _)
  unfold atName
  split
  · rename_i hname
    rw [List.inj_on_of_nodup_map hd hu ht hname, hf]
    rfl
  · rfl

/-- Whatever a clause says, the table it is added to becomes the extended one. -/
theorem tables_extend (hd : (d.tables.map (·.name)).Nodup) {t : DeclaredTable} (ht : t ∈ d.tables)
    (action clause : List Token) :
    (d.extend t action clause).tables
      = d.tables.map (atName t.name fun u => u.extended clause) := by
  have hput := tables_put hd ht (f := fun u => u.extended clause) (t.name_extended clause)
  have hkeep := map_atName_of_eq hd ht (f := fun u => u.extended clause)
  unfold Declarations.extend
  cases hread : readClause clause with
  | error p => exact (hkeep (by simp [extended, hread])).symm
  | ok k =>
    cases k with
    | skipped => exact (hkeep (by simp [extended, hread])).symm
    | primaryKey columns =>
      have hext : t.extended clause = (applyPrimaryKey none t columns).1 := by
        rw [applyPrimaryKey_eq]
        simp [extended, hread]
      rw [hext] at hput
      exact hput
    | foreignKey columns target =>
      have hext : t.extended clause = t.addKey none columns target := by simp [extended, hread]
      rw [hext] at hput
      exact hput
    | column c =>
      dsimp only
      split
      · rename_i hcolumn
        exact (hkeep (by simp [extended, hread, hcolumn])).symm
      · rename_i hcolumn
        have hext : t.extended clause = t.addColumn none c := by simp [extended, hread, hcolumn]
        rw [hext] at hput
        exact hput

theorem tables_alter (hd : (d.tables.map (·.name)).Nodup) (name : String) (action : List Token) :
    (d.alter name action).tables = d.tables.map (atName name fun t => t.altered action) := by
  have hnone : ∀ {f : DeclaredTable → DeclaredTable}, (∀ t ∈ d.tables, t.name = name → f t = t) →
      d.tables.map (atName name f) = d.tables := by
    intro f hf
    refine (List.map_congr_left fun t ht => ?_).trans (List.map_id _)
    unfold atName
    split
    · exact hf t ht ‹_›
    · rfl
  unfold Declarations.alter
  split
  · rename_i rest
    split
    · rename_i htable
      refine (hnone fun t ht hname => ?_).symm
      exact absurd (hname ▸ List.mem_map_of_mem ht) (not_mem_of_table? htable)
    · rename_i t htable
      have hname : t.name = name := by simpa using List.find?_some htable
      rw [tables_extend hd (mem_of_table? htable), hname]
      rfl
  · rename_i hadd
    refine (hnone fun t _ _ => ?_).symm
    rw [altered, addition?_eq_none hadd]
    rfl

theorem names_map_atName (ts : List DeclaredTable) {name : String}
    {f : DeclaredTable → DeclaredTable} (hf : ∀ t, (f t).name = t.name) :
    (ts.map (atName name f)).map (·.name) = ts.map (·.name) := by
  rw [List.map_map]
  exact List.map_congr_left fun t _ => name_atName hf t

/-- No name comes to be used twice. -/
theorem nodup_effect (s : Statement) {ts : List DeclaredTable} (hd : (ts.map (·.name)).Nodup) :
    ((s.effect ts).map (·.name)).Nodup := by
  cases s with
  | createTable name body closed =>
    rw [Statement.effect]
    split
    · exact hd
    · rename_i hnew
      cases ht : createdTable? name body with
      | none => simpa using hd
      | some t =>
        rw [Option.toList_some, List.map_append, List.map_singleton, name_createdTable? ht,
          ← List.concat_eq_append]
        exact hd.concat hnew
  | nameless found => exact hd
  | bodiless name => exact hd
  | alterTable name actions =>
    rw [Statement.effect, names_map_atName _ fun t => name_foldl_altered t actions]
    exact hd

/-- A `CREATE TABLE` adds its table, if there is none of its name. -/
theorem tables_create (d : Declarations) (name : String) (body : List Token) (closed : Bool) :
    (d.create name body closed).tables
      = if name ∈ d.tables.map (·.name) then d.tables
        else d.tables ++ (createdTable? name body).toList := by
  unfold create
  extract_lets d'
  have hd' : d'.tables = d.tables := by
    unfold d'
    split <;> rfl
  have htable : d'.table? name = d.table? name := by rw [table?, table?, hd']
  rw [htable]
  cases hfind : d.table? name with
  | some t =>
    have hname : t.name = name := by simpa using List.find?_some hfind
    rw [if_pos (List.mem_map.2 ⟨t, mem_of_table? hfind, hname⟩)]
    exact hd'
  | none =>
    rw [if_neg (not_mem_of_table? hfind), createdTable?]
    dsimp only
    split <;> simp [report, hd']

/-- A statement does to the tables what its effect says. -/
theorem tables_carryOut (hd : (d.tables.map (·.name)).Nodup) (s : Statement) :
    (d.carryOut s).tables = s.effect d.tables := by
  cases s with
  | createTable name body closed => exact tables_create d name body closed
  | nameless found => rfl
  | bodiless name => rfl
  | alterTable name actions =>
    rw [carryOut, Statement.effect]
    induction actions generalizing d with
    | nil =>
      refine ((List.map_congr_left fun t _ => ?_).trans (List.map_id _)).symm
      unfold atName
      split <;> rfl
    | cons action actions ih =>
      have hstep := tables_alter hd name action
      have hd' : ((d.alter name action).tables.map (·.name)).Nodup := by
        rw [hstep, names_map_atName _ fun t => name_altered t action]
        exact hd
      rw [List.foldl_cons, ih hd', hstep, List.map_map]
      refine List.map_congr_left fun t _ => ?_
      rw [Function.comp_apply]
      by_cases hname : t.name = name
      · rw [atName_of_eq _ hname, atName_of_eq _ ((t.name_altered action).trans hname),
          atName_of_eq _ hname, List.foldl_cons]
      · rw [atName_of_ne _ hname, atName_of_ne _ hname, atName_of_ne _ hname]

/-- The tables of a script come about by the effects of its statements. -/
theorem tables_ofStatements (ss : List Statement) :
    (ofStatements ss).tables = ss.foldl (fun ts s => s.effect ts) [] := by
  have hfold : ∀ d : Declarations, (d.tables.map (·.name)).Nodup →
      (ss.foldl carryOut d).tables = ss.foldl (fun ts s => s.effect ts) d.tables := by
    induction ss with
    | nil => exact fun _ _ => rfl
    | cons s ss ih =>
      intro d hd
      have hstep := tables_carryOut hd s
      rw [List.foldl_cons, List.foldl_cons, ← hstep]
      exact ih _ (hstep ▸ nodup_effect s hd)
  exact hfold empty List.nodup_nil

end Declarations

end SchemaGraph.Sql
