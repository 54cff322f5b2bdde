import SchemaGraph.Proofs.Sql.Findings
import SchemaGraph.Sql.Script

/-!
# Moving the positions of clauses

The position of a clause in its body matters to nothing but the reports that give it. So if all
positions are moved, for each table in a way of its own, then every function from findings to
scripts gives the same, with its positions moved in that way (`foundTable_moved`, `effects_moved`,
`moved_attachAll`). Tables and foreign keys do not change in any other respect.
-/

namespace SchemaGraph.Sql

open DeclaredTable

/-- The finding at another position. -/
def Finding.moved (f : Nat → Nat) (x : Finding) : Finding := { x with place := f x.place }

def KeyDeclaration.moved (f : Nat → Nat) (k : KeyDeclaration) : KeyDeclaration :=
  { k with clause := k.clause.map f }

/-- The table with the positions of its keys moved in the way that `F` gives for it. -/
def DeclaredTable.moved (F : String → Nat → Nat) (t : DeclaredTable) : DeclaredTable :=
  { t with keys := t.keys.map (KeyDeclaration.moved (F t.name)) }

/-- The report with its position moved in the way that `F` gives for its table. -/
def Diagnostic.moved (F : String → Nat → Nat) (r : Diagnostic) : Diagnostic :=
  { r with clause := r.clause.map (F r.table) }

/-! ## Findings -/

section
variable {f : Nat → Nat}

theorem key?_moved (x : Finding) :
    (x.moved f).key? = x.key?.map (KeyDeclaration.moved f) := by
  obtain ⟨place, clause, _ | _ | _ | _ | _⟩ := x
  · rename_i c
    cases hreference : c.reference <;>
      simp [Finding.key?, Finding.moved, hreference, KeyDeclaration.moved]
  all_goals rfl

theorem primaryKey?_moved (x : Finding) :
    (x.moved f).primaryKey? = x.primaryKey?.map fun key => (f key.1, key.2) := by
  obtain ⟨place, clause, _ | _ | _ | _ | _⟩ := x <;> rfl

theorem report?_moved (F : String → Nat → Nat) (name : String) (x : Finding) :
    (x.moved (F name)).report? name = (x.report? name).map (Diagnostic.moved F) := by
  obtain ⟨place, clause, _ | _ | _ | _ | _⟩ := x <;> rfl

theorem filterMap_moved {α : Type} {g : Finding → Option α} {e : α → α}
    (h : ∀ x, g (x.moved f) = (g x).map e) (xs : List Finding) :
    (xs.map (Finding.moved f)).filterMap g = (xs.filterMap g).map e := by
  rw [List.filterMap_map, List.map_filterMap]
  exact List.filterMap_congr fun x _ => h x

theorem columns_moved (xs : List Finding) :
    (xs.map (Finding.moved f)).filterMap Finding.column? = xs.filterMap Finding.column? := by
  rw [List.filterMap_map]
  rfl

end

section
variable (F : String → Nat → Nat) (name : String) (xs : List Finding)

theorem foundTable_moved :
    foundTable name (xs.map (Finding.moved (F name))) = (foundTable name xs).moved F := by
  rw [foundTable, columns_moved, filterMap_moved key?_moved, filterMap_moved primaryKey?_moved,
    List.flatMap_map]
  rfl

theorem unknownKeys_moved (t : DeclaredTable) (clause : Option Nat) (names : List String) :
    (t.moved F).unknownKeys (clause.map (F t.name)) names
      = (t.unknownKeys clause names).map (Diagnostic.moved F) := by
  rw [unknownKeys, unknownKeys, List.map_map]
  rfl

theorem foundReports_moved :
    foundReports name (xs.map (Finding.moved (F name)))
      = (foundReports name xs).map (Diagnostic.moved F) := by
  rw [foundReports, foundTable_moved, filterMap_moved (report?_moved F name),
    filterMap_moved primaryKey?_moved, List.flatMap_map, foundReports, List.map_append,
    List.map_flatMap]
  exact congrArg _ (List.flatMap_congr fun key _ => unknownKeys_moved F _ (some key.1) key.2)

theorem newTableReports_moved (closed : Bool) :
    newTableReports name (xs.map (Finding.moved (F name))) closed
      = (newTableReports name xs closed).map (Diagnostic.moved F) := by
  rw [newTableReports, foundReports_moved, columns_moved, newTableReports, List.map_append,
    List.map_append]
  congr 1
  · cases closed <;> rfl
  · congr 1
    split <;> rfl

end

/-! ## Tables -/

variable {F : String → Nat → Nat}

theorem moved_of_eq {t : DeclaredTable} (h : F t.name = id) : t.moved F = t := by
  have hkeys : t.keys.map (KeyDeclaration.moved id) = t.keys :=
    (List.map_congr_left fun k _ => by simp [KeyDeclaration.moved]).trans (List.map_id _)
  rw [moved, h, hkeys]

theorem moved_extended (t : DeclaredTable) (clause : List Token) :
    (t.extended clause).moved F = (t.moved F).extended clause := by
  unfold extended
  split
  · rfl
  · simp [DeclaredTable.moved, addKey, KeyDeclaration.moved]
  · rename_i c _
    show _ = if t.hasColumn c.name then _ else _
    split
    · rfl
    · cases hreference : c.reference <;>
        simp [DeclaredTable.moved, addColumn, hreference, KeyDeclaration.moved]
  · rfl

theorem moved_altered (t : DeclaredTable) (action : List Token) :
    (t.altered action).moved F = (t.moved F).altered action := by
  unfold altered
  cases addition? action with
  | none => rfl
  | some clause => exact moved_extended t clause

theorem moved_foldl_altered (t : DeclaredTable) (actions : List (List Token)) :
    (actions.foldl altered t).moved F = actions.foldl altered (t.moved F) := by
  induction actions generalizing t with
  | nil => rfl
  | cons action actions ih => rw [List.foldl_cons, ih, moved_altered, List.foldl_cons]

/-- Additions report no positions. -/
theorem actionReports_moved (t : DeclaredTable) (actions : List (List Token)) :
    (t.moved F).actionReports actions = t.actionReports actions := by
  induction actions generalizing t with
  | nil => rfl
  | cons action actions ih =>
    rw [actionReports, ← moved_altered, ih]
    rfl

theorem names_moved (ts : List DeclaredTable) :
    (ts.map (DeclaredTable.moved F)).map (·.name) = ts.map (·.name) := by
  rw [List.map_map]
  rfl

theorem find?_moved (ts : List DeclaredTable) (name : String) :
    (ts.map (DeclaredTable.moved F)).find? (fun t => t.name == name)
      = (ts.find? fun t => t.name == name).map (DeclaredTable.moved F) :=
  List.find?_map

/-! ## Statements -/

section
variable {ts : List DeclaredTable}

theorem effect_alterTable_moved (name : String) (actions : List (List Token)) :
    (Statement.alterTable name actions).effect (ts.map (DeclaredTable.moved F))
      = ((Statement.alterTable name actions).effect ts).map (DeclaredTable.moved F) := by
  rw [Statement.effect, Statement.effect, List.map_map, List.map_map]
  refine List.map_congr_left fun t _ => ?_
  rw [Function.comp_apply, Function.comp_apply, atName, atName]
  show (if t.name = name then _ else _) = _
  split
  · exact (moved_foldl_altered t actions).symm
  · rfl

theorem reports_alterTable_moved (name : String) (actions : List (List Token)) :
    (Statement.alterTable name actions).reports (ts.map (DeclaredTable.moved F))
      = (Statement.alterTable name actions).reports ts := by
  rw [Statement.reports, Statement.reports, find?_moved]
  cases ts.find? fun t => t.name == name with
  | none => rfl
  | some t => exact actionReports_moved t actions

/-- Statements do and report the same if positions are moved in the tables before them, and in
those only. -/
theorem effects_moved (h : ∀ n, n ∉ ts.map (·.name) → F n = id) (ss : List Statement) :
    effects (ts.map (DeclaredTable.moved F)) ss
        = (effects ts ss).map (DeclaredTable.moved F) ∧
      reportsAfter (ts.map (DeclaredTable.moved F)) ss = reportsAfter ts ss := by
  induction ss generalizing ts with
  | nil => exact ⟨rfl, rfl⟩
  | cons s ss ih =>
    have hstep : s.effect (ts.map (DeclaredTable.moved F))
          = (s.effect ts).map (DeclaredTable.moved F) ∧
        s.reports (ts.map (DeclaredTable.moved F)) = s.reports ts := by
      cases s with
      | createTable name body closed =>
        rw [Statement.reports, Statement.reports, Statement.effect, Statement.effect, names_moved]
        refine ⟨?_, rfl⟩
        split
        · rfl
        · rename_i hname
          have hkeep : (createdTable? name body).toList.map (DeclaredTable.moved F)
              = (createdTable? name body).toList := by
            refine (List.map_congr_left fun t ht => moved_of_eq (h _ ?_)).trans (List.map_id _)
            rwa [name_createdTable? (Option.mem_toList.1 ht)]
          rw [List.map_append, hkeep]
      | nameless found => exact ⟨rfl, rfl⟩
      | bodiless name => exact ⟨rfl, rfl⟩
      | alterTable name actions =>
        exact ⟨effect_alterTable_moved name actions, reports_alterTable_moved name actions⟩
    have hkept : ∀ n, n ∉ (s.effect ts).map (·.name) → F n = id := by
      intro n hn
      refine h n fun hmem => hn ?_
      obtain ⟨t, ht, rfl⟩ := List.mem_map.1 hmem
      obtain ⟨u, hu, hgrows⟩ := exists_grows_effect ht s
      exact List.mem_map.2 ⟨u, hu, hgrows.name⟩
    obtain ⟨heffects, hreports⟩ := ih hkept
    rw [reportsAfter, reportsAfter, hstep.1, hstep.2, hreports]
    refine ⟨?_, rfl⟩
    show effects (s.effect _) ss = _
    rw [hstep.1, heffects]
    rfl

end

/-! ## Foreign keys -/

namespace Attachment

/-- The attachment with the positions in its reports moved. -/
def moved (F : String → Nat → Nat) (a : Attachment) : Attachment :=
  { a with diagnostics := a.diagnostics.map (Diagnostic.moved F) }

theorem moved_foldr (as : List Attachment) :
    (as.foldr append empty).moved F = (as.map (moved F)).foldr append empty := by
  induction as with
  | nil => rfl
  | cons a as ih =>
    rw [List.foldr_cons, List.map_cons, List.foldr_cons, ← ih]
    simp [moved, append]

theorem moved_ofPair (table target : DeclaredTable) (source referenced : String) :
    (ofPair table target source referenced).moved F
      = ofPair (table.moved F) (target.moved F) source referenced := by
  have hsource : (table.moved F).hasColumn source = table.hasColumn source := rfl
  have hreferenced : (target.moved F).hasColumn referenced = target.hasColumn referenced := rfl
  unfold ofPair
  rw [hsource, hreferenced]
  split
  · rfl
  · split <;> rfl

theorem moved_ofKeyTo (table target : DeclaredTable) (key : KeyDeclaration) :
    (ofKeyTo table target key).moved F
      = ofKeyTo (table.moved F) (target.moved F) (key.moved (F table.name)) := by
  have hcolumns : targetColumns (key.moved (F table.name)) (target.moved F)
      = targetColumns key target := rfl
  have hkey : (key.moved (F table.name)).columns = key.columns := rfl
  unfold ofKeyTo
  rw [hcolumns, hkey]
  dsimp only
  split
  · rw [moved_foldr, List.map_map]
    refine congrArg _ (List.map_congr_left fun p _ => ?_)
    exact moved_ofPair table target p.1 p.2
  · rfl

theorem moved_ofKey (ts : List DeclaredTable) (table : DeclaredTable) (key : KeyDeclaration) :
    (ofKey ts table key).moved F
      = ofKey (ts.map (DeclaredTable.moved F)) (table.moved F) (key.moved (F table.name)) := by
  have htarget : (key.moved (F table.name)).target = key.target := rfl
  rw [ofKey, ofKey, find?_moved, htarget]
  cases ts.find? fun t => t.name == key.target.table with
  | none => rfl
  | some target => exact moved_ofKeyTo table target key

theorem moved_ofTable (ts : List DeclaredTable) (table : DeclaredTable) :
    (ofTable ts table).moved F = ofTable (ts.map (DeclaredTable.moved F)) (table.moved F) := by
  rw [ofTable, moved_foldr, ofTable, List.map_map]
  show _ = ((table.keys.map (KeyDeclaration.moved (F table.name))).map _).foldr append empty
  rw [List.map_map]
  refine congrArg _ (List.map_congr_left fun key _ => ?_)
  exact moved_ofKey ts table key

end Attachment

theorem moved_attachAll (ts : List DeclaredTable) :
    (attachAll ts).moved F = attachAll (ts.map (DeclaredTable.moved F)) := by
  rw [attachAll, Attachment.moved_foldr, attachAll, List.map_map, List.map_map]
  refine congrArg _ (List.map_congr_left fun t _ => ?_)
  exact Attachment.moved_ofTable ts t

theorem resolveTable_moved (d : Dialect) (ts : List DeclaredTable) (t : DeclaredTable) :
    resolveTable d (ts.map (DeclaredTable.moved F)) (t.moved F) = resolveTable d ts t := by
  rw [resolveTable, ← Attachment.moved_ofTable]
  rfl

/-! ## Scripts -/

/-- What statements make up depends on what they do and report. -/
theorem Script.ofStatements_eq (d : Dialect) (ss : List Statement) :
    Script.ofStatements d ss =
      ⟨(effects [] ss).map (resolveTable d (effects [] ss)),
        reportsAfter [] ss ++ (attachAll (effects [] ss)).diagnostics,
        (attachAll (effects [] ss)).dropped, ss.countP (·.creates)⟩ := by
  rw [Script.ofStatements, Declarations.diagnostics_ofStatements, tables_eq_effects]

/-- Statements that do the same but for positions make up the same tables. -/
theorem definitions_moved (d : Dialect) {ss ss' : List Statement}
    (h : effects [] ss' = (effects [] ss).map (.moved F)) :
    (Script.ofStatements d ss').definitions = (Script.ofStatements d ss).definitions ∧
      (Script.ofStatements d ss').dropped = (Script.ofStatements d ss).dropped := by
  rw [Script.ofStatements_eq, Script.ofStatements_eq, h, ← moved_attachAll]
  refine ⟨List.map_map.trans ?_, rfl⟩
  exact List.map_congr_left fun t _ => resolveTable_moved d _ t

end SchemaGraph.Sql
