import SchemaGraph.Workspace

/-!
# The tables of an imported script

An import gives each definition an identity and a place, and changes nothing else: the tables have
the definitions of the script, in order.
-/

namespace SchemaGraph

variable {K : Type}

/-- Moving a table keeps its definition and its identity. -/
theorem Table.movedTo_eq (t : Table K) (position : Canvas.Point K) :
    (t.movedTo position).toTableDefinition = t.toTableDefinition ∧
      (t.movedTo position).id = t.id := ⟨rfl, rfl⟩

/-- Placing tables moves them, and does nothing else. -/
theorem Canvas.putAt_cons_eq (places : List (String × Point K)) (t : Table K)
    (rest : List (Table K)) :
    ∃ placed, putAt places (t :: rest) = placed :: putAt places rest ∧
      placed.toTableDefinition = t.toTableDefinition ∧ placed.id = t.id := by
  refine ⟨_, rfl, ?_⟩
  split
  · exact ⟨rfl, rfl⟩
  · split
    · exact t.movedTo_eq _
    · exact ⟨rfl, rfl⟩

theorem Canvas.definitions_putAt (places : List (String × Point K)) (ts : List (Table K)) :
    (putAt places ts).map (·.toTableDefinition) = ts.map (·.toTableDefinition) := by
  induction ts with
  | nil => rfl
  | cons t ts ih =>
    obtain ⟨placed, heq, hdef, -⟩ := putAt_cons_eq places t ts
    rw [heq, List.map_cons, List.map_cons, ih, hdef]

theorem Canvas.ids_putAt (places : List (String × Point K)) (ts : List (Table K)) :
    (putAt places ts).map (·.id) = ts.map (·.id) := by
  induction ts with
  | nil => rfl
  | cons t ts ih =>
    obtain ⟨placed, heq, -, hid⟩ := putAt_cons_eq places t ts
    rw [heq, List.map_cons, List.map_cons, ih, hid]

variable [Scalar K]

theorem Table.definitions_ofDefinitions (ids : IdSupply) (ds : List TableDefinition) :
    (Table.ofDefinitions (K := K) ids ds).1.map (·.toTableDefinition) = ds := by
  induction ds generalizing ids with
  | nil => rfl
  | cons d ds ih =>
    simp only [Table.ofDefinitions, List.map_cons, ih]
    rfl

/-- The tables of an import have the definitions of the script. -/
theorem Workspace.definitions_tablesOf (metrics : Canvas.TableMetrics K) (ids : IdSupply)
    (script : Sql.Script) :
    (tablesOf metrics ids script).1.map (·.toTableDefinition) = script.definitions := by
  simp only [tablesOf, Canvas.arrange, Canvas.arrangeBy, Canvas.definitions_putAt,
    Table.definitions_ofDefinitions]

/-- Their identities are those that were drawn. -/
theorem Workspace.ids_tablesOf (metrics : Canvas.TableMetrics K) (ids : IdSupply)
    (script : Sql.Script) :
    (tablesOf metrics ids script).1.map (·.id)
      = (Table.ofDefinitions (K := K) ids script.definitions).1.map (·.id) := by
  simp only [tablesOf, Canvas.arrange, Canvas.arrangeBy, Canvas.ids_putAt]

end SchemaGraph
