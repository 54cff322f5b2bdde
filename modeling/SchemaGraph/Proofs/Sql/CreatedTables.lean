import SchemaGraph.Proofs.Sql.Declaring

/-!
# Tables of different names

A complete `CREATE TABLE` adds its table and its reports to what is declared already, if no other
statement has its name. A script of such statements therefore declares what each of them does, one
after the other (`ofStatements_creates`).
-/

namespace SchemaGraph.Sql

/-- The table that a complete statement creates; none if it has no columns. -/
def createdTable? (name : String) (body : List Token) : Option DeclaredTable :=
  let t := (declareBody name body).1
  if t.columns.isEmpty then none else some t

/-- The reports on a complete statement. -/
def createReports (name : String) (body : List Token) : List Diagnostic :=
  let read := declareBody name body
  read.2 ++ if read.1.columns.isEmpty then [⟨name, none, "", .noColumns⟩] else []

theorem name_createdTable? {name : String} {body : List Token} {t : DeclaredTable}
    (h : createdTable? name body = some t) : t.name = name := by
  unfold createdTable? at h
  dsimp only at h
  split at h
  · cases h
  · cases h
    exact (declareBody_sound name (List.Subset.refl _)).1

namespace Declarations

variable {d : Declarations}

theorem create_of_new {name : String} (h : d.table? name = none) (body : List Token) :
    d.create name body true
      = ⟨d.tables ++ (createdTable? name body).toList,
          d.diagnostics ++ createReports name body⟩ := by
  simp only [create, ↓reduceIte, h, createdTable?, createReports]
  split <;> simp [report]

/-- A new table does not take another name. -/
theorem table?_append_createdTable? {name other : String} (h : d.table? other = none)
    (hne : name ≠ other) (body : List Token) (reports : List Diagnostic) :
    table? ⟨d.tables ++ (createdTable? name body).toList, reports⟩ other = none := by
  rw [table?, List.find?_eq_none] at h ⊢
  intro t ht
  rcases List.mem_append.1 ht with ht | ht
  · exact h t ht
  · rw [Option.mem_toList] at ht
    simpa [name_createdTable? ht] using hne

section
variable {α : Type} {name : α → String} {body : α → List Token} {as : List α}

theorem foldl_creates (hd : (as.map name).Nodup) (hnew : ∀ a ∈ as, d.table? (name a) = none) :
    (as.map fun a => Statement.createTable (name a) (body a) true).foldl carryOut d
      = ⟨d.tables ++ as.flatMap fun a => (createdTable? (name a) (body a)).toList,
          d.diagnostics ++ as.flatMap fun a => createReports (name a) (body a)⟩ := by
  induction as generalizing d with
  | nil => simp
  | cons a as ih =>
    rw [List.map_cons, List.nodup_cons] at hd
    rw [List.map_cons, List.foldl_cons, carryOut,
      create_of_new (hnew a (List.mem_cons_self ..)), ih hd.2]
    · simp
    · intro b hb
      refine table?_append_createdTable? (hnew b (List.mem_cons_of_mem _ hb)) ?_ _ _
      intro heq
      exact hd.1 (heq ▸ List.mem_map_of_mem hb)

/-- What complete statements of different names declare. -/
theorem ofStatements_creates (hd : (as.map name).Nodup) :
    ofStatements (as.map fun a => .createTable (name a) (body a) true)
      = ⟨as.flatMap fun a => (createdTable? (name a) (body a)).toList,
          as.flatMap fun a => createReports (name a) (body a)⟩ := by
  rw [ofStatements, foldl_creates hd fun _ _ => rfl]
  rfl

/-- No two of the tables share a name. -/
theorem nodup_created (body : α → List Token) (hd : (as.map name).Nodup) :
    ((as.flatMap fun a => (createdTable? (name a) (body a)).toList).map (·.name)).Nodup := by
  refine hd.sublist ?_
  clear hd
  induction as with
  | nil => exact List.Sublist.slnil
  | cons a as ih =>
    rw [List.flatMap_cons, List.map_append, List.map_cons]
    cases ht : createdTable? (name a) (body a) with
    | none => exact ih.cons (name a)
    | some t => simpa [name_createdTable? ht] using ih.cons_cons (name a)

end

end Declarations

end SchemaGraph.Sql
