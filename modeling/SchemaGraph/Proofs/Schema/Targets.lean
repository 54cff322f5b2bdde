import SchemaGraph.Proofs.Schema.Checks

/-!
# Where references lead

A reference has a target if some table has the column it names. In a closed list of tables all
references have targets, so each of them gives rise to one relationship
(`Relationship.resolve_of_closed`).
-/

namespace SchemaGraph

/-- Some table has the column that the reference names. -/
def hasTarget (ts : List TableDefinition) (r : ForeignKey) : Bool :=
  ts.any fun t => t.name == r.table && t.columns.any fun c => c.name == r.column

theorem hasTarget_iff {ts : List TableDefinition} {r : ForeignKey} :
    hasTarget ts r = true ↔ ∃ t ∈ ts, t.name = r.table ∧ ∃ c ∈ t.columns, c.name = r.column := by
  simp [hasTarget]

/-- Of tables with different names only one can hold the target. -/
theorem hasTarget_of_mem {ts : List TableDefinition} (hd : (ts.map (·.name)).Nodup)
    {u : TableDefinition} (hu : u ∈ ts) {r : ForeignKey} (hname : u.name = r.table) :
    hasTarget ts r = u.columns.any fun c => c.name == r.column := by
  rw [Bool.eq_iff_iff, hasTarget, List.any_eq_true]
  constructor
  · rintro ⟨v, hv, hmatch⟩
    rw [Bool.and_eq_true, beq_iff_eq] at hmatch
    have heq := List.inj_on_of_nodup_map hd hv hu (hmatch.1.trans hname.symm)
    rw [← heq]
    exact hmatch.2
  · intro hcolumn
    exact ⟨u, hu, by rw [hcolumn, hname]; simp⟩

theorem hasTarget_of_forall_ne {ts : List TableDefinition} {r : ForeignKey}
    (h : ∀ t ∈ ts, t.name ≠ r.table) : hasTarget ts r = false := by
  rw [hasTarget, List.any_eq_false]
  intro t ht
  simp [h t ht]

/-- A table without columns is no target. -/
theorem hasTarget_filter (ts : List TableDefinition) :
    hasTarget (ts.filter fun t => !t.columns.isEmpty) = hasTarget ts := by
  funext r
  rw [hasTarget, List.any_filter, hasTarget]
  congr 1
  funext t
  cases ht : t.columns <;> simp

theorem hasTarget_of_perm {ts us : List TableDefinition} (h : ts.Perm us) :
    hasTarget ts = hasTarget us := by
  funext r
  rw [Bool.eq_iff_iff, hasTarget, hasTarget, List.any_eq_true, List.any_eq_true]
  simp only [h.mem_iff]

/-! ## Closed lists of tables -/

/-- The tables are a schema of their own: they are proper and have columns, and every reference has
a target among them. -/
structure Closed (ts : List TableDefinition) : Prop extends ProperTables ts where
  nonempty : ∀ t ∈ ts, t.columns ≠ []
  target : ∀ t ∈ ts, ∀ c ∈ t.columns, ∀ r, c.foreignKey = some r → hasTarget ts r = true

variable {K : Type}

/-- The relationship that the reference `r` of a column stands for. -/
def Relationship.ofReference (t : Table K) (c : Column) (r : ForeignKey) : Relationship :=
  ⟨idOf t.id c.name, t.name, c.name, r.table, r.column⟩

/-- In a closed list of tables every reference is one relationship, and there are no others. -/
theorem Relationship.resolve_of_closed {ts : List (Table K)}
    (h : Closed (ts.map (·.toTableDefinition))) :
    resolve ts = ts.flatMap fun t => t.columns.filterMap fun c =>
      c.foreignKey.map (ofReference t c) := by
  unfold resolve
  refine List.flatMap_congr fun t ht => List.filterMap_congr fun c hc => ?_
  unfold ofColumn?
  cases hr : c.foreignKey with
  | none => rfl
  | some r =>
    obtain ⟨u, hu, hname, -⟩ := hasTarget_iff.1 (h.target _ (List.mem_map_of_mem ht) c hc r hr)
    obtain ⟨v, hv, rfl⟩ := List.mem_map.1 hu
    have hmem : r.table ∈ ts.map (·.name) := List.mem_map.2 ⟨v, hv, hname⟩
    simp [hmem, ofReference]

end SchemaGraph
