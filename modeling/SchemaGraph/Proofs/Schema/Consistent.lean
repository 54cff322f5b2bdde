import SchemaGraph.Proofs.Schema.Invariant

/-!
# What every operation on a schema keeps

Where identities come from outside, some may come twice, and then a schema is not well-formed.
Whatever the identities are, all operations keep it consistent (`Model.Consistent.edited`), and that
is enough for tables to be moved: the only move that is refused is one of a table that is not there
(`Model.Consistent.moveTable`).
-/

namespace SchemaGraph

variable {K : Type}

namespace Model

/-- All tables are proper, tables of different identities have different names, and the
relationships are up to date. -/
structure Consistent (m : Model K) : Prop where
  proper : ∀ t ∈ m.tables, t.toTableDefinition.Proper
  names : ∀ t ∈ m.tables, ∀ u ∈ m.tables, t.id ≠ u.id → t.name ≠ u.name
  relationships : m.relationships = Relationship.resolve m.tables

/-- What an operation can make of a schema. -/
inductive Edited [Scalar K] (m : Model K) : Model K → Prop where
  | same : Edited m m
  | addTable (ids : IdSupply) : Edited m (m.addTable ids).2.1
  | removeTable {id : TableId} {t : Table K} {m' : Model K} (h : m.removeTable id = .ok (t, m')) :
    Edited m m'
  | replaceTable {id : TableId} {t : Table K} {m' : Model K} (h : m.replaceTable id t = .ok m') :
    Edited m m'
  | replaceAll {ts : List (Table K)} {m' : Model K} (h : Model.replaceAll ts = .ok m') : Edited m m'

variable {m m' : Model K}

theorem WellFormed.consistent (h : m.WellFormed) : m.Consistent where
  proper _ ht := h.table ht
  names _ ht _ hu hne hname := hne (congrArg _ (List.inj_on_of_nodup_map h.names ht hu hname))
  relationships := h.relationships

section
variable [Scalar K]

/-- A change of one table is a replacement. -/
theorem edited_of_modifyTable {id : TableId} {change : Table K → Except ModelError (Table K)}
    (h : m.modifyTable id change = .ok m') : m.Edited m' := by
  rw [modifyTable_eq] at h
  split at h
  · cases h
  · split at h
    · cases h
    · exact .replaceTable h

end

/-! ## Operations -/

/-- The new table gets a name that no other table has. -/
theorem Consistent.addTable [Scalar K] (h : m.Consistent) (ids : IdSupply) :
    (m.addTable ids).2.1.Consistent := by
  let name := freshName "Table" (m.tables.map (·.name))
  have hfresh : ∀ u ∈ m.tables, u.name ≠ name := by
    intro u hu heq
    refine freshName_not_mem "Table" (m.tables.map (·.name)) ?_
    exact List.mem_map.2 ⟨u, hu, heq⟩
  have hmem : ∀ u ∈ (m.addTable ids).2.1.tables,
      u ∈ m.tables ∨ u.toTableDefinition = ⟨name, Table.starterColumns⟩ := by
    intro u hu
    rcases List.mem_append.1 hu with hu | hu
    · exact Or.inl hu
    · exact Or.inr (List.mem_singleton.1 hu ▸ rfl)
  have hname : ∀ u : Table K, u.toTableDefinition = ⟨name, Table.starterColumns⟩ → u.name = name :=
    fun u hu => congrArg TableDefinition.name hu
  refine ⟨fun u hu => ?_, fun u hu v hv hne => ?_, rfl⟩
  · rcases hmem u hu with hu | hu
    · exact h.proper u hu
    · exact hu ▸ proper_starter _
  · rcases List.mem_append.1 hu with hu | hu <;> rcases List.mem_append.1 hv with hv | hv
    · exact h.names u hu v hv hne
    · rw [List.mem_singleton.1 hv]
      exact hfresh u hu
    · rw [List.mem_singleton.1 hu]
      exact (hfresh v hv).symm
    · exact absurd (congrArg _ ((List.mem_singleton.1 hu).trans (List.mem_singleton.1 hv).symm)) hne

/-- Clearing references changes no names. -/
theorem Consistent.removeTable (h : m.Consistent) {id : TableId} {t : Table K}
    (hr : m.removeTable id = .ok (t, m')) : m'.Consistent := by
  rw [removeTable_eq] at hr
  split at hr
  · cases hr
  cases hr
  have hfrom : ∀ u ∈ (m.tables.eraseP fun u => u.id == id).map
        (fun u => (u.withoutReferencesTo t.name).getD u),
      ∃ v ∈ m.tables, u.names = v.names ∧ u.id = v.id := by
    intro u hu
    obtain ⟨v, hv, rfl⟩ := List.mem_map.1 hu
    exact ⟨v, List.eraseP_sublist.subset hv, names_withoutReferencesTo v t.name⟩
  refine ⟨fun u hu => ?_, fun u hu v hv hne => ?_, rfl⟩
  · obtain ⟨u', hu', hnames, -⟩ := hfrom u hu
    exact (h.proper u' hu').of_names hnames
  · obtain ⟨u', hu', hnames, hid⟩ := hfrom u hu
    obtain ⟨v', hv', hnames', hid'⟩ := hfrom v hv
    have hname : u.name = u'.name := congrArg Prod.fst hnames
    have hname' : v.name = v'.name := congrArg Prod.fst hnames'
    rw [hname, hname']
    exact h.names u' hu' v' hv' (hid ▸ hid' ▸ hne)

theorem Consistent.replaceTable (h : m.Consistent) {id : TableId} {t : Table K}
    (hr : m.replaceTable id t = .ok m') : m'.Consistent := by
  obtain ⟨before, old, after, hsplit, -, -, hid, hproper, hother, rfl⟩ := replaceTable_spec hr
  have hmem : ∀ u ∈ before ++ t :: after, u = t ∨ u ∈ m.tables := by
    intro u hu
    rw [hsplit]
    simp only [List.mem_append, List.mem_cons] at hu ⊢
    tauto
  have hname : ∀ u ∈ m.tables, u.id ≠ t.id → u.name ≠ t.name := hid ▸ hother
  refine ⟨fun u hu => ?_, fun u hu v hv hne => ?_, rfl⟩
  · rcases hmem u hu with rfl | hu
    · exact hproper
    · exact h.proper u hu
  · rcases hmem u hu with rfl | hmu <;> rcases hmem v hv with rfl | hmv
    · exact absurd rfl hne
    · exact (hname v hmv hne.symm).symm
    · exact hname u hmu hne
    · exact h.names u hmu v hmv hne

theorem consistent_replaceAll {ts : List (Table K)} (hr : replaceAll ts = .ok m) :
    m.Consistent := by
  obtain ⟨hproper, rfl⟩ := (replaceAll_iff ts m).1 hr
  have hnames := hproper.distinct
  rw [List.map_map] at hnames
  refine ⟨fun t ht => hproper.proper _ (List.mem_map_of_mem ht), fun t ht u hu hne hname => ?_, rfl⟩
  exact hne (congrArg _ (List.inj_on_of_nodup_map hnames ht hu hname))

/-- Every operation keeps a schema consistent. -/
theorem Consistent.edited [Scalar K] (h : m.Consistent) (he : m.Edited m') : m'.Consistent := by
  cases he with
  | same => exact h
  | addTable ids => exact h.addTable ids
  | removeTable hr => exact h.removeTable hr
  | replaceTable hr => exact h.replaceTable hr
  | replaceAll hr => exact consistent_replaceAll hr

/-! ## Moves -/

/-- Relationships do not depend on where tables lie. -/
theorem resolve_movedTo [Scalar K] (before after : List (Table K)) (t : Table K)
    (position : Canvas.Point K) :
    Relationship.resolve (before ++ t.movedTo position :: after)
      = Relationship.resolve (before ++ t :: after) := by
  have hcolumn : ∀ names, Relationship.ofColumn? names (t.movedTo position)
      = Relationship.ofColumn? names t := fun _ => rfl
  simp only [Relationship.resolve, List.map_append, List.map_cons, List.flatMap_append,
    List.flatMap_cons, hcolumn]
  rfl

/-- A table that is there can be moved anywhere, and nothing else changes. -/
theorem Consistent.moveTable [Scalar K] (h : m.Consistent) {id : TableId}
    (hmem : id ∈ m.tables.map (·.id)) :
    ∃ before t after, m.tables = before ++ t :: after ∧ (∀ u ∈ before, u.id ≠ id) ∧ t.id = id ∧
      ∀ position, m.moveTable id position
        = .ok ⟨before ++ t.movedTo position :: after, m.relationships⟩ := by
  obtain ⟨u, hu, huid⟩ := List.mem_map.1 hmem
  have hsome : (m.table? id).isSome := List.find?_isSome.2 ⟨u, hu, beq_iff_eq.2 huid⟩
  obtain ⟨t, ht⟩ := Option.isSome_iff_exists.1 hsome
  obtain ⟨htid, before, after, hsplit, hbefore⟩ := List.find?_eq_some_iff_append.1 ht
  have hid : t.id = id := eq_of_beq htid
  have hfirst : ∀ u ∈ before, u.id ≠ id := by simpa using hbefore
  have hin : t ∈ m.tables := by simp [hsplit]
  refine ⟨before, t, after, hsplit, hfirst, hid, fun position => ?_⟩
  have hfree : m.nameTaken id t.name = false := by
    rw [nameTaken, List.any_eq_false]
    intro v hv htaken
    rw [Bool.and_eq_true, bne_iff_ne, beq_iff_eq] at htaken
    exact h.names v hv t hin (hid ▸ htaken.1) htaken.2
  have hreplace := replaceTable_of_split (t := t.movedTo position) hsplit hfirst hid hid
    (h.proper t hin) hfree
  simp only [moveTable_eq, modifyTable_eq, Model.get, ht]
  rw [hreplace, withTables, resolve_movedTo, ← hsplit, ← h.relationships]

end Model

end SchemaGraph
