import SchemaGraph.Proofs.Schema.Invariant

/-!
# What the removal of a table leaves

With a table its name goes, and so do the references to it. Nothing else is changed: the other
tables stay in their order, each without the references that named the removed one
(`Table.unlinked`), and of the relationships those are left that do not begin or end at it
(`Model.removed_of_wellFormed`).
-/

namespace SchemaGraph

variable {K : Type}

/-! ## Tables without references to a table -/

/-- The column without its reference, if that names the table. -/
def Column.unlinked (name : String) (c : Column) : Column :=
  { c with foreignKey := c.foreignKey.filter fun r => r.table != name }

/-- The table without the references that name the table of the given name. -/
def Table.unlinked (name : String) (t : Table K) : Table K :=
  { t with columns := t.columns.map (Column.unlinked name) }

theorem Column.unlinked_of_not_refersTo {name : String} {c : Column}
    (h : c.refersTo name = false) : c.unlinked name = c := by
  obtain ⟨columnName, typeName, primaryKey, notNull, _ | r⟩ := c
  · rfl
  · have hr : r.table ≠ name := by simpa [refersTo] using h
    simp [unlinked, hr]

theorem Table.clearReference_eq (name : String) (c : Column) :
    clearReference name c = c.unlinked name := by
  unfold clearReference
  split
  · rename_i h
    obtain ⟨columnName, typeName, primaryKey, notNull, _ | r⟩ := c
    · rfl
    · have hr : r.table = name := by simpa [Column.refersTo] using h
      simp [Column.unlinked, Option.filter, hr]
  · rename_i h
    exact (Column.unlinked_of_not_refersTo (by simpa using h)).symm

/-- Whether anything has to be cleared or not, a table is left without the references. -/
theorem Table.getD_withoutReferencesTo (t : Table K) (name : String) :
    (t.withoutReferencesTo name).getD t = t.unlinked name := by
  unfold withoutReferencesTo
  split
  · simp [clearReferences, unlinked, funext (clearReference_eq name)]
  · rename_i h
    have hkeep : t.columns.map (Column.unlinked name) = t.columns := by
      have hnone : ∀ c ∈ t.columns, c.refersTo name = false := by simpa [refersTo] using h
      refine (List.map_congr_left fun c hc => ?_).trans (List.map_id _)
      exact Column.unlinked_of_not_refersTo (hnone c hc)
    rw [Option.getD_none, unlinked, hkeep]

/-! ## Relationships -/

namespace Relationship

variable {name : String} {names names' : List String}

/-- A column of another table keeps its relationship, unless that ends at the removed table. -/
theorem ofColumn?_unlinked (hnames : ∀ x, x ∈ names' ↔ x ∈ names ∧ x ≠ name) {t : Table K}
    (ht : t.name ≠ name) (c : Column) :
    ofColumn? names' (t.unlinked name) (c.unlinked name)
      = (ofColumn? names t c).filter fun r => !r.touches name := by
  obtain ⟨columnName, typeName, primaryKey, notNull, _ | r⟩ := c
  · rfl
  · by_cases hr : r.table = name
    · by_cases hmem : name ∈ names <;> simp [ofColumn?, Column.unlinked, touches, hr, hmem,
        Option.filter]
    · by_cases hmem : r.table ∈ names <;>
        simp [ofColumn?, Column.unlinked, Table.unlinked, touches, hr, ht, hmem, hnames,
          Option.filter]

/-- The relationships of another table, of which those that end at the removed table are gone. -/
theorem filterMap_unlinked (hnames : ∀ x, x ∈ names' ↔ x ∈ names ∧ x ≠ name) {t : Table K}
    (ht : t.name ≠ name) :
    (t.unlinked name).columns.filterMap (ofColumn? names' (t.unlinked name))
      = (t.columns.filterMap (ofColumn? names t)).filter fun r => !r.touches name := by
  rw [List.filter_filterMap]
  show (t.columns.map (Column.unlinked name)).filterMap _ = _
  rw [List.filterMap_map]
  exact List.filterMap_congr fun c _ => ofColumn?_unlinked hnames ht c

/-- All relationships of the removed table begin at it. -/
theorem filter_own (t : Table K) (names : List String) :
    (t.columns.filterMap (ofColumn? names t)).filter (fun r => !r.touches t.name) = [] := by
  rw [List.filter_eq_nil_iff]
  intro r hr
  obtain ⟨c, -, hc⟩ := List.mem_filterMap.1 hr
  unfold ofColumn? at hc
  split at hc
  · cases hc
  · split at hc
    · cases hc
      simp [touches]
    · cases hc

/-- Without a table, and without the references to it, all relationships that do not touch it are
left. -/
theorem resolve_unlinked {before after : List (Table K)} {t : Table K}
    (hfree : ∀ u ∈ before ++ after, u.name ≠ t.name) :
    resolve ((before ++ after).map (Table.unlinked t.name))
      = (resolve (before ++ t :: after)).filter fun r => !r.touches t.name := by
  have hnames : ∀ x, x ∈ ((before ++ after).map (Table.unlinked t.name)).map (·.name) ↔
      x ∈ (before ++ t :: after).map (·.name) ∧ x ≠ t.name := by
    intro x
    have hsame : ((before ++ after).map (Table.unlinked t.name)).map (·.name)
        = (before ++ after).map (·.name) := List.map_map
    have hnot : t.name ∉ (before ++ after).map (·.name) := fun hmem => by
      obtain ⟨u, hu, heq⟩ := List.mem_map.1 hmem
      exact hfree u hu heq
    rw [hsame]
    constructor
    · intro hx
      refine ⟨?_, fun heq => hnot (heq ▸ hx)⟩
      simp only [List.map_append, List.map_cons, List.mem_append, List.mem_cons] at hx ⊢
      tauto
    · rintro ⟨hx, hne⟩
      simp only [List.map_append, List.map_cons, List.mem_append, List.mem_cons] at hx ⊢
      tauto
  have hother : (before ++ after).flatMap (fun u => (u.unlinked t.name).columns.filterMap
          (ofColumn? (((before ++ after).map (Table.unlinked t.name)).map (·.name))
            (u.unlinked t.name)))
        = (before ++ after).flatMap fun u => (u.columns.filterMap
          (ofColumn? ((before ++ t :: after).map (·.name)) u)).filter
            fun r => !r.touches t.name :=
    List.flatMap_congr fun u hu => filterMap_unlinked hnames (hfree u hu)
  unfold resolve
  rw [List.filter_flatMap, List.flatMap_map, hother, List.flatMap_append,
    List.flatMap_append, List.flatMap_cons, filter_own, List.nil_append]

end Relationship

/-! ## Removals -/

namespace Model

variable {m : Model K}

/-- **The removal of a table is exact.** In a well-formed schema every table can be removed. The
other tables stay in their order, the same but for the references that name the removed table, which
are gone; and the relationships are those there were, in their order, but for those that touch the
removed table. -/
theorem removed_of_wellFormed (h : m.WellFormed) {t : Table K} (ht : t ∈ m.tables) :
    ∃ before after m', m.tables = before ++ t :: after ∧ m.removeTable t.id = .ok (t, m') ∧
      m'.tables = (before ++ after).map (Table.unlinked t.name) ∧
      m'.relationships = m.relationships.filter fun r => !r.touches t.name := by
  obtain ⟨before, after, hsplit⟩ := List.append_of_mem ht
  have hfind : m.table? t.id = some t :=
    (find?_key_eq_some (fun u : Table K => u.id) h.ids).2 ⟨ht, rfl⟩
  have hfirst : ∀ u ∈ before, u.id ≠ t.id := fun u hu =>
    h.other_ids hsplit u (List.mem_append_left _ hu)
  refine ⟨before, after, withTables ((before ++ after).map (Table.unlinked t.name)), hsplit, ?_,
    rfl, ?_⟩
  · rw [removeTable_eq]
    rw [hfind, hsplit, eraseP_split hfirst rfl]
    simp only [Table.getD_withoutReferencesTo]
  · rw [h.relationships, hsplit]
    exact Relationship.resolve_unlinked (h.other_names hsplit)

/-- Regions within regions; towns that refer to regions, to each other and to something that is not
there; and roads between towns. -/
def regionsModel : Model Rat := .withTables
  [⟨⟨"roads", [⟨"start", "INT", false, true, some ⟨"towns", "id"⟩⟩,
      ⟨"region", "INT", false, false, some ⟨"regions", "number"⟩⟩]⟩, ⟨"r"⟩, ⟨50, 50⟩⟩,
    ⟨⟨"regions", [⟨"id", "INT", true, true, none⟩,
      ⟨"within", "INT", false, false, some ⟨"regions", "id"⟩⟩,
      ⟨"capital", "INT", false, false, some ⟨"towns", "id"⟩⟩]⟩, ⟨"g"⟩, ⟨50, 170⟩⟩,
    ⟨⟨"towns", [⟨"id", "INT", true, true, none⟩,
      ⟨"region", "INT", false, false, some ⟨"regions", "id"⟩⟩,
      ⟨"twin", "INT", false, false, some ⟨"towns", "id"⟩⟩,
      ⟨"river", "INT", false, false, some ⟨"rivers", "id"⟩⟩]⟩, ⟨"t"⟩, ⟨50, 290⟩⟩]

/-- Without the regions two relationships are left, and the reference that led nowhere. -/
theorem removed_regions :
    regionsModel.WellFormed ∧ regionsModel.relationships.length = 6 ∧
      ∃ t m', regionsModel.removeTable ⟨"g"⟩ = .ok (t, m') ∧ t.name = "regions" ∧
        m'.relationships = regionsModel.relationships.filter (fun r => !r.touches "regions") ∧
        m'.relationships.map (·.id) = ["rel-r-start", "rel-t-twin"] ∧
        m'.tables.map (fun u => (u.name, u.columns.map fun c => c.foreignKey.map (·.table)))
          = [("roads", [some "towns", none]),
            ("towns", [none, none, some "towns", some "rivers"])] := by
  have hwf : regionsModel.WellFormed :=
    wellFormed_withTables (by decide) ((checkTables_iff _).1 (by decide +kernel))
  have hmem : (⟨⟨"regions", [⟨"id", "INT", true, true, none⟩,
      ⟨"within", "INT", false, false, some ⟨"regions", "id"⟩⟩,
      ⟨"capital", "INT", false, false, some ⟨"towns", "id"⟩⟩]⟩, ⟨"g"⟩, ⟨50, 170⟩⟩ : Table Rat)
      ∈ regionsModel.tables := List.mem_cons_of_mem _ (List.mem_cons_self ..)
  obtain ⟨before, after, m', hsplit, hremove, htables, hrelationships⟩ :=
    removed_of_wellFormed hwf hmem
  refine ⟨hwf, by decide +kernel, _, m', hremove, rfl, hrelationships, ?_, ?_⟩
  · rw [hrelationships]
    decide +kernel
  · have hrun : (regionsModel.removeTable ⟨"g"⟩).map (fun r => r.2.tables.map
        fun u => (u.name, u.columns.map fun c => c.foreignKey.map (·.table)))
          = .ok [("roads", [some "towns", none]),
            ("towns", [none, none, some "towns", some "rivers"])] := by decide +kernel
    rw [hremove] at hrun
    exact Except.ok.inj hrun

end Model

end SchemaGraph
