import Mathlib.Data.List.Nodup
import SchemaGraph.Proofs.Schema.Checks
import SchemaGraph.Proofs.Schema.FreshNames
import SchemaGraph.Proofs.Schema.Imported
import SchemaGraph.Session

/-!
# The invariant of a schema

In a well-formed schema no identity and no name comes twice, all tables are proper, and the
relationships are those of the tables. Every operation keeps a schema well-formed, whether it is
carried out or refused, and so does every run of a session (`Session.wellFormed_of_reachable`). Two
things come from outside: new identities are new, and the tables that replace all others have
different identities.
-/

namespace SchemaGraph

theorem allBlank_append_left {s : String} (h : Text.allBlank s = false) (t : String) :
    Text.allBlank (s ++ t) = false := by
  rw [Text.allBlank] at h ⊢
  rw [String.toList_append, List.all_append, h, Bool.false_and]

/-! ## Changes that keep all names -/

/-- The name of a table and those of its columns. -/
def TableDefinition.names (t : TableDefinition) : String × List String :=
  (t.name, t.columns.map (·.name))

theorem TableDefinition.Proper.of_names {t u : TableDefinition} (h : t.Proper)
    (heq : u.names = t.names) : u.Proper := by
  obtain ⟨hname, hcolumns⟩ := Prod.mk.inj heq
  refine ⟨hname ▸ h.name, fun c hc => ?_, hcolumns ▸ h.distinct⟩
  have hmem := List.mem_map_of_mem (f := (·.name)) hc
  rw [hcolumns] at hmem
  obtain ⟨d, hd, hd'⟩ := List.mem_map.1 hmem
  exact hd' ▸ h.columnName d hd

namespace Model

variable {K : Type}

/-- No identity comes twice, all tables are proper and have names of their own, and the
relationships are up to date. -/
structure WellFormed (m : Model K) : Prop where
  ids : (m.tables.map (·.id)).Nodup
  proper : ProperTables (m.tables.map (·.toTableDefinition))
  relationships : m.relationships = Relationship.resolve m.tables

variable {m m' : Model K}

theorem wellFormed_withTables {ts : List (Table K)} (hids : (ts.map (·.id)).Nodup)
    (h : ProperTables (ts.map (·.toTableDefinition))) : (withTables ts).WellFormed :=
  ⟨hids, h, rfl⟩

theorem wellFormed_empty : (empty : Model K).WellFormed := ⟨List.nodup_nil, .nil, rfl⟩

theorem WellFormed.table (h : m.WellFormed) {t : Table K} (ht : t ∈ m.tables) :
    t.toTableDefinition.Proper := h.proper.proper _ (List.mem_map_of_mem ht)

theorem WellFormed.names (h : m.WellFormed) : (m.tables.map (·.name)).Nodup := by
  have hd := h.proper.distinct
  rwa [List.map_map] at hd

/-- The tables around a table have other identities. -/
theorem WellFormed.other_ids (h : m.WellFormed) {before after : List (Table K)} {t : Table K}
    (hsplit : m.tables = before ++ t :: after) : ∀ u ∈ before ++ after, u.id ≠ t.id := by
  have hids := h.ids
  rw [hsplit, List.map_append, List.map_cons, List.nodup_middle, List.nodup_cons,
    ← List.map_append] at hids
  exact fun u hu heq => hids.1 (List.mem_map.2 ⟨u, hu, heq⟩)

/-- The tables around a table have other names. -/
theorem WellFormed.other_names (h : m.WellFormed) {before after : List (Table K)} {t : Table K}
    (hsplit : m.tables = before ++ t :: after) : ∀ u ∈ before ++ after, u.name ≠ t.name := by
  have hnames := h.names
  rw [hsplit, List.map_append, List.map_cons, List.nodup_middle, List.nodup_cons,
    ← List.map_append] at hnames
  exact fun u hu heq => hnames.1 (List.mem_map.2 ⟨u, hu, heq⟩)

/-! ## Operations on whole tables -/

theorem names_addTable [Scalar K] (m : Model K) (ids : IdSupply) :
    (m.addTable ids).2.1.tables.map (·.name)
      = m.tables.map (·.name) ++ [freshName "Table" (m.tables.map (·.name))] :=
  List.map_append

/-- The starter columns have names of their own. -/
theorem proper_starter (taken : List String) :
    TableDefinition.Proper ⟨freshName "Table" taken, Table.starterColumns⟩ := by
  have hcolumns : (∀ c ∈ Table.starterColumns, Text.allBlank c.name = false) ∧
      (Table.starterColumns.map (·.name)).Nodup := by decide
  exact ⟨allBlank_append_left (by decide) _, hcolumns.1, hcolumns.2⟩

/-- The new table gets a fresh name. -/
theorem WellFormed.addTable [Scalar K] (h : m.WellFormed) {ids : IdSupply}
    (hfresh : ids.draw.1 ∉ m.tables.map (·.id)) : (m.addTable ids).2.1.WellFormed := by
  have hname := freshName_not_mem "Table" (m.tables.map (·.name))
  have hnew := proper_starter (m.tables.map (·.name))
  refine wellFormed_withTables ?_ ⟨fun t ht => ?_, ?_⟩
  · rw [List.map_append, List.map_singleton, ← List.concat_eq_append]
    exact h.ids.concat hfresh
  · rw [List.map_append, List.mem_append] at ht
    rcases ht with ht | ht
    · exact h.proper.proper t ht
    · rw [List.mem_singleton.1 ht]
      exact hnew
  · rw [List.map_map]
    show ((m.addTable ids).2.1.tables.map (·.name)).Nodup
    rw [names_addTable, ← List.concat_eq_append]
    exact h.names.concat hname

/-- Without the first table of its identity. -/
theorem eraseP_split {before after : List (Table K)} {old : Table K} {id : TableId}
    (hbefore : ∀ u ∈ before, u.id ≠ id) (hold : old.id = id) :
    ((before ++ old :: after).eraseP fun u => u.id == id) = before ++ after := by
  rw [List.eraseP_append_right, List.eraseP_cons_of_pos]
  · simp [hold]
  · intro u hu
    simpa using hbefore u hu

theorem names_withoutReferencesTo (t : Table K) (name : String) :
    ((t.withoutReferencesTo name).getD t).names = t.names ∧
      ((t.withoutReferencesTo name).getD t).id = t.id := by
  unfold Table.withoutReferencesTo
  split
  · refine ⟨?_, rfl⟩
    rw [Option.getD_some, TableDefinition.names, Table.clearReferences, List.map_map]
    refine congrArg (Prod.mk t.name) (List.map_congr_left fun c _ => ?_)
    rw [Function.comp_apply, Table.clearReference]
    split <;> rfl
  · exact ⟨rfl, rfl⟩

/-- Clearing references changes no names. -/
theorem names_removeTable {id : TableId} {removed : Table K}
    (hr : m.removeTable id = .ok (removed, m')) :
    m'.tables.map (·.name) = (m.tables.eraseP fun t => t.id == id).map (·.name) := by
  rw [removeTable_eq] at hr
  split at hr
  · cases hr
  · cases hr
    rw [withTables, List.map_map]
    refine List.map_congr_left fun u _ => ?_
    exact congrArg Prod.fst (names_withoutReferencesTo u removed.name).1

/-- Fewer tables have fewer names. -/
theorem WellFormed.removeTable (h : m.WellFormed) {id : TableId} {removed : Table K}
    (hr : m.removeTable id = .ok (removed, m')) : m'.WellFormed := by
  have hnames := names_removeTable hr
  rw [removeTable_eq] at hr
  split at hr
  · cases hr
  · rename_i t _
    cases hr
    have hsub : (m.tables.eraseP fun t => t.id == id).Sublist m.tables := List.eraseP_sublist
    refine wellFormed_withTables ?_ ⟨fun u hu => ?_, ?_⟩
    · have hids : ((m.tables.eraseP fun t => t.id == id).map
          fun t => (t.withoutReferencesTo removed.name).getD t).map (·.id)
          = (m.tables.eraseP fun t => t.id == id).map (·.id) := by
        rw [List.map_map]
        exact List.map_congr_left fun u _ => (names_withoutReferencesTo u removed.name).2
      rw [hids]
      exact h.ids.sublist (hsub.map _)
    · rw [List.map_map] at hu
      obtain ⟨v, hv, rfl⟩ := List.mem_map.1 hu
      exact (h.table (hsub.subset hv)).of_names (names_withoutReferencesTo v removed.name).1
    · have hdistinct := h.names.sublist (hsub.map (·.name))
      rw [← hnames] at hdistinct
      rwa [List.map_map]

/-- What a successful replacement does: one table gives way to one of the same identity that is
proper, and whose name no other table has. -/
theorem replaceTable_spec {id : TableId} {t : Table K} (hr : m.replaceTable id t = .ok m') :
    ∃ before old after, m.tables = before ++ old :: after ∧ (∀ u ∈ before, u.id ≠ id) ∧
      old.id = id ∧ t.id = id ∧ t.toTableDefinition.Proper ∧
      (∀ u ∈ m.tables, u.id ≠ id → u.name ≠ t.name) ∧ m' = withTables (before ++ t :: after) := by
  rw [replaceTable_eq] at hr
  split at hr
  · cases hr
  · rename_i index hindex
    split at hr
    · cases hr
    · rename_i hid
      rw [not_not] at hid
      cases hcheck : checkTable t with
      | error e => simp [hcheck] at hr
      | ok _ =>
        rw [hcheck] at hr
        dsimp only at hr
        split at hr
        · cases hr
        · rename_i htaken
          cases hr
          obtain ⟨hlt, hfound, hfirst⟩ := List.findIdx?_eq_some_iff_getElem.1 hindex
          have hbefore : ∀ u ∈ m.tables.take index, u.id ≠ id := by
            intro u hu
            obtain ⟨j, hj, rfl⟩ := List.mem_take_iff_getElem.1 hu
            simpa using hfirst j (by omega)
          have hother : ∀ u ∈ m.tables, u.id ≠ id → u.name ≠ t.name := by
            intro u hu hne heq
            rw [nameTaken, List.any_eq_true] at htaken
            exact htaken ⟨u, hu, by simp [hne, heq]⟩
          have hsplit : m.tables = m.tables.take index ++ m.tables[index] ::
              m.tables.drop (index + 1) := by
            rw [← List.drop_eq_getElem_cons, List.take_append_drop]
          have hset : m.tables.set index t = m.tables.take index ++ t ::
              m.tables.drop (index + 1) := by
            rw [List.set_eq_take_append_cons_drop, if_pos hlt]
          refine ⟨_, _, _, hsplit, hbefore, by simpa using hfound, hid, (checkTable_iff t).1 hcheck,
            hother, by rw [hset]⟩

/-- A proper table takes the place of the first one of its identity, if no table of another identity
has its name. -/
theorem replaceTable_of_split {before after : List (Table K)} {old t : Table K} {id : TableId}
    (hsplit : m.tables = before ++ old :: after) (hfirst : ∀ u ∈ before, u.id ≠ id)
    (hold : old.id = id) (hid : t.id = id) (hproper : t.toTableDefinition.Proper)
    (hfree : m.nameTaken id t.name = false) :
    m.replaceTable id t = .ok (withTables (before ++ t :: after)) := by
  have hindex : m.tables.findIdx? (fun u => u.id == id) = some before.length := by
    have hnone : before.findIdx? (fun u => u.id == id) = none :=
      List.findIdx?_eq_none_iff.2 fun u hu => beq_false_of_ne (hfirst u hu)
    rw [hsplit, List.findIdx?_append, hnone, List.findIdx?_cons]
    simp [hold]
  have hset : m.tables.set before.length t = before ++ t :: after := by simp [hsplit]
  rw [replaceTable_eq]
  rw [hindex]
  dsimp only
  rw [if_neg (not_not.2 hid), (checkTable_iff t).2 hproper]
  dsimp only
  rw [hfree, if_neg Bool.false_ne_true, hset]

theorem replaceTable_of_none {id : TableId} (h : m.table? id = none) (t : Table K) :
    m.replaceTable id t = .error (.unknownTable id) := by
  have hfind : (m.tables.findIdx? fun u => u.id == id) = none := by
    rw [List.findIdx?_eq_none_iff]
    rw [table?, List.find?_eq_none] at h
    simpa using h
  rw [replaceTable_eq]
  rw [hfind]

/-- The check for the name leaves out tables of the same identity. That is enough because there is
only one. -/
theorem WellFormed.replaceTable (h : m.WellFormed) {id : TableId} {t : Table K}
    (hr : m.replaceTable id t = .ok m') : m'.WellFormed := by
  obtain ⟨before, old, after, hsplit, -, hold, hid, hproper, hother, rfl⟩ := replaceTable_spec hr
  have hids := h.ids
  have hnames := h.names
  rw [hsplit, List.map_append, List.map_cons, List.nodup_middle, List.nodup_cons,
    ← List.map_append] at hids hnames
  have hne : ∀ u ∈ before ++ after, u.id ≠ id := hold ▸ h.other_ids hsplit
  have hmem : ∀ u ∈ before ++ after, u ∈ m.tables := by
    intro u hu
    rw [hsplit]
    rcases List.mem_append.1 hu with hu | hu
    · exact List.mem_append_left _ hu
    · exact List.mem_append_right _ (List.mem_cons_of_mem _ hu)
  refine wellFormed_withTables ?_ ⟨fun u hu => ?_, ?_⟩
  · rw [List.map_append, List.map_cons, List.nodup_middle, List.nodup_cons, ← List.map_append,
      hid, ← hold]
    exact hids
  · obtain ⟨v, hv, rfl⟩ := List.mem_map.1 hu
    rw [List.mem_append, List.mem_cons, ← or_left_comm, ← List.mem_append] at hv
    rcases hv with rfl | hv
    · exact hproper
    · exact h.table (hmem v hv)
  · rw [List.map_map, List.map_append, List.map_cons, List.nodup_middle, List.nodup_cons,
      ← List.map_append]
    refine ⟨fun hmem' => ?_, hnames.2⟩
    obtain ⟨u, hu, heq⟩ := List.mem_map.1 hmem'
    exact hother u (hmem u hu) (hne u hu) heq

/-- All tables may be replaced by tables with different identities. -/
theorem wellFormed_replaceAll {ts : List (Table K)} (hids : (ts.map (·.id)).Nodup)
    (hr : replaceAll ts = .ok m) : m.WellFormed := by
  obtain ⟨hproper, rfl⟩ := (replaceAll_iff ts m).1 hr
  exact wellFormed_withTables hids hproper

/-! ## Changes of one table -/

/-- Whatever the change is, its outcome is checked like a replacement. -/
theorem WellFormed.modifyTable (h : m.WellFormed) {id : TableId}
    {change : Table K → Except ModelError (Table K)} (hr : m.modifyTable id change = .ok m') :
    m'.WellFormed := by
  rw [modifyTable_eq] at hr
  split at hr
  · cases hr
  · split at hr
    · cases hr
    · exact h.replaceTable hr

end Model

/-- A commit is a replacement, whatever the draft has become. -/
theorem TableEditor.wellFormed_commit {K : Type} {m m' : Model K} (h : m.WellFormed)
    {e : TableEditor K} (hr : e.commit m = .ok m') : m'.WellFormed := by
  rw [TableEditor.commit_eq] at hr
  split at hr
  · cases hr
  · rename_i changed hreplace
    cases hr
    exact h.replaceTable hreplace

/-! ## Pointer events -/

namespace Canvas.Stage

variable {K : Type} [Scalar K]

theorem model_press (s : Stage K) (metrics : TableMetrics K) (position : Point K)
    (button : PointerButton) : (s.press metrics position button).model = s.model := by
  unfold press grab
  dsimp only
  split
  · split
    · rfl
    · split <;> rfl
  · rfl
  · rfl

/-- The pointer changes the schema only by moving a table. -/
theorem model_handle {s s' : Stage K} {metrics : TableMetrics K} {e : PointerEvent K} {b : Bool}
    (h : s.handle metrics e = .ok (b, s')) :
    s'.model = s.model ∨ ∃ id position, s.model.moveTable id position = .ok s'.model := by
  cases e with
  | down position button =>
    cases h
    exact Or.inl (model_press s metrics position button)
  | up =>
    cases h
    exact Or.inl rfl
  | leave =>
    cases h
    exact Or.inl rfl
  | move position =>
    rw [handle_eq] at h
    dsimp only at h
    rw [follow_eq] at h
    split at h
    · cases h
      exact Or.inl rfl
    · cases h
      exact Or.inl rfl
    · rename_i table grab _
      split at h
      · rename_i model hmove
        cases h
        exact Or.inr ⟨table, _, hmove⟩
      · cases h
        exact Or.inl rfl
      · cases h

end Canvas.Stage

end SchemaGraph
