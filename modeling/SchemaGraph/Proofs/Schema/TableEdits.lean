import SchemaGraph.Proofs.Schema.Invariant

/-!
# Changes of one table

A table can be replaced, moved, or changed in one of its columns. All of these operations build a
new table from the old one and end in one check. So one condition says when an operation is carried
out (`Edit.Accepted`), and one equation says what it leaves: the new table in the place of the old
one, all others as they were (`Model.edited_of_wellFormed`).
-/

namespace SchemaGraph

variable {K : Type}

/-! ## Operations -/

/-- An operation on one table. -/
inductive Edit (K : Type) where
  | replace (t : Table K)
  | move (position : Canvas.Point K)
  | addColumn (c : Column)
  | updateColumn (index : Nat) (c : Column)
  | removeColumn (index : Nat)
  | toggleFlag (index : Nat) (f : ColumnFlag)
  | setForeignKey (index : Nat) (target : ForeignKey)
  | clearForeignKey (index : Nat)

namespace Edit

/-- The operation on the table of the identity. -/
def run [Scalar K] (m : Model K) (id : TableId) : Edit K → Except ModelError (Model K)
  | replace t => m.replaceTable id t
  | move position => m.moveTable id position
  | addColumn c => m.addColumn id c
  | updateColumn index c => m.updateColumn id index c
  | removeColumn index => m.removeColumn id index
  | toggleFlag index f => m.toggleFlag id index f
  | setForeignKey index target => m.setForeignKey id index target
  | clearForeignKey index => m.clearForeignKey id index

/-- What the operation puts in the place of a table, or why it does not. -/
def helper [Scalar K] (t : Table K) : Edit K → Except ModelError (Table K)
  | replace u => .ok u
  | move position => .ok (t.movedTo position)
  | addColumn c => .ok (t.withColumnAdded c)
  | updateColumn index c => t.withColumnReplaced index c
  | removeColumn index => t.withColumnRemoved index
  | toggleFlag index f => t.withFlagToggled index f
  | setForeignKey index target => t.withForeignKey index (some target)
  | clearForeignKey index => t.withForeignKey index none

/-- The place of the column that the operation is about. -/
def index? : Edit K → Option Nat
  | replace _ | move _ | addColumn _ => none
  | updateColumn index _ | removeColumn index | toggleFlag index _ | setForeignKey index _
  | clearForeignKey index => some index

/-- The table after the operation, if there is a column at the place. -/
def change (t : Table K) : Edit K → Table K
  | replace u => u
  | move position => { t with position }
  | addColumn c => { t with columns := t.columns ++ [c] }
  | updateColumn index c => { t with columns := t.columns.set index c }
  | removeColumn index => { t with columns := t.columns.eraseIdx index }
  | toggleFlag index f =>
    { t with columns := t.columns.modify index fun c => c.setFlag f (!c.flag f) }
  | setForeignKey index target =>
    { t with columns := t.columns.modify index fun c => { c with foreignKey := some target } }
  | clearForeignKey index =>
    { t with columns := t.columns.modify index fun c => { c with foreignKey := none } }

/-- The operation can be carried out on the table: it has a column at the place that the operation
names, and what the operation gives is a proper table of the same identity, whose name is not that
of a table with another identity. -/
structure Accepted (m : Model K) (t : Table K) (e : Edit K) : Prop where
  index : ∀ index ∈ e.index?, index < t.columns.length
  id : (e.change t).id = t.id
  proper : (e.change t).toTableDefinition.Proper
  free : ∀ u ∈ m.tables, u.id ≠ t.id → u.name ≠ (e.change t).name

/-- A flag that is toggled twice is what it was. -/
theorem change_toggleFlag_change (index : Nat) (f : ColumnFlag) (t : Table K) :
    (toggleFlag index f).change ((toggleFlag index f).change t) = t := by
  have hcolumn : (fun c : Column => c.setFlag f (!c.flag f)) ∘
      (fun c : Column => c.setFlag f (!c.flag f)) = id := by
    funext c
    cases f <;> simp [Column.setFlag, Column.flag]
  simp [change, List.modify_modify_eq, hcolumn]

variable [Scalar K] {m : Model K} {id : TableId}

/-! ## When an operation is carried out -/

/-- Only a column that is not there keeps an operation from giving a table. -/
theorem helper_eq_ok_iff {t u : Table K} (e : Edit K) :
    e.helper t = .ok u ↔ (∀ index ∈ e.index?, index < t.columns.length) ∧ e.change t = u := by
  have hmodify : ∀ (index : Nat) (f : Column → Column), t.modifyColumn index f = .ok u ↔
      index < t.columns.length ∧ { t with columns := t.columns.modify index f } = u := by
    intro index f
    by_cases hlt : index < t.columns.length <;> simp [Table.modifyColumn, hlt]
  cases e with
  | replace v => simp [helper, index?, change]
  | move position => simp [helper, index?, change, Table.movedTo]
  | addColumn c => simp [helper, index?, change, Table.withColumnAdded]
  | updateColumn index c =>
    simp [helper, index?, change, Table.withColumnReplaced, hmodify, List.set_eq_modify]
  | removeColumn index =>
    by_cases hlt : index < t.columns.length <;>
      simp [helper, index?, change, Table.withColumnRemoved, hlt]
  | toggleFlag index f => simp [helper, index?, change, Table.withFlagToggled, hmodify]
  | setForeignKey index target => simp [helper, index?, change, Table.withForeignKey, hmodify]
  | clearForeignKey index => simp [helper, index?, change, Table.withForeignKey, hmodify]

/-- Every operation looks for the table first and ends with a replacement. -/
theorem run_eq (e : Edit K) : e.run m id = m.modifyTable id fun t => e.helper t := by
  cases e with
  | replace t =>
    cases hfind : m.table? id with
    | none => simp [run, Model.modifyTable_eq, Model.get, hfind, Model.replaceTable_of_none hfind]
    | some u => simp [run, helper, Model.modifyTable_eq, Model.get, hfind]
  | _ => rfl

theorem accepted_of_run {m' : Model K} {e : Edit K} (hr : e.run m id = .ok m') :
    ∃ t ∈ m.tables, t.id = id ∧ e.Accepted m t := by
  rw [run_eq, Model.modifyTable_eq] at hr
  split at hr
  · cases hr
  rename_i t hget
  split at hr
  · cases hr
  rename_i changed hhelper
  obtain ⟨hindex, rfl⟩ := (helper_eq_ok_iff e).1 hhelper
  obtain ⟨-, -, -, -, -, -, hkept, hproper, hfree, -⟩ := Model.replaceTable_spec hr
  have hfind : m.table? id = some t := by
    unfold Model.get at hget
    split at hget
    · cases hget
      assumption
    · cases hget
  obtain rfl : t.id = id := by simpa using List.find?_some hfind
  exact ⟨t, List.mem_of_find?_eq_some hfind, rfl, hindex, hkept, hproper, hfree⟩

/-- An operation that is accepted puts the new table in the place of the old one. -/
theorem run_of_accepted (h : m.WellFormed) {before after : List (Table K)} {t : Table K}
    (hsplit : m.tables = before ++ t :: after) {e : Edit K} (ha : e.Accepted m t) :
    e.run m t.id = .ok (.withTables (before ++ e.change t :: after)) := by
  have ht : t ∈ m.tables := hsplit ▸ List.mem_append_right _ (List.mem_cons_self ..)
  have hfind : m.table? t.id = some t :=
    (find?_key_eq_some (fun u : Table K => u.id) h.ids).2 ⟨ht, rfl⟩
  have htaken : m.nameTaken t.id (e.change t).name = false := by
    rw [Model.nameTaken, List.any_eq_false]
    intro u hu htaken
    rw [Bool.and_eq_true, bne_iff_ne, beq_iff_eq] at htaken
    exact ha.free u hu htaken.1 htaken.2
  rw [run_eq, Model.modifyTable_eq, Model.get, hfind]
  dsimp only
  rw [(helper_eq_ok_iff e).2 ⟨ha.index, rfl⟩]
  exact Model.replaceTable_of_split hsplit
    (fun u hu => (h.other_ids hsplit) u (List.mem_append_left _ hu)) rfl ha.id ha.proper htaken

/-- After a flag was toggled it can be toggled again, and that brings the schema back. -/
theorem run_toggleFlag_run (h : m.WellFormed) {index : Nat} {f : ColumnFlag} {m' : Model K}
    (hr : (toggleFlag index f).run m id = .ok m') : (toggleFlag index f).run m' id = .ok m := by
  have hback := change_toggleFlag_change (K := K) index f
  obtain ⟨t, ht, rfl, ha⟩ := accepted_of_run hr
  obtain ⟨before, after, hsplit⟩ := List.append_of_mem ht
  have hrun := run_of_accepted h hsplit ha
  obtain rfl : m' = _ := Except.ok.inj (hr.symm.trans hrun)
  have h' := h.modifyTable ((run_eq (toggleFlag index f)).symm.trans hr)
  -- the name and the columns that come back are those of a table of the schema
  have hagain : (toggleFlag index f).Accepted
      (.withTables (before ++ (toggleFlag index f).change t :: after))
      ((toggleFlag index f).change t) := by
    refine ⟨by simpa [index?, change] using ha.index, ?_, ?_, ?_⟩ <;> rw [hback]
    · rfl
    · exact h.table ht
    · intro u hu hne heq
      rw [Model.withTables, List.mem_append, List.mem_cons, or_left_comm, ← List.mem_append] at hu
      rcases hu with rfl | hu
      · exact hne rfl
      · exact h.other_names hsplit u hu heq
  have hreturn : (toggleFlag index f).run _ t.id = .ok _ := run_of_accepted h' rfl hagain
  rw [hback, ← hsplit] at hreturn
  rw [hreturn, Model.withTables, ← h.relationships]

end Edit

namespace Model

variable [Scalar K] {m : Model K}

/-- **Changes of one table are exact.** An operation on a well-formed schema is carried out when a
table has the identity and the operation is accepted for it, and in no other case. Then the table
gives way to what the operation makes of it, and all other tables stay as they are and where they
are. A flag that is toggled once more is back, and the schema with it. -/
theorem edited_of_wellFormed (h : m.WellFormed) (id : TableId) (e : Edit K) :
    ((∃ m', e.run m id = .ok m') ↔ ∃ t ∈ m.tables, t.id = id ∧ e.Accepted m t) ∧
    (∀ m', e.run m id = .ok m' → ∃ before t after, m.tables = before ++ t :: after ∧
      t.id = id ∧ (∀ u ∈ before ++ after, u.id ≠ id) ∧ e.helper t = .ok (e.change t) ∧
      m' = .withTables (before ++ e.change t :: after)) ∧
    ∀ index f m', m.toggleFlag id index f = .ok m' → m'.toggleFlag id index f = .ok m := by
  refine ⟨⟨fun ⟨m', hr⟩ => Edit.accepted_of_run hr, ?_⟩, ?_, ?_⟩
  · rintro ⟨t, ht, rfl, ha⟩
    obtain ⟨before, after, hsplit⟩ := List.append_of_mem ht
    exact ⟨_, Edit.run_of_accepted h hsplit ha⟩
  · intro m' hr
    obtain ⟨t, ht, rfl, ha⟩ := Edit.accepted_of_run hr
    obtain ⟨before, after, hsplit⟩ := List.append_of_mem ht
    have hrun := Edit.run_of_accepted h hsplit ha
    exact ⟨before, t, after, hsplit, rfl, h.other_ids hsplit,
      (Edit.helper_eq_ok_iff e).2 ⟨ha.index, rfl⟩, Except.ok.inj (hr.symm.trans hrun)⟩
  · intro index f m' hr
    exact Edit.run_toggleFlag_run h hr

/-- Shops in towns. -/
def shopsModel : Model Rat := .withTables
  [⟨⟨"towns", [⟨"id", "INT", true, true, none⟩]⟩, ⟨"t"⟩, ⟨50, 50⟩⟩,
    ⟨⟨"shops", [⟨"id", "INT", true, true, none⟩,
      ⟨"town", "INT", false, false, some ⟨"towns", "id"⟩⟩]⟩, ⟨"s"⟩, ⟨50, 170⟩⟩]

/-- A column of the shops can become mandatory, and optional again. The shops cannot take the name
of the towns, and a third column that is not there cannot be removed. -/
theorem edited_shops :
    shopsModel.WellFormed ∧
    (∃ m', shopsModel.toggleFlag ⟨"s"⟩ 1 .notNull = .ok m' ∧
      m'.tables.map (fun t => (t.name, t.columns.map (·.notNull)))
        = [("towns", [true]), ("shops", [true, true])] ∧
      m'.toggleFlag ⟨"s"⟩ 1 .notNull = .ok shopsModel) ∧
    (¬ ∃ m', shopsModel.replaceTable ⟨"s"⟩ ⟨⟨"towns", []⟩, ⟨"s"⟩, ⟨0, 0⟩⟩ = .ok m') ∧
    ¬ ∃ m', shopsModel.removeColumn ⟨"s"⟩ 2 = .ok m' := by
  have hwf : shopsModel.WellFormed :=
    wellFormed_withTables (by decide) ((checkTables_iff _).1 (by decide +kernel))
  have htoggle := edited_of_wellFormed hwf ⟨"s"⟩ (.toggleFlag 1 .notNull)
  have hrename := edited_of_wellFormed hwf ⟨"s"⟩ (.replace ⟨⟨"towns", []⟩, ⟨"s"⟩, ⟨0, 0⟩⟩)
  have hremove := edited_of_wellFormed hwf ⟨"s"⟩ (.removeColumn 2)
  obtain ⟨m', hm'⟩ := htoggle.1.2 ⟨_, List.mem_cons_of_mem _ (List.mem_cons_self ..), rfl,
    ⟨by decide, rfl, (checkTable_iff _).1 (by decide +kernel), by decide⟩⟩
  have hback := htoggle.2.2 1 .notNull m' hm'
  refine ⟨hwf, ⟨m', hm', ?_, hback⟩, fun hr => ?_, fun hr => ?_⟩
  · have hrun : (shopsModel.toggleFlag ⟨"s"⟩ 1 .notNull).map (fun m =>
        m.tables.map fun t => (t.name, t.columns.map (·.notNull)))
          = .ok [("towns", [true]), ("shops", [true, true])] := by decide +kernel
    have hm : shopsModel.toggleFlag ⟨"s"⟩ 1 .notNull = .ok m' := hm'
    rw [hm] at hrun
    exact Except.ok.inj hrun
  · obtain ⟨t, -, hid, ha⟩ := hrename.1.1 hr
    exact ha.free _ (List.mem_cons_self ..) (by rw [hid]; decide) rfl
  · obtain ⟨t, ht, hid, ha⟩ := hremove.1.1 hr
    have hlength : ∀ t ∈ shopsModel.tables, t.columns.length ≤ 2 := by decide
    exact absurd (ha.index 2 rfl) (Nat.not_lt.2 (hlength t ht))

end Model

end SchemaGraph
