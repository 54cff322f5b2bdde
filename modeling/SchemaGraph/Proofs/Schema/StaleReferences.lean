import SchemaGraph.Proofs.Schema.Refusals
import SchemaGraph.Proofs.Schema.SharedIdentities

/-!
# References that come back with a draft

When a table is removed, every reference to it in the schema is cleared. The draft of an open editor
is a copy, and keeps its references; a commit puts them into the schema again. So after a commit a
reference of the table leads nowhere exactly if its target was removed while the editor was open
(`Session.named_after_commit_iff`).
-/

namespace SchemaGraph

variable {K : Type}

/-- The references of the columns, in order. -/
def TableDefinition.references (t : TableDefinition) : List ForeignKey :=
  t.columns.filterMap (·.foreignKey)

theorem TableDefinition.mem_references {t : TableDefinition} {r : ForeignKey} :
    r ∈ t.references ↔ ∃ c ∈ t.columns, c.foreignKey = some r := List.mem_filterMap

/-! ## Changes of a draft -/

namespace Table

variable {t t' : Table K}

/-- A change of one column brings in no reference but that of the changed column. -/
theorem references_modifyColumn {index : Nat} {f : Column → Column}
    (h : t.modifyColumn index f = .ok t') {r : ForeignKey} (hr : r ∈ t'.references) :
    r ∈ t.references ∨ ∃ c, t.columns[index]? = some c ∧ (f c).foreignKey = some r := by
  unfold modifyColumn at h
  split at h
  · cases h
    obtain ⟨d, hd, hdr⟩ := TableDefinition.mem_references.1 hr
    obtain ⟨j, hj⟩ := List.mem_iff_getElem?.1 hd
    rw [List.getElem?_modify] at hj
    obtain ⟨c, hc, rfl⟩ := Option.map_eq_some_iff.1 hj
    split at hdr
    · rename_i hindex
      exact Or.inr ⟨c, hindex ▸ hc, hdr⟩
    · exact Or.inl (TableDefinition.mem_references.2 ⟨c, List.mem_of_getElem? hc, hdr⟩)
  · cases h

theorem references_withColumnRemoved {index : Nat} (h : t.withColumnRemoved index = .ok t')
    {r : ForeignKey} (hr : r ∈ t'.references) : r ∈ t.references := by
  unfold withColumnRemoved at h
  split at h
  · cases h
    obtain ⟨c, hc, hcr⟩ := TableDefinition.mem_references.1 hr
    exact TableDefinition.mem_references.2 ⟨c, List.mem_of_mem_eraseIdx hc, hcr⟩
  · cases h

theorem id_modifyColumn {index : Nat} {f : Column → Column} (h : t.modifyColumn index f = .ok t') :
    t'.id = t.id := by
  unfold modifyColumn at h
  split at h
  · cases h
    rfl
  · cases h

theorem id_withColumnRemoved {index : Nat} (h : t.withColumnRemoved index = .ok t') :
    t'.id = t.id := by
  unfold withColumnRemoved at h
  split at h
  · cases h
    rfl
  · cases h

end Table

namespace TableEditor

/-- The step keeps the name and the identity of the draft, and the draft gets no references but to
the tables named. -/
structure Refers (names : List String) (e e' : TableEditor K) : Prop where
  id : e'.draft.id = e.draft.id
  name : e'.draft.name = e.draft.name
  references : ∀ r ∈ e'.draft.references, r ∈ e.draft.references ∨ r.table ∈ names

variable {names : List String} {e e' : TableEditor K}

theorem draft_of_changeDraft {change : Table K → Except ModelError (Table K)}
    (h : (InPlace.changeDraft change).result e = .ok e') : change e.draft = .ok e'.draft := by
  rw [InPlace.changeDraft_result] at h
  split at h
  · cases h
  · cases h
    assumption

theorem refers_modifyColumn {index : Nat} {f : Column → Column}
    (h : (InPlace.changeDraft fun t => t.modifyColumn index f).result e = .ok e')
    (hf : ∀ c r, e.draft.columns[index]? = some c → (f c).foreignKey = some r →
      c.foreignKey = some r ∨ r.table ∈ names) : e.Refers names e' := by
  have hdraft := draft_of_changeDraft h
  refine ⟨Table.id_modifyColumn hdraft, Table.name_modifyColumn hdraft, fun r hr => ?_⟩
  rcases Table.references_modifyColumn hdraft hr with hold | ⟨c, hc, hcr⟩
  · exact Or.inl hold
  · rcases hf c r hc hcr with hkept | hnew
    · exact Or.inl (TableDefinition.mem_references.2 ⟨c, List.mem_of_getElem? hc, hkept⟩)
    · exact Or.inr hnew

theorem refers_removeColumn {index : Nat}
    (h : (InPlace.removeColumn index).result e = .ok e') : e.Refers names e' := by
  have hdraft := draft_of_changeDraft h
  exact ⟨Table.id_withColumnRemoved hdraft, Table.name_withColumnRemoved hdraft, fun r hr =>
    Or.inl (Table.references_withColumnRemoved hdraft hr)⟩

theorem refers_addColumn : e.Refers names e.addColumn := by
  refine ⟨rfl, rfl, fun r hr => Or.inl ?_⟩
  obtain ⟨c, hc, hcr⟩ := TableDefinition.mem_references.1 hr
  rcases List.mem_append.1 hc with hc | hc
  · exact TableDefinition.mem_references.2 ⟨c, hc, hcr⟩
  · rw [List.mem_singleton.1 hc] at hcr
    cases hcr

theorem refers_toggleFlag {index : Nat} {f : ColumnFlag}
    (h : (InPlace.toggleFlag index f).result e = .ok e') : e.Refers names e' := by
  refine refers_modifyColumn h fun c r _ hcr => Or.inl ?_
  cases f <;> exact hcr

/-- A reference is set only to a table that is there. -/
theorem refers_setForeignKey {m : Model K} {index : Nat} {target : ForeignKey}
    (h : (InPlace.setForeignKey m index target).result e = .ok e') :
    e.Refers (m.tables.map (·.name)) e' := by
  rw [InPlace.setForeignKey_result] at h
  split at h
  · rename_i htarget
    refine refers_modifyColumn h fun c r _ hcr => Or.inr ?_
    cases hcr
    rw [List.contains_iff_mem, foreignKeyTargets, List.mem_flatMap] at htarget
    obtain ⟨t, ht, hcolumn⟩ := htarget
    obtain ⟨d, -, rfl⟩ := List.mem_map.1 hcolumn
    exact List.mem_map_of_mem (List.mem_filter.1 ht).1
  · cases h

theorem refers_clearForeignKey {index : Nat}
    (h : (InPlace.clearForeignKey index).result e = .ok e') : e.Refers names e' :=
  refers_modifyColumn h fun _ _ _ hcr => by cases hcr

end TableEditor

/-! ## Changes of the schema -/

namespace Model

variable {m m' : Model K} {id : TableId}

/-- Without a table, its name is not there any more, and everything else is. -/
theorem DistinctNames.mem_removeTable (h : m.DistinctNames) {removed : Table K}
    (hr : m.removeTable id = .ok (removed, m')) (name : String) :
    name ∈ m'.tables.map (·.name) ↔ name ∈ m.tables.map (·.name) ∧ name ≠ removed.name := by
  have hfind : m.table? id = some removed := by
    rw [removeTable_eq] at hr
    split at hr
    · cases hr
    · cases hr
      assumption
  obtain ⟨hid, before, after, hsplit, hbefore⟩ := List.find?_eq_some_iff_append.1 hfind
  rw [DistinctNames, hsplit, List.map_append, List.map_cons, List.nodup_middle, List.nodup_cons,
    ← List.map_append] at h
  rw [names_removeTable hr, hsplit, eraseP_split (by simpa using hbefore) (eq_of_beq hid)]
  simp only [List.map_append, List.map_cons, List.mem_append, List.mem_cons] at h ⊢
  constructor
  · intro hmem
    refine ⟨by tauto, ?_⟩
    rintro rfl
    exact h.1 hmem
  · rintro ⟨hmem, hne⟩
    tauto

/-- The removal of another table leaves the name of this one. -/
theorem name_removeTable {other : TableId} (hne : other ≠ id) {removed : Table K}
    (hr : m.removeTable other = .ok (removed, m')) :
    (m'.table? id).map (·.name) = (m.table? id).map (·.name) := by
  rw [removeTable_eq] at hr
  cases hfind : m.table? other with
  | none => simp [hfind] at hr
  | some t =>
    rw [hfind] at hr
    cases hr
    obtain ⟨hid, before, after, hsplit, hbefore⟩ := List.find?_eq_some_iff_append.1 hfind
    have hskip : (removed.id == id) = false := by
      rw [eq_of_beq hid]
      simpa using hne
    have herase : ((before ++ removed :: after).eraseP fun u => u.id == other)
        = before ++ after := eraseP_split (by simpa using hbefore) (eq_of_beq hid)
    rw [table?, table?, withTables, List.find?_map, hsplit, herase, Option.map_map,
      List.find?_append, List.find?_append, List.find?_cons_of_neg (by simpa using hskip)]
    have hsame : (fun t : Table K => t.id == id) ∘
        (fun t : Table K => (t.withoutReferencesTo removed.name).getD t) = fun t => t.id == id :=
      funext fun t => by rw [Function.comp_apply, (names_withoutReferencesTo t removed.name).2]
    rw [hsame]
    refine congrArg (fun f => Option.map f _) (funext fun t => ?_)
    exact congrArg Prod.fst (names_withoutReferencesTo t removed.name).1

/-- A replacement by a table of the same name changes no names. -/
theorem names_replaceTable {t : Table K} (hr : m.replaceTable id t = .ok m')
    (hname : (m.table? id).map (·.name) = some t.name) :
    m'.tables.map (·.name) = m.tables.map (·.name) ∧ m'.table? id = some t := by
  obtain ⟨before, old, after, hsplit, hbefore, hold, hid, -, -, rfl⟩ := replaceTable_spec hr
  have hfind : ∀ u : Table K, u.id = id →
      (before ++ u :: after).find? (fun u => u.id == id) = some u := fun u hu =>
    List.find?_eq_some_iff_append.2 ⟨by simp [hu], before, after, rfl, by simpa using hbefore⟩
  rw [table?, hsplit, hfind old hold, Option.map_some, Option.some_inj] at hname
  refine ⟨?_, hfind t hid⟩
  rw [hsplit, withTables, List.map_append, List.map_append, List.map_cons, List.map_cons, hname]

end Model

/-! ## Sessions -/

namespace Session

/-- What may happen while the table of the identity is edited: it is not renamed, its references are
changed only by being set or cleared one by one, and other tables are removed. -/
def WhileEditing (s : Session K) (id : TableId) : Action K → Prop
  | .editAddColumn | .editRemoveColumn _ | .editToggleFlag _ _ | .editSetForeignKey _ _
  | .editClearForeignKey _ | .commit => True
  | .editRename name => ∀ e, s.editor = some e → name = e.draft.name
  | .editUpdateColumn index c => ∀ e old, s.editor = some e → e.draft.columns[index]? = some old →
    c.foreignKey = old.foreignKey
  | .removeTable other => other ≠ id
  | _ => False

/-- The name of the table that the action removes, if it removes one. -/
def removedBy (s : Session K) : Action K → List String
  | .removeTable id => ((s.workspace.model.table? id).map (·.name)).toList
  | _ => []

/-- An editor is at work on the table of the identity. `opened` are the names of the tables when it
was opened, and `removed` those of the tables that were removed since. -/
structure EditorAt (opened removed : List String) (id : TableId) (s : Session K) : Prop where
  distinct : s.workspace.model.DistinctNames
  names : ∀ name, name ∈ s.workspace.model.tables.map (·.name) ↔ name ∈ opened ∧ name ∉ removed
  editor : ∃ e, s.editor = some e ∧ e.draft.id = id ∧
    (s.workspace.model.table? id).map (·.name) = some e.draft.name ∧
    ∀ r ∈ e.draft.references, r.table ∈ opened

section
variable {s : Session K} {opened removed : List String} {id : TableId}

theorem EditorAt.onEditor (h : EditorAt opened removed id s)
    {p : Method (TableEditor K) EditorError Unit} (hp : p.Atomic)
    (hstep : ∀ e e', s.editor = some e → p.result e = .ok e' →
      e.Refers (s.workspace.model.tables.map (·.name)) e') :
    EditorAt opened removed id (s.onEditor p).2 := by
  obtain ⟨e, he, hid, hname, hrefs⟩ := h.editor
  rw [onEditor_eq hp, he]
  dsimp only
  cases hresult : p.result e with
  | error reason => exact h
  | ok e' =>
    obtain ⟨hid', hname', hrefs'⟩ := hstep e e' he hresult
    refine ⟨h.distinct, h.names, e', rfl, hid'.trans hid, hname' ▸ hname, fun r hr => ?_⟩
    rcases hrefs' r hr with hold | hnew
    · exact hrefs r hold
    · exact ((h.names r.table).1 hnew).1

/-- A commit that is carried out puts the draft into the schema, and changes no names. -/
theorem EditorAt.commit_spec (h : EditorAt opened removed id s) {a : Answer K}
    (hok : s.commit.1 = .ok a) :
    ∃ e t, s.editor = some e ∧ s.commit.2.editor = some e ∧ t.columns = e.draft.columns ∧
      s.commit.2.workspace.model.table? id = some t ∧ t.name = e.draft.name ∧
      s.commit.2.workspace.model.tables.map (·.name) = s.workspace.model.tables.map (·.name) := by
  obtain ⟨e, he, hid, hname, -⟩ := h.editor
  rw [commit_eq, he] at hok ⊢
  dsimp only at hok ⊢
  rw [TableEditor.commit_eq, hid] at hok ⊢
  cases hreplace : s.workspace.model.replaceTable id (e.placedDraft s.workspace.model) with
  | error reason =>
    rw [hreplace] at hok
    cases hok
  | ok m =>
    obtain ⟨hnames, hfind⟩ := Model.names_replaceTable hreplace hname
    exact ⟨e, e.placedDraft s.workspace.model, rfl, he, rfl, hfind, rfl, hnames⟩

theorem EditorAt.commit (h : EditorAt opened removed id s) :
    EditorAt opened removed id s.commit.2 := by
  cases hresult : s.commit.1 with
  | error e =>
    rw [keeps_commit e hresult]
    exact h
  | ok a =>
    obtain ⟨e, t, he, he', -, hfind, hname, hnames⟩ := h.commit_spec hresult
    obtain ⟨e₀, he₀, hid, -, hrefs⟩ := h.editor
    cases he.symm.trans he₀
    refine ⟨?_, fun name => ?_, e, he', hid, ?_, hrefs⟩
    · rw [Model.DistinctNames, hnames]
      exact h.distinct
    · rw [hnames]
      exact h.names name
    · rw [hfind, Option.map_some, hname]

end

variable [Scalar K] {s : Session K} {opened removed : List String} {id : TableId}

/-- A removal takes the name of the table away, and leaves the draft as it is. -/
theorem EditorAt.removeTable (h : EditorAt opened removed id s) {other : TableId}
    (hne : other ≠ id) :
    EditorAt opened (removed ++ s.removedBy (.removeTable other)) id
      (s.act (.removeTable other)).2 := by
  have hby : s.removedBy (.removeTable other)
      = ((s.workspace.model.table? other).map (·.name)).toList := rfl
  rw [hby]
  rw [act_removeTable]
  cases hremove : s.workspace.model.removeTable other with
  | error e =>
    have hnone : s.workspace.model.table? other = none := by
      rw [Model.removeTable_eq] at hremove
      split at hremove
      · assumption
      · cases hremove
    rw [hnone]
    simpa [refuse] using h
  | ok r =>
    obtain ⟨gone, m⟩ := r
    have hgone : s.workspace.model.table? other = some gone := by
      rw [Model.removeTable_eq] at hremove
      split at hremove
      · cases hremove
      · cases hremove
        assumption
    obtain ⟨e, he, hid, hname, hrefs⟩ := h.editor
    rw [hgone]
    refine ⟨h.distinct.removeTable hremove, fun name => ?_, e, he, hid, ?_, hrefs⟩
    · refine (h.distinct.mem_removeTable hremove name).trans ?_
      rw [h.names name]
      simp [and_assoc]
    · exact (Model.name_removeTable hne hremove).trans hname

/-- What an action does to the names of the tables and to the references of the draft. -/
theorem EditorAt.act (h : EditorAt opened removed id s) {a : Action K}
    (ha : s.WhileEditing id a) :
    EditorAt opened (removed ++ s.removedBy a) id (s.act a).2 := by
  have hnone : ∀ s' : Session K, EditorAt opened removed id s' →
      EditorAt opened (removed ++ []) id s' := by simp
  cases a with
  | removeTable other => exact h.removeTable ha
  | commit =>
    exact hnone _ h.commit
  | editRename name =>
    refine hnone _ (h.onEditor (Method.succeeds_modify _).atomic fun e e' he hstep => ?_)
    cases hstep
    exact ⟨rfl, ha e he, fun r hr => Or.inl hr⟩
  | editAddColumn =>
    have hadd : (s.act .editAddColumn).2 = (s.onEditor (modify fun e => e.addColumn)).2 := by
      rw [Session.act, editAddColumn, Session.onEditor]
      cases s.editor <;> rfl
    rw [hadd]
    refine hnone _ (h.onEditor (Method.succeeds_modify _).atomic fun e e' _ hstep => ?_)
    cases hstep
    exact TableEditor.refers_addColumn
  | editUpdateColumn index c =>
    refine hnone _ (h.onEditor (TableEditor.InPlace.atomic_changeDraft _) fun e e' he hstep =>
      TableEditor.refers_modifyColumn hstep ?_)
    intro old r hold hr
    exact Or.inl ((ha e old he hold) ▸ hr)
  | editRemoveColumn index =>
    exact hnone _ (h.onEditor (TableEditor.InPlace.atomic_changeDraft _) fun _ _ _ =>
      TableEditor.refers_removeColumn)
  | editToggleFlag index f =>
    exact hnone _ (h.onEditor (TableEditor.InPlace.atomic_changeDraft _) fun _ _ _ =>
      TableEditor.refers_toggleFlag)
  | editSetForeignKey index target =>
    exact hnone _ (h.onEditor (TableEditor.InPlace.atomic_setForeignKey _ index target) fun _ _ _ =>
      TableEditor.refers_setForeignKey)
  | editClearForeignKey index =>
    exact hnone _ (h.onEditor (TableEditor.InPlace.atomic_changeDraft _) fun _ _ _ =>
      TableEditor.refers_clearForeignKey)
  | _ => exact ha.elim

/-! ## Runs -/

/-- Each action of the run may happen while the table of the identity is edited. -/
def EditingRun (s : Session K) (id : TableId) : List (Action K) → Prop
  | [] => True
  | a :: rest => s.WhileEditing id a ∧ EditingRun (s.act a).2 id rest

/-- The names of the tables that the run removes. -/
def removedNames (s : Session K) : List (Action K) → List String
  | [] => []
  | a :: rest => s.removedBy a ++ removedNames (s.act a).2 rest

theorem EditorAt.run (h : EditorAt opened removed id s) {actions : List (Action K)}
    (ha : s.EditingRun id actions) :
    EditorAt opened (removed ++ s.removedNames actions) id (s.run actions) := by
  induction actions generalizing s removed with
  | nil =>
    rw [removedNames, List.append_nil]
    exact h
  | cons a actions ih =>
    rw [removedNames, ← List.append_assoc]
    exact ih (h.act ha.1) ha.2

/-- An editor is opened on a schema in which every reference names a table. -/
theorem EditorAt.openEditor (hd : s.workspace.model.DistinctNames)
    (hnamed : ∀ t ∈ s.workspace.model.tables, ∀ r ∈ t.references,
      r.table ∈ s.workspace.model.tables.map (·.name))
    (hid : (s.workspace.model.table? id).isSome) :
    EditorAt (s.workspace.model.tables.map (·.name)) [] id (s.act (.openEditor id)).2 := by
  obtain ⟨t, ht⟩ := Option.isSome_iff_exists.1 hid
  have hact : (s.act (.openEditor id)).2 = { s with editor := some ⟨t, t⟩ } := by
    simp only [Session.act, Session.openEditor, TableEditor.start, Model.get, ht]
    rfl
  rw [hact]
  refine ⟨hd, fun name => by simp, ⟨t, t⟩, rfl, ?_, by rw [ht]; rfl, ?_⟩
  · simpa using List.find?_some ht
  · exact hnamed t (List.mem_of_find?_eq_some ht)

/-- **References that come back.** An editor is opened on a table of a schema in which every
reference names a table. Its draft is edited and committed, without another name and with no
references but those that are set in it, and other tables are removed. After every commit that is
carried out the table has the columns of the draft, and a reference of it names a table exactly if
no table of that name was removed since the editor was opened. -/
theorem named_after_commit_iff (hd : s.workspace.model.DistinctNames)
    (hnamed : ∀ t ∈ s.workspace.model.tables, ∀ r ∈ t.references,
      r.table ∈ s.workspace.model.tables.map (·.name))
    (hid : (s.workspace.model.table? id).isSome) {actions : List (Action K)}
    (ha : (s.act (.openEditor id)).2.EditingRun id actions) {a : Answer K}
    (hok : ((s.run (.openEditor id :: actions)).act .commit).1 = .ok a) :
    let after := ((s.run (.openEditor id :: actions)).act .commit).2
    ∃ e t, after.editor = some e ∧ after.workspace.model.table? id = some t ∧
      t.columns = e.draft.columns ∧
      ∀ r ∈ t.references, r.table ∈ after.workspace.model.tables.map (·.name) ↔
        r.table ∉ (s.act (.openEditor id)).2.removedNames actions := by
  extract_lets after
  have hrun := (EditorAt.openEditor hd hnamed hid).run ha
  rw [List.nil_append] at hrun
  obtain ⟨e, t, he, he', hcolumns, hfind, -, hnames⟩ := hrun.commit_spec hok
  obtain ⟨e₀, he₀, -, -, hrefs⟩ := hrun.editor
  cases he.symm.trans he₀
  refine ⟨e, t, he', hfind, hcolumns, fun r hr => ?_⟩
  have hopened : r.table ∈ s.workspace.model.tables.map (·.name) := by
    refine hrefs r ?_
    rw [TableDefinition.references, hcolumns] at hr
    exact hr
  have hafter : after.workspace.model.tables.map (·.name)
      = ((s.act (.openEditor id)).2.run actions).workspace.model.tables.map (·.name) := hnames
  rw [hafter]
  exact (hrun.names r.table).trans (and_iff_right hopened)

/-- People, and pets with a reference to their owners. -/
def ownersSession : Session Rat :=
  ofWorkspace ((Workspace.ofConfig .standard ⟨0, 0⟩).withModel (.withTables
    [⟨⟨"users", [⟨"id", "INT", true, true, none⟩]⟩, ⟨"u"⟩, ⟨0, 0⟩⟩,
      ⟨⟨"pets", [⟨"owner_id", "INT", false, false, some ⟨"users", "id"⟩⟩]⟩, ⟨"p"⟩, ⟨0, 0⟩⟩]))

/-- The people are removed while the pets are edited. The commit is carried out, and the pets refer
to the people again. -/
theorem named_after_commit_ownersSession :
    let s := ownersSession.run [.openEditor ⟨"p"⟩, .removeTable ⟨"u"⟩]
    s.workspace.model.tables.map (·.references) = [[]] ∧
      (s.act .commit).2.workspace.model.tables.map (fun t => (t.name, t.references))
        = [("pets", [⟨"users", "id"⟩])] ∧
      "users" ∉ (s.act .commit).2.workspace.model.tables.map (·.name) := by
  have hd : ownersSession.workspace.model.DistinctNames := by
    unfold Model.DistinctNames
    decide +kernel
  have hnamed : ∀ t ∈ ownersSession.workspace.model.tables, ∀ r ∈ t.references,
      r.table ∈ ownersSession.workspace.model.tables.map (·.name) := by decide +kernel
  have hopen : (ownersSession.workspace.model.table? ⟨"p"⟩).isSome := by decide +kernel
  have hrun : (ownersSession.act (.openEditor ⟨"p"⟩)).2.EditingRun ⟨"p"⟩ [.removeTable ⟨"u"⟩] :=
    ⟨by unfold WhileEditing; decide, trivial⟩
  have hok : ((ownersSession.run [.openEditor ⟨"p"⟩, .removeTable ⟨"u"⟩]).act .commit).1
      = .ok .done := by rfl
  refine ⟨by decide +kernel, by decide +kernel, fun hmem => ?_⟩
  obtain ⟨e, t, -, hfind, -, hiff⟩ := named_after_commit_iff hd hnamed hopen hrun hok
  have hrefs : (((ownersSession.run [.openEditor ⟨"p"⟩, .removeTable ⟨"u"⟩]).act
      .commit).2.workspace.model.table? ⟨"p"⟩).map (·.references) = some [⟨"users", "id"⟩] := by
    decide +kernel
  have hrefs' : t.references = [⟨"users", "id"⟩] := by
    rw [hfind] at hrefs
    exact Option.some.inj hrefs
  have hkept := (hiff ⟨"users", "id"⟩ (by simp [hrefs'])).1 hmem
  exact hkept (by decide +kernel)

end Session

end SchemaGraph
