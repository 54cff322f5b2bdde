import SchemaGraph.Proofs.Schema.Refusals
import SchemaGraph.Proofs.Schema.Runs

/-!
# Editing a table while tables are moved

An editor works on a copy of a table, which holds the place where the table lay when it was opened.
Tables may be moved in the meantime. A commit takes the place from the schema and everything else
from the draft, so the two do not get in each other's way: it makes no difference whether the moves
come before the commit or after it (`Session.commit_run_interleaved`).
-/

namespace SchemaGraph

variable {K : Type}

/-! ## Tables at another place -/

namespace Model

/-- The table at another place, if it has the identity. -/
def placeTable (id : TableId) (position : Canvas.Point K) (t : Table K) : Table K :=
  if t.id = id then t.movedTo position else t

/-- The schema with the table of the identity at another place. -/
def placeAt (m : Model K) (id : TableId) (position : Canvas.Point K) : Model K :=
  withTables (m.tables.map (placeTable id position))

variable {m : Model K} {id other : TableId} {position : Canvas.Point K}

@[simp] theorem id_placeTable (t : Table K) : (placeTable id position t).id = t.id := by
  unfold placeTable
  split <;> rfl

@[simp] theorem toTableDefinition_placeTable (t : Table K) :
    (placeTable id position t).toTableDefinition = t.toTableDefinition := by
  unfold placeTable
  split <;> rfl

theorem table?_placeAt (m : Model K) (other : TableId) :
    (m.placeAt id position).table? other = (m.table? other).map (placeTable id position) := by
  have hid : (fun t : Table K => t.id == other) ∘ placeTable id position = fun t => t.id == other :=
    funext fun t => by rw [Function.comp_apply, id_placeTable]
  rw [table?, placeAt, withTables, List.find?_map, hid, table?]

theorem nameTaken_placeAt (m : Model K) (other : TableId) (name : String) :
    (m.placeAt id position).nameTaken other name = m.nameTaken other name := by
  simp [nameTaken, placeAt, withTables, Function.comp_def]

/-- No check looks at places, so a replacement does the same before a move and after it. -/
theorem replaceTable_placeAt (m : Model K) (other : TableId) (t : Table K) :
    (m.placeAt id position).replaceTable other (placeTable id position t)
      = (m.replaceTable other t).map fun changed => changed.placeAt id position := by
  have hfind : (m.placeAt id position).tables.findIdx? (fun u => u.id == other)
      = m.tables.findIdx? fun u => u.id == other := by
    simp [placeAt, withTables, List.findIdx?_map, Function.comp_def]
  have hcheck : checkTable (placeTable id position t) = checkTable t := by
    simp only [checkTable, toTableDefinition_placeTable]
  rw [replaceTable_eq, replaceTable_eq, hfind, hcheck, nameTaken_placeAt, id_placeTable,
    toTableDefinition_placeTable]
  cases m.tables.findIdx? fun u => u.id == other with
  | none => rfl
  | some index =>
    dsimp only
    by_cases hid : t.id = other
    · rw [if_neg (not_not.2 hid), if_neg (not_not.2 hid)]
      cases checkTable t with
      | error e => rfl
      | ok _ =>
        dsimp only
        split
        · rfl
        · simp [Except.map, placeAt, withTables, List.map_set]
    · rw [if_pos hid, if_pos hid]
      rfl

/-- A proper table can take the place of the one with its identity, if no other table has its
name. -/
theorem exists_replaceTable {t : Table K} (hmem : id ∈ m.tables.map (·.id)) (hid : t.id = id)
    (hproper : t.toTableDefinition.Proper) (hname : m.nameTaken id t.name = false) :
    ∃ m', m.replaceTable id t = .ok m' := by
  obtain ⟨u, hu, huid⟩ := List.mem_map.1 hmem
  have hsome : (m.tables.findIdx? fun u => u.id == id).isSome := by
    rw [List.findIdx?_isSome, List.any_eq_true]
    exact ⟨u, hu, by simp [huid]⟩
  obtain ⟨index, hindex⟩ := Option.isSome_iff_exists.1 hsome
  rw [replaceTable_eq]
  simp [hindex, hid, (checkTable_iff t).2 hproper, hname]

/-- Where no two tables share an identity, a replacement is a change of each table with it. -/
theorem WellFormed.replaceTable_eq {m' : Model K} (h : m.WellFormed) {t : Table K}
    (hr : m.replaceTable id t = .ok m') :
    m' = withTables (m.tables.map fun u => if u.id = id then t else u) := by
  obtain ⟨before, old, after, hsplit, -, hold, -, -, -, rfl⟩ := replaceTable_spec hr
  have hids := h.ids
  rw [hsplit, List.map_append, List.map_cons, List.nodup_middle, List.nodup_cons,
    ← List.map_append, hold] at hids
  have hkeep : ∀ us, us ⊆ before ++ after → us.map (fun u => if u.id = id then t else u) = us := by
    intro us hsub
    refine (List.map_congr_left fun u hu => if_neg fun heq => ?_).trans (List.map_id us)
    exact hids.1 (List.mem_map.2 ⟨u, hsub hu, heq⟩)
  rw [hsplit, List.map_append, List.map_cons, if_pos hold,
    hkeep before (List.subset_append_left ..), hkeep after (List.subset_append_right ..)]

/-- A move in a well-formed schema is refused only if the table is not there. Then there is nothing
to be placed either. -/
theorem WellFormed.moveTable (h : m.WellFormed) (id : TableId) (position : Canvas.Point K) :
    (m.moveTable id position = .error (.unknownTable id) ∧ m.placeAt id position = m) ∨
      m.moveTable id position = .ok (m.placeAt id position) := by
  cases hfind : m.table? id with
  | none =>
    refine Or.inl ⟨by simp [moveTable_eq, modifyTable_eq, Model.get, hfind], ?_⟩
    rw [Model.table?, List.find?_eq_none] at hfind
    have hkeep : m.tables.map (placeTable id position) = m.tables := by
      refine (List.map_congr_left fun t ht => if_neg ?_).trans (List.map_id m.tables)
      simpa using hfind t ht
    rw [placeAt, hkeep, withTables, ← h.relationships]
  | some t =>
    have ht : t ∈ m.tables := List.mem_of_find?_eq_some hfind
    have hid : t.id = id := by simpa using List.find?_some hfind
    have hproper : t.toTableDefinition.Proper := h.table ht
    have hfree : m.nameTaken id t.name = false := by
      rw [nameTaken, List.any_eq_false]
      intro u hu htaken
      rw [Bool.and_eq_true, bne_iff_ne, beq_iff_eq] at htaken
      have heq : u = t := List.inj_on_of_nodup_map h.names hu ht htaken.2
      exact htaken.1 (heq ▸ hid)
    obtain ⟨m', hm'⟩ := exists_replaceTable (t := t.movedTo position)
      (List.mem_map.2 ⟨t, ht, hid⟩) hid hproper hfree
    refine Or.inr ?_
    have hplace : m.tables.map (fun u => if u.id = id then t.movedTo position else u)
        = m.tables.map (placeTable id position) := by
      refine List.map_congr_left fun u hu => ?_
      rw [placeTable]
      split
      · rename_i huid
        rw [List.inj_on_of_nodup_map h.ids hu ht (huid.trans hid.symm)]
      · rfl
    simp only [moveTable_eq, modifyTable_eq, Model.get, hfind]
    rw [hm', h.replaceTable_eq hm', hplace, placeAt]

end Model

/-! ## Commits -/

namespace TableEditor

variable {m : Model K} {id : TableId} {position : Canvas.Point K}

/-- What is put into the schema lies where the table lies, so it is moved with it. -/
theorem placedDraft_placeAt (e : TableEditor K) {t : Table K} (h : m.table? e.draft.id = some t) :
    e.placedDraft (m.placeAt id position) = Model.placeTable id position (e.placedDraft m) := by
  have hid : t.id = e.draft.id := by simpa using List.find?_some h
  simp only [placedDraft, Model.table?_placeAt, h, Option.map_some, Option.getD_some,
    Model.placeTable, hid, Table.movedTo]
  split <;> rfl

/-- A commit after a move does what the move does after the commit. -/
theorem commit_placeAt (e : TableEditor K) (m : Model K) :
    e.commit (m.placeAt id position)
      = (e.commit m).map fun changed => changed.placeAt id position := by
  rw [commit_eq, commit_eq]
  cases hfind : m.table? e.draft.id with
  | none =>
    have hfind' : (m.placeAt id position).table? e.draft.id = none := by
      rw [Model.table?_placeAt, hfind]
      rfl
    rw [Model.replaceTable_of_none hfind, Model.replaceTable_of_none hfind']
    rfl
  | some t =>
    rw [e.placedDraft_placeAt hfind, Model.replaceTable_placeAt]
    cases m.replaceTable e.draft.id (e.placedDraft m) <;> rfl

/-- What a column may refer to does not depend on where tables lie. -/
theorem setForeignKey_placeAt (m : Model K) (index : Nat) (target : ForeignKey) :
    InPlace.setForeignKey (m.placeAt id position) index target
      = InPlace.setForeignKey m index target := by
  have htargets : ∀ e : TableEditor K,
      e.foreignKeyTargets (m.placeAt id position) = e.foreignKeyTargets m := by
    intro e
    simp [foreignKeyTargets, Model.placeAt, Model.withTables, List.filter_map, List.flatMap_map,
      Function.comp_def]
  refine bind_congr fun e => ?_
  rw [htargets]

end TableEditor

/-! ## Sessions -/

/-- The action works on the draft of the open editor. -/
def Action.isEdit : Action K → Bool
  | .editRename _ | .editAddColumn | .editUpdateColumn _ _ | .editRemoveColumn _
  | .editToggleFlag _ _ | .editSetForeignKey _ _ | .editClearForeignKey _ => true
  | _ => false

/-- The action moves a table of the schema. -/
def Action.isMove : Action K → Bool
  | .moveTable _ _ => true
  | _ => false

theorem Action.isMove_of_isEdit {a : Action K} (h : a.isEdit = true) : a.isMove = false := by
  cases a <;> first | rfl | cases h

theorem Action.exists_of_isMove {a : Action K} (h : a.isMove = true) :
    ∃ id position, a = .moveTable id position := by
  cases a with
  | moveTable id position => exact ⟨id, position, rfl⟩
  | _ => cases h

namespace Session

/-- The session with the table of the identity at another place. -/
def placeAt (s : Session K) (id : TableId) (position : Canvas.Point K) : Session K :=
  s.withWorkspace (s.workspace.withModel (s.workspace.model.placeAt id position))

/-- The outcome with the table of the identity at another place. -/
def Outcome.placeAt (o : Outcome K) (id : TableId) (position : Canvas.Point K) : Outcome K :=
  (o.1, o.2.placeAt id position)

section
variable (s : Session K) (id : TableId) (position : Canvas.Point K)

theorem onEditor_placeAt (p : Method (TableEditor K) EditorError Unit) :
    (s.placeAt id position).onEditor p = (s.onEditor p).placeAt id position := by
  obtain ⟨w, editor⟩ := s
  cases editor with
  | none => rfl
  | some e =>
    simp only [onEditor, placeAt, withWorkspace]
    rcases p.call e with ⟨_ | _, _⟩ <;> rfl

theorem editAddColumn_placeAt :
    (s.placeAt id position).editAddColumn = s.editAddColumn.placeAt id position := by
  obtain ⟨w, editor⟩ := s
  cases editor <;> rfl

theorem commit_placeAt :
    (s.placeAt id position).commit = s.commit.placeAt id position := by
  obtain ⟨w, editor⟩ := s
  rw [commit_eq, commit_eq]
  cases editor with
  | none => rfl
  | some e =>
    simp only [placeAt, withWorkspace, Workspace.withModel, e.commit_placeAt]
    cases e.commit w.model <;> rfl

end

variable [Scalar K] {s : Session K}

/-- An edit does the same wherever the tables lie. -/
theorem act_placeAt {a : Action K} (ha : a.isEdit = true) (s : Session K) (id : TableId)
    (position : Canvas.Point K) :
    (s.placeAt id position).act a = (s.act a).placeAt id position := by
  cases a with
  | editRename name => rw [act, act, onEditor_placeAt]
  | editAddColumn => rw [act, act, editAddColumn_placeAt]
  | editUpdateColumn index c => rw [act, act, onEditor_placeAt]
  | editRemoveColumn index => rw [act, act, onEditor_placeAt]
  | editToggleFlag index f => rw [act, act, onEditor_placeAt]
  | editSetForeignKey index target =>
    have htargets := @TableEditor.setForeignKey_placeAt K id position s.workspace.model index target
    rw [act, act, ← onEditor_placeAt, ← htargets]
    rfl
  | editClearForeignKey index => rw [act, act, onEditor_placeAt]
  | _ => cases ha

theorem workspace_edit {a : Action K} (ha : a.isEdit = true) (s : Session K) :
    (s.act a).2.workspace = s.workspace := by
  cases a with
  | editAddColumn => exact workspace_editAddColumn
  | editRename name => exact workspace_onEditor _
  | editUpdateColumn index c => exact workspace_onEditor _
  | editRemoveColumn index => exact workspace_onEditor _
  | editToggleFlag index f => exact workspace_onEditor _
  | editSetForeignKey index target => exact workspace_onEditor _
  | editClearForeignKey index => exact workspace_onEditor _
  | _ => cases ha

/-- A move that is carried out places the table, and one that is refused has nothing to place. -/
theorem act_moveTable (h : s.workspace.model.WellFormed) (id : TableId)
    (position : Canvas.Point K) : (s.act (.moveTable id position)).2 = s.placeAt id position := by
  rw [act, onModel_eq (Model.InPlace.atomic_moveTable id position), ← Model.moveTable]
  rcases h.moveTable id position with ⟨hrefused, hsame⟩ | hmoved
  · rw [hrefused, placeAt, hsame]
    rfl
  · rw [hmoved]
    rfl

/-! ## Runs -/

theorem run_cons (s : Session K) (a : Action K) (actions : List (Action K)) :
    s.run (a :: actions) = (s.act a).2.run actions := rfl

theorem run_edits_placeAt {edits : List (Action K)} (he : ∀ a ∈ edits, a.isEdit = true)
    (s : Session K) (id : TableId) (position : Canvas.Point K) :
    (s.placeAt id position).run edits = (s.run edits).placeAt id position := by
  induction edits generalizing s with
  | nil => rfl
  | cons a edits ih =>
    rw [List.forall_mem_cons] at he
    rw [run_cons, run_cons, act_placeAt he.1]
    exact ih he.2 (s.act a).2

theorem workspace_run_edits {edits : List (Action K)} (he : ∀ a ∈ edits, a.isEdit = true)
    (s : Session K) : (s.run edits).workspace = s.workspace := by
  induction edits generalizing s with
  | nil => rfl
  | cons a edits ih =>
    rw [List.forall_mem_cons] at he
    rw [run_cons, ih he.2, workspace_edit he.1]

theorem wellFormed_placeAt (h : s.workspace.model.WellFormed) (id : TableId)
    (position : Canvas.Point K) : (s.placeAt id position).workspace.model.WellFormed := by
  rw [← act_moveTable h]
  exact wellFormed_act h trivial

/-- The moves of a run may be left for its end. -/
theorem run_interleaved (h : s.workspace.model.WellFormed) {actions : List (Action K)}
    (ha : ∀ a ∈ actions, a.isEdit = true ∨ a.isMove = true) :
    s.run actions = (s.run (actions.filter Action.isEdit)).run (actions.filter Action.isMove) := by
  induction actions generalizing s with
  | nil => rfl
  | cons a actions ih =>
    rw [List.forall_mem_cons] at ha
    have hedits : ∀ a ∈ actions.filter Action.isEdit, a.isEdit = true := fun a ha =>
      (List.mem_filter.1 ha).2
    rcases ha.1 with hedit | hmove
    · have hsame : (s.act a).2.workspace.model.WellFormed := by
        rw [workspace_edit hedit]
        exact h
      rw [List.filter_cons_of_pos hedit,
        List.filter_cons_of_neg (by simp [Action.isMove_of_isEdit hedit]), run_cons, run_cons,
        ih hsame ha.2]
    · obtain ⟨id, position, rfl⟩ := Action.exists_of_isMove hmove
      have hmodel : (s.run (actions.filter Action.isEdit)).workspace.model.WellFormed := by
        rw [workspace_run_edits hedits]
        exact h
      calc s.run (.moveTable id position :: actions)
          = (s.placeAt id position).run actions := by rw [run_cons, act_moveTable h]
        _ = ((s.placeAt id position).run (actions.filter Action.isEdit)).run
              (actions.filter Action.isMove) := ih (wellFormed_placeAt h id position) ha.2
        _ = ((s.run (actions.filter Action.isEdit)).placeAt id position).run
              (actions.filter Action.isMove) := by rw [run_edits_placeAt hedits]
        _ = (s.run (actions.filter Action.isEdit)).run
              (.moveTable id position :: actions.filter Action.isMove) := by
            rw [run_cons, act_moveTable hmodel]

/-- Moves change the workspace, and do not look at the editor. -/
theorem workspace_run_moves {moves : List (Action K)} (hm : ∀ a ∈ moves, a.isMove = true)
    {s' : Session K} (h : s.workspace.model.WellFormed) (hs : s'.workspace = s.workspace) :
    (s'.run moves).workspace = (s.run moves).workspace := by
  induction moves generalizing s s' with
  | nil => exact hs
  | cons a moves ih =>
    rw [List.forall_mem_cons] at hm
    obtain ⟨id, position, rfl⟩ := Action.exists_of_isMove hm.1
    have h' : s'.workspace.model.WellFormed := by
      rw [hs]
      exact h
    rw [run_cons, run_cons, act_moveTable h, act_moveTable h']
    refine ih hm.2 (wellFormed_placeAt h id position) ?_
    simp only [placeAt, hs]
    rfl

/-- A commit after moves does what the moves do after the commit, and gives the same answer. -/
theorem commit_run_moves {moves : List (Action K)} (hm : ∀ a ∈ moves, a.isMove = true)
    (h : s.workspace.model.WellFormed) :
    (s.run moves).commit = (s.commit.1, s.commit.2.run moves) := by
  induction moves generalizing s with
  | nil => rfl
  | cons a moves ih =>
    rw [List.forall_mem_cons] at hm
    obtain ⟨id, position, rfl⟩ := Action.exists_of_isMove hm.1
    rw [run_cons, run_cons, act_moveTable h, act_moveTable (wellFormed_commit h),
      ih hm.2 (wellFormed_placeAt h id position), commit_placeAt]
    rfl

/-- **Editing and moving commute.** While an editor is open on a well-formed schema, its draft is
edited and tables are moved, in any order. To commit at the end gives the same answer, or is refused
for the same reason, as to commit before the first move; and it leads to the same session as that
commit followed by the moves. If it is refused, only the moves are left in the workspace. -/
theorem commit_run_interleaved (h : s.workspace.model.WellFormed) {actions : List (Action K)}
    (ha : ∀ a ∈ actions, a.isEdit = true ∨ a.isMove = true) :
    let moves := actions.filter Action.isMove
    let first := (s.run (actions.filter Action.isEdit)).act .commit
    let last := (s.run actions).act .commit
    last.1 = first.1 ∧ last.2 = first.2.run moves ∧
      ∀ e, first.1 = .error e → last.2.workspace = (s.run moves).workspace := by
  extract_lets moves first last
  have hmoves : ∀ a ∈ moves, a.isMove = true := fun a ha => (List.mem_filter.1 ha).2
  have hedits : ∀ a ∈ actions.filter Action.isEdit, a.isEdit = true := fun a ha =>
    (List.mem_filter.1 ha).2
  have hsame := workspace_run_edits hedits s
  have hlast : last = (first.1, first.2.run moves) := by
    have hmodel : (s.run (actions.filter Action.isEdit)).workspace.model.WellFormed := by
      rw [hsame]
      exact h
    show (s.run actions).commit = _
    rw [run_interleaved h ha]
    exact commit_run_moves hmoves hmodel
  rw [hlast]
  refine ⟨rfl, rfl, fun e he => ?_⟩
  have hkeep : first.2 = s.run (actions.filter Action.isEdit) := keeps_commit e he
  show (first.2.run moves).workspace = _
  rw [hkeep]
  exact workspace_run_moves hmoves h hsame

/-- The identities of the first two tables that are added to an empty session. -/
def firstId : TableId := (IdSupply.draw ⟨0, 0⟩).1
def secondId : TableId := (IdSupply.draw ⟨0, 1⟩).1

/-- Two tables, and an open editor on the first of them. -/
def openSession : Session Rat :=
  (ofWorkspace (.ofConfig .standard ⟨0, 0⟩)).run [.addTable, .addTable, .openEditor firstId]

theorem wellFormed_openSession : openSession.workspace.model.WellFormed := by
  have hfirst : (ofWorkspace (.ofConfig .standard ⟨0, 0⟩) : Session Rat).Fresh .addTable :=
    List.not_mem_nil
  have hsecond : ((ofWorkspace (.ofConfig .standard ⟨0, 0⟩) : Session Rat).act .addTable).2.Fresh
      .addTable := by
    unfold Fresh
    decide +kernel
  have htwo := wellFormed_act (wellFormed_act Model.wellFormed_empty hfirst) hsecond
  exact wellFormed_act htwo (a := .openEditor firstId) trivial

/-- The open table is renamed and gets a column, while both tables are moved. -/
def interleavedActions : List (Action Rat) :=
  [.moveTable firstId ⟨10, 20⟩, .editRename "people", .moveTable secondId ⟨1, 2⟩, .editAddColumn,
    .moveTable firstId ⟨30, 40⟩]

/-- The table has both its new name and its new place, as if the commit had come first. -/
theorem commit_interleavedActions :
    openSession.workspace.model.WellFormed ∧
      (∀ a ∈ interleavedActions, a.isEdit = true ∨ a.isMove = true) ∧
      ((openSession.run interleavedActions).act .commit).2
        = ((openSession.run [.editRename "people", .editAddColumn]).act .commit).2.run
            [.moveTable firstId ⟨10, 20⟩, .moveTable secondId ⟨1, 2⟩, .moveTable firstId ⟨30, 40⟩] ∧
      ((openSession.run interleavedActions).act .commit).2.workspace.model.tables.map
          (fun t => (t.name, t.columns.map (·.name), t.position))
        = [("people", ["id", "created_at", "column3"], ⟨30, 40⟩),
            ("Table2", ["id", "created_at"], ⟨1, 2⟩)] := by
  have hactions : ∀ a ∈ interleavedActions, a.isEdit = true ∨ a.isMove = true := by decide
  refine ⟨wellFormed_openSession, hactions, ?_, by decide +kernel⟩
  exact (commit_run_interleaved wellFormed_openSession hactions).2.1

end Session

end SchemaGraph
