import SchemaGraph.Proofs.Schema.Invariant
import SchemaGraph.Proofs.Schema.SessionSteps

/-!
# Runs of a session

A session starts with an empty schema. Any actions follow, each carried out or refused, and at any
time another editor may be taken up, with any draft. The schema is well-formed after each of them.
-/

namespace SchemaGraph

variable {K : Type}

/-! ## Imports -/

section
variable [Scalar K]

theorem Workspace.wellFormed_finishImport {w w' : Workspace K} {ticket : UInt32} {text : String}
    {summary : ImportSummary}
    (hids : ∀ script, Sql.readScript w.dialect text = .ok script →
      ((Table.ofDefinitions (K := K) w.ids script.definitions).1.map (·.id)).Nodup)
    (h : w.finishImport ticket text = .ok (summary, w')) : w'.model.WellFormed := by
  rw [finishImport_eq] at h
  split at h
  · cases h
  · split at h
    · cases h
    · rename_i script hread
      dsimp only at h
      split at h
      · cases h
      · rename_i model hreplace
        cases h
        refine Model.wellFormed_replaceAll ?_ hreplace
        rw [ids_tablesOf]
        exact hids script hread

end

namespace Session

/-! ## Steps -/

section
variable {s : Session K}

theorem wellFormed_onModel (h : s.workspace.model.WellFormed) {ε : Type}
    {p : Method (Model K) ε Unit} (hp : p.Atomic) {wrap : ε → ActionError}
    (hresult : ∀ m, p.result s.workspace.model = .ok m → m.WellFormed) :
    (s.onModel p wrap).2.workspace.model.WellFormed := by
  rw [onModel_eq hp]
  split
  · exact h
  · exact hresult _ ‹_›

theorem wellFormed_modifyTable (h : s.workspace.model.WellFormed) (id : TableId)
    (change : Table K → Except ModelError (Table K)) :
    (s.onModel (Model.InPlace.modifyTable id change) .model).2.workspace.model.WellFormed :=
  wellFormed_onModel h (Model.InPlace.atomic_modifyTable id change) fun _ => h.modifyTable

theorem workspace_onEditor (p : Method (TableEditor K) EditorError Unit) :
    (s.onEditor p).2.workspace = s.workspace := by
  unfold onEditor
  split
  · rfl
  · split <;> rfl

theorem workspace_openEditor (id : TableId) : (s.openEditor id).2.workspace = s.workspace := by
  unfold openEditor
  split <;> rfl

theorem workspace_editAddColumn : s.editAddColumn.2.workspace = s.workspace := by
  unfold editAddColumn
  split <;> rfl

theorem workspace_discard : s.discard.2.workspace = s.workspace := by
  unfold discard
  split <;> rfl

theorem wellFormed_commit (h : s.workspace.model.WellFormed) :
    s.commit.2.workspace.model.WellFormed := by
  unfold commit
  split
  · exact h
  · exact wellFormed_onModel h (TableEditor.InPlace.atomic_commit _) fun _ =>
      TableEditor.wellFormed_commit h

end

variable [Scalar K]

section
variable {s : Session K}

theorem wellFormed_removeTable (h : s.workspace.model.WellFormed) (id : TableId) :
    (s.act (.removeTable id)).2.workspace.model.WellFormed := by
  rw [act_removeTable]
  cases hremove : s.workspace.model.removeTable id with
  | error e => exact h
  | ok r => exact h.removeTable hremove

theorem wellFormed_pointer (h : s.workspace.model.WellFormed) (e : Canvas.PointerEvent K) :
    (s.act (.pointer e)).2.workspace.model.WellFormed := by
  rw [act_pointer]
  cases hhandle : s.workspace.toStage.handle s.workspace.metrics e with
  | error reason => exact h
  | ok r =>
    rcases Canvas.Stage.model_handle hhandle with hmodel | ⟨id, position, hmove⟩
    · show r.2.model.WellFormed
      rw [hmodel]
      exact h
    · exact h.modifyTable hmove

end

/-- What an action takes from outside has identities that are new: drawn ones, and those of tables
that replace all others. -/
def Fresh (s : Session K) : Action K → Prop
  | .addTable => s.workspace.ids.draw.1 ∉ s.workspace.model.tables.map (·.id)
  | .replaceAll ts => (ts.map (·.id)).Nodup
  | .finishImport _ text | .importScript text =>
    ∀ script, Sql.readScript s.workspace.dialect text = .ok script →
      ((Table.ofDefinitions (K := K) s.workspace.ids script.definitions).1.map (·.id)).Nodup
  | _ => True

variable {s : Session K}

theorem wellFormed_finishImport (h : s.workspace.model.WellFormed) {ticket : UInt32}
    {text : String} (hf : s.Fresh (.finishImport ticket text)) :
    (s.act (.finishImport ticket text)).2.workspace.model.WellFormed := by
  rw [act_finishImport]
  split
  · exact h
  · exact Workspace.wellFormed_finishImport hf ‹_›

/-- One action keeps the schema well-formed. -/
theorem wellFormed_act (h : s.workspace.model.WellFormed) {a : Action K} (hf : s.Fresh a) :
    (s.act a).2.workspace.model.WellFormed := by
  cases a with
  | finishImport ticket text => exact wellFormed_finishImport h hf
  | importScript text =>
    rw [act_importScript]
    exact wellFormed_finishImport (by exact h) hf
  | addTable => exact h.addTable hf
  | removeTable id => exact wellFormed_removeTable h id
  | replaceTable id t =>
    exact wellFormed_onModel h (Model.InPlace.atomic_replaceTable id t) fun _ => h.replaceTable
  | replaceAll ts =>
    refine wellFormed_onModel h (Model.InPlace.atomic_replaceAll ts) fun m hm => ?_
    rw [Model.replaceAll_result] at hm
    exact Model.wellFormed_replaceAll hf hm
  | moveTable id position => exact wellFormed_modifyTable h id _
  | addColumn id c => exact wellFormed_modifyTable h id _
  | updateColumn id index c => exact wellFormed_modifyTable h id _
  | removeColumn id index => exact wellFormed_modifyTable h id _
  | toggleFlag id index f => exact wellFormed_modifyTable h id _
  | setForeignKey id index target => exact wellFormed_modifyTable h id _
  | clearForeignKey id index => exact wellFormed_modifyTable h id _
  | pointer e => exact wellFormed_pointer h e
  | openEditor id => rw [act, workspace_openEditor]; exact h
  | editRename name => rw [act, workspace_onEditor]; exact h
  | editAddColumn => rw [act, workspace_editAddColumn]; exact h
  | editUpdateColumn index c => rw [act, workspace_onEditor]; exact h
  | editRemoveColumn index => rw [act, workspace_onEditor]; exact h
  | editToggleFlag index f => rw [act, workspace_onEditor]; exact h
  | editSetForeignKey index target => rw [act, workspace_onEditor]; exact h
  | editClearForeignKey index => rw [act, workspace_onEditor]; exact h
  | commit => exact wellFormed_commit h
  | discard => rw [act, workspace_discard]; exact h
  | beginImport => exact h
  | setDialect d => exact h
  | wheel e => exact h
  | resize width height => exact h
  | zoomIn => exact h
  | zoomOut => exact h

/-! ## Runs -/

/-- What can become of a session that starts with an empty schema. Besides the actions, any editor
may be taken up at any time, so that several can be at work and their drafts can be anything. -/
inductive Reachable : Session K → Prop where
  | start (config : WorkspaceConfig K) (ids : IdSupply) :
    Reachable (ofWorkspace (.ofConfig config ids))
  | act {s : Session K} (h : Reachable s) {a : Action K} (hf : s.Fresh a) : Reachable (s.act a).2
  | takeUp {s : Session K} (h : Reachable s) (editor : Option (TableEditor K)) :
    Reachable { s with editor }

/-- Each action of a run is fresh when it is its turn. -/
def FreshRun (s : Session K) : List (Action K) → Prop
  | [] => True
  | a :: rest => s.Fresh a ∧ FreshRun (s.act a).2 rest

/-- Actions in order lead from one reachable session to another. -/
theorem Reachable.run (h : Reachable s) {actions : List (Action K)} (hf : s.FreshRun actions) :
    Reachable (s.run actions) := by
  induction actions generalizing s with
  | nil => exact h
  | cons a actions ih => exact ih (h.act hf.1) hf.2

/-- **The invariant of a schema.** After any run of actions from an empty schema, whether they were
carried out or refused, the schema is well-formed. -/
theorem wellFormed_of_reachable (h : Reachable s) : s.workspace.model.WellFormed := by
  induction h with
  | start config ids => exact Model.wellFormed_empty
  | act _ hf ih => exact wellFormed_act ih hf
  | takeUp _ editor ih => exact ih

/-- Two tables are added, the first is removed, and one more is added. -/
def sampleRun : Session Rat :=
  (ofWorkspace (.ofConfig .standard ⟨0, 0⟩)).run
    [.addTable, .addTable, .removeTable (IdSupply.draw ⟨0, 0⟩).1, .addTable]

theorem reachable_sampleRun : Reachable sampleRun := by
  refine (Reachable.start _ _).run ⟨?_, ?_, trivial, ?_, trivial⟩
  · exact List.not_mem_nil
  · unfold Fresh
    decide +kernel
  · unfold Fresh
    decide +kernel

/-- The name of the removed table is not used again, and the schema is well-formed. -/
theorem wellFormed_sampleRun :
    Reachable sampleRun ∧
      sampleRun.workspace.model.tables.map (·.name) = ["Table2", "Table3"] ∧
      sampleRun.workspace.model.WellFormed :=
  ⟨reachable_sampleRun, by decide +kernel, wellFormed_of_reachable reachable_sampleRun⟩

end Session

end SchemaGraph
