import SchemaGraph.Proofs.Sql.Validity
import SchemaGraph.Session

/-!
# Steps of a session

An action calls methods of the workspace, of its schema or of the open editor. These change all or
nothing, so the outcome of a method says what the action leads to. An import is among them: its
identities are drawn before the schema checks the tables, but the tables of a script pass
(`Workspace.InPlace.succeeds_takeOver`).
-/

namespace SchemaGraph

open Method

variable {K : Type}

/-! ## Imports -/

namespace Workspace

variable [Scalar K]

/-- The schema refuses no script that was read. -/
theorem InPlace.succeeds_takeOver {d : Sql.Dialect} {text : String} {script : Sql.Script}
    (h : Sql.readScript d text = .ok script) :
    (InPlace.takeOver script : Method (Workspace K) _ _).Succeeds := by
  intro w
  rw [InPlace.call_takeOver]
  dsimp only
  rw [Sql.replaceAll_tablesOf h]
  exact ⟨_, _, rfl⟩

/-- The ticket and the script are checked first, and then nothing can fail any more. -/
theorem InPlace.atomic_finishImport (ticket : UInt32) (text : String) :
    (InPlace.finishImport ticket text : Method (Workspace K) _ _).Atomic := by
  refine readsOnly_get.bind_atomic fun _ w _ => ?_
  refine (readsOnly_require _ _).bind_atomic fun _ _ _ => ?_
  refine readsOnly_get.bind_atomic fun _ w _ => ?_
  refine (readsOnly_lift _).bind_atomic fun _ script hread => Succeeds.atomic ?_
  rw [call_lift] at hread
  cases hscript : Sql.readScript w.dialect text with
  | error e =>
    rw [hscript] at hread
    cases hread
  | ok script' =>
    rw [hscript] at hread
    cases hread
    exact InPlace.succeeds_takeOver hscript

/-- An import in one step issues a ticket and completes it. -/
theorem InPlace.call_importScript (w : Workspace K) (text : String) :
    (InPlace.importScript text).call w
      = (InPlace.finishImport w.beginImport.1 text).call w.beginImport.2 := by
  unfold InPlace.importScript
  rw [call_bind, call_get]
  dsimp only
  rw [call_bind, call_modify]

/-- The ticket is used up in any case. -/
theorem importScript_eq (w : Workspace K) (text : String) :
    w.importScript text = match w.beginImport.2.finishImport w.beginImport.1 text with
      | .error e => (.error e, w.beginImport.2)
      | .ok (summary, w') => (.ok summary, w') := by
  rw [importScript, InPlace.call_importScript, (InPlace.atomic_finishImport _ text).call_eq,
    finishImport]
  cases (InPlace.finishImport w.beginImport.1 text).outcome w.beginImport.2 <;> rfl

end Workspace

namespace Session

/-! ## Methods that change all or nothing -/

section
variable {s : Session K}

theorem onWorkspace_eq {ε α : Type} {p : Method (Workspace K) ε α} (hp : p.Atomic)
    (wrap : ε → ActionError) (tell : α → Answer K) :
    s.onWorkspace p wrap tell = match p.outcome s.workspace with
      | .error e => s.refuse (wrap e)
      | .ok (a, w) => (s.withWorkspace w).answer (tell a) := by
  unfold onWorkspace
  rw [hp.call_eq]
  cases p.outcome s.workspace <;> rfl

/-- Whatever a method of the schema does, it changes nothing but the schema. -/
theorem session_onModel {ε : Type} (p : Method (Model K) ε Unit) (wrap : ε → ActionError) :
    (s.onModel p wrap).2
      = s.withWorkspace (s.workspace.withModel (p.call s.workspace.model).2) := by
  unfold onModel onWorkspace Workspace.InPlace.onModel
  rw [call_onPart]
  cases (p.call s.workspace.model).1 <;> rfl

theorem onModel_eq {ε : Type} {p : Method (Model K) ε Unit} (hp : p.Atomic)
    (wrap : ε → ActionError) :
    s.onModel p wrap = match p.result s.workspace.model with
      | .error e => s.refuse (wrap e)
      | .ok m => (s.withWorkspace (s.workspace.withModel m)).answer .done := by
  unfold onModel Workspace.InPlace.onModel result
  rw [onWorkspace_eq (hp.onPart fun _ => rfl), outcome_onPart]
  cases p.outcome s.workspace.model <;> rfl

theorem onEditor_eq {p : Method (TableEditor K) EditorError Unit} (hp : p.Atomic) :
    s.onEditor p = match s.editor with
      | none => s.refuse .noEditor
      | some e =>
        match p.result e with
        | .error reason => s.refuse (.editor reason)
        | .ok e => ({ s with editor := some e }).answer .done := by
  obtain ⟨w, editor⟩ := s
  unfold onEditor result
  cases editor with
  | none => rfl
  | some e =>
    dsimp only
    rw [hp.call_eq]
    cases p.outcome e <;> rfl

theorem commit_eq (s : Session K) :
    s.commit = match s.editor with
      | none => s.refuse .noEditor
      | some e =>
        match e.commit s.workspace.model with
        | .error reason => s.refuse (.editor reason)
        | .ok m => (s.withWorkspace (s.workspace.withModel m)).answer .done := by
  unfold commit
  cases s.editor with
  | none => rfl
  | some e =>
    dsimp only
    rw [onModel_eq (TableEditor.InPlace.atomic_commit e), ← TableEditor.commit]
    cases e.commit s.workspace.model <;> rfl

end

/-- The session after one more ticket was issued, with nothing else changed. -/
def withTicketIssued (s : Session K) : Session K :=
  s.withWorkspace { s.workspace with lastTicket := s.workspace.lastTicket + 1 }

variable [Scalar K] {s : Session K}

theorem act_finishImport (s : Session K) (ticket : UInt32) (text : String) :
    s.act (.finishImport ticket text) = match s.workspace.finishImport ticket text with
      | .error e => s.refuse (.importing e)
      | .ok (summary, w) => (s.withWorkspace w).answer (.imported summary) := by
  rw [act, onWorkspace_eq (Workspace.InPlace.atomic_finishImport ticket text),
    Workspace.finishImport]
  cases (Workspace.InPlace.finishImport ticket text).outcome s.workspace <;> rfl

/-- An import changes nothing, or it replaces the schema and ends the gesture. -/
theorem act_finishImport_cases (s : Session K) (ticket : UInt32) (text : String) :
    (s.act (.finishImport ticket text)).2 = s ∨
      ∃ ts model ids, Model.replaceAll ts = .ok model ∧ (s.act (.finishImport ticket text)).2
        = s.withWorkspace { s.workspace with model, ids, gesture := .idle } := by
  rw [act_finishImport, Workspace.finishImport_eq]
  by_cases hticket : ticket = s.workspace.lastTicket
  · rw [if_neg (not_not_intro hticket)]
    cases Sql.readScript s.workspace.dialect text with
    | error e => exact Or.inl rfl
    | ok script =>
      dsimp only
      cases hreplace : Model.replaceAll
          (Workspace.tablesOf s.workspace.metrics s.workspace.ids script).1 with
      | error e => exact Or.inl rfl
      | ok model => exact Or.inr ⟨_, model, _, hreplace, rfl⟩
  · rw [if_pos hticket]
    exact Or.inl rfl

/-- An import in one step issues a ticket and completes it. -/
theorem act_importScript (s : Session K) (text : String) :
    s.act (.importScript text)
      = s.withTicketIssued.act (.finishImport (s.workspace.lastTicket + 1) text) := by
  rw [act, act, onWorkspace, onWorkspace, Workspace.InPlace.call_importScript]
  rfl

theorem act_removeTable (s : Session K) (id : TableId) :
    s.act (.removeTable id) = match s.workspace.model.removeTable id with
      | .error e => s.refuse (.model e)
      | .ok (t, m) => (s.withWorkspace (s.workspace.withModel m)).answer (.removed t) := by
  have houtcome := Workspace.removeTable_eq s.workspace id
  rw [Workspace.removeTable] at houtcome
  rw [act, onWorkspace_eq (Workspace.InPlace.atomic_removeTable id), houtcome]
  cases s.workspace.model.removeTable id <;> rfl

theorem act_pointer (s : Session K) (e : Canvas.PointerEvent K) :
    s.act (.pointer e) = match s.workspace.toStage.handle s.workspace.metrics e with
      | .error reason => s.refuse (.model reason)
      | .ok (changed, stage) =>
        (s.withWorkspace { s.workspace with toStage := stage }).answer (.changed changed) := by
  have houtcome := Workspace.pointer_eq s.workspace e
  rw [Workspace.pointer] at houtcome
  rw [act, onWorkspace_eq (Workspace.InPlace.atomic_pointer e), houtcome]
  cases s.workspace.toStage.handle s.workspace.metrics e <;> rfl

end Session

end SchemaGraph
