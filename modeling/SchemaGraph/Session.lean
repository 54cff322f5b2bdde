import SchemaGraph.Schema.Editor
import SchemaGraph.Workspace

/-!
# Sessions

A session is a workspace with at most one open table editor. Whatever can happen to it is an action;
`Session.act` carries one out and gives an answer. It calls methods of the workspace, of its schema
or of the editor, and what these leave is what the session goes on with, also when they fail.
-/

namespace SchemaGraph

structure Session (K : Type) where
  workspace : Workspace K
  editor : Option (TableEditor K)

/-- What can happen to a session. -/
inductive Action (K : Type) where
  | beginImport
  | finishImport (ticket : UInt32) (text : String)
  | importScript (text : String)
  | setDialect (d : Sql.Dialect)
  | addTable
  | removeTable (id : TableId)
  | replaceTable (id : TableId) (t : Table K)
  | replaceAll (ts : List (Table K))
  | moveTable (id : TableId) (position : Canvas.Point K)
  | addColumn (id : TableId) (c : Column)
  | updateColumn (id : TableId) (index : Nat) (c : Column)
  | removeColumn (id : TableId) (index : Nat)
  | toggleFlag (id : TableId) (index : Nat) (f : ColumnFlag)
  | setForeignKey (id : TableId) (index : Nat) (target : ForeignKey)
  | clearForeignKey (id : TableId) (index : Nat)
  | pointer (e : Canvas.PointerEvent K)
  | wheel (e : Canvas.Wheel K)
  | resize (width height : K)
  | zoomIn
  | zoomOut
  | openEditor (id : TableId)
  | editRename (name : String)
  | editAddColumn
  | editUpdateColumn (index : Nat) (c : Column)
  | editRemoveColumn (index : Nat)
  | editToggleFlag (index : Nat) (f : ColumnFlag)
  | editSetForeignKey (index : Nat) (target : ForeignKey)
  | editClearForeignKey (index : Nat)
  | commit
  | discard

inductive ActionError where
  | model (e : ModelError)
  | editor (e : EditorError)
  | importing (e : ImportError)
  /-- The action is one of the editor, and none is open. -/
  | noEditor
  deriving DecidableEq, Repr

/-- What an action that was carried out answers. -/
inductive Answer (K : Type) where
  | done
  | ticket (n : UInt32)
  | imported (s : ImportSummary)
  | newTable (id : TableId)
  | removed (t : Table K)
  | changed (b : Bool)
  | column (index : Nat)

namespace Session

variable {K : Type} [Scalar K]

def ofWorkspace (w : Workspace K) : Session K := ⟨w, none⟩

/-- What an action leads to: an answer or a refusal, and the session afterwards. -/
abbrev Outcome (K : Type) := Except ActionError (Answer K) × Session K

def answer (s : Session K) (a : Answer K) : Outcome K := (.ok a, s)

def refuse (s : Session K) (e : ActionError) : Outcome K := (.error e, s)

def withWorkspace (s : Session K) (workspace : Workspace K) : Session K := { s with workspace }

/-- Calls a method of the workspace, and goes on with the workspace as the method leaves it. -/
def onWorkspace {ε α : Type} (s : Session K) (p : Method (Workspace K) ε α)
    (wrap : ε → ActionError) (tell : α → Answer K) : Outcome K :=
  match p.call s.workspace with
  | (.error e, w) => (s.withWorkspace w).refuse (wrap e)
  | (.ok a, w) => (s.withWorkspace w).answer (tell a)

/-- Calls a method of the schema. -/
def onModel {ε : Type} (s : Session K) (p : Method (Model K) ε Unit) (wrap : ε → ActionError) :
    Outcome K :=
  s.onWorkspace (Workspace.InPlace.onModel p) wrap fun _ => .done

/-- Calls a method of the open editor, and goes on with the editor as the method leaves it. -/
def onEditor (s : Session K) (p : Method (TableEditor K) EditorError Unit) : Outcome K :=
  match s.editor with
  | none => s.refuse .noEditor
  | some e =>
    match p.call e with
    | (.error reason, e) => ({ s with editor := some e }).refuse (.editor reason)
    | (.ok (), e) => ({ s with editor := some e }).answer .done

/-- Puts the draft of the open editor into the schema. The editor stays open. -/
def commit (s : Session K) : Outcome K :=
  match s.editor with
  | none => s.refuse .noEditor
  | some e => s.onModel (TableEditor.InPlace.commit e) .editor

/-- Adds a column to the draft of the open editor. The answer is its position. -/
def editAddColumn (s : Session K) : Outcome K :=
  match s.editor with
  | none => s.refuse .noEditor
  | some e => ({ s with editor := some e.addColumn }).answer (.column e.draft.columns.length)

/-- Opens an editor in the place of the one that is open. -/
def openEditor (s : Session K) (id : TableId) : Outcome K :=
  match TableEditor.start s.workspace.model id with
  | .error reason => s.refuse (.editor reason)
  | .ok e => ({ s with editor := some e }).answer .done

def discard (s : Session K) : Outcome K :=
  match s.editor with
  | none => s.refuse .noEditor
  | some _ => ({ s with editor := none }).answer .done

def act (s : Session K) : Action K → Outcome K
  | .beginImport =>
    let (ticket, w) := s.workspace.beginImport
    (s.withWorkspace w).answer (.ticket ticket)
  | .finishImport ticket text =>
    s.onWorkspace (Workspace.InPlace.finishImport ticket text) .importing .imported
  | .importScript text => s.onWorkspace (Workspace.InPlace.importScript text) .importing .imported
  | .setDialect d => (s.withWorkspace (s.workspace.setDialect d)).answer .done
  | .addTable =>
    let (id, w) := s.workspace.addTable
    (s.withWorkspace w).answer (.newTable id)
  | .removeTable id => s.onWorkspace (Workspace.InPlace.removeTable id) .model .removed
  | .replaceTable id t => s.onModel (Model.InPlace.replaceTable id t) .model
  | .replaceAll ts => s.onModel (Model.InPlace.replaceAll ts) .model
  | .moveTable id position => s.onModel (Model.InPlace.moveTable id position) .model
  | .addColumn id c => s.onModel (Model.InPlace.addColumn id c) .model
  | .updateColumn id index c => s.onModel (Model.InPlace.updateColumn id index c) .model
  | .removeColumn id index => s.onModel (Model.InPlace.removeColumn id index) .model
  | .toggleFlag id index f => s.onModel (Model.InPlace.toggleFlag id index f) .model
  | .setForeignKey id index target => s.onModel (Model.InPlace.setForeignKey id index target) .model
  | .clearForeignKey id index => s.onModel (Model.InPlace.clearForeignKey id index) .model
  | .pointer e => s.onWorkspace (Workspace.InPlace.pointer e) .model .changed
  | .wheel e =>
    let (zoomed, w) := s.workspace.wheel e
    (s.withWorkspace w).answer (.changed zoomed)
  | .resize width height => (s.withWorkspace (s.workspace.resize width height)).answer .done
  | .zoomIn => (s.withWorkspace s.workspace.zoomIn).answer .done
  | .zoomOut => (s.withWorkspace s.workspace.zoomOut).answer .done
  | .openEditor id => s.openEditor id
  | .editRename name => s.onEditor (modify fun e => e.rename name)
  | .editAddColumn => s.editAddColumn
  | .editUpdateColumn index c => s.onEditor (TableEditor.InPlace.updateColumn index c)
  | .editRemoveColumn index => s.onEditor (TableEditor.InPlace.removeColumn index)
  | .editToggleFlag index f => s.onEditor (TableEditor.InPlace.toggleFlag index f)
  | .editSetForeignKey index target =>
    s.onEditor (TableEditor.InPlace.setForeignKey s.workspace.model index target)
  | .editClearForeignKey index => s.onEditor (TableEditor.InPlace.clearForeignKey index)
  | .commit => s.commit
  | .discard => s.discard

/-- Carries out actions in order, whatever the answers. -/
def run (s : Session K) (actions : List (Action K)) : Session K :=
  actions.foldl (fun s a => (s.act a).2) s

end Session

end SchemaGraph
