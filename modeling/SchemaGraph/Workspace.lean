import SchemaGraph.Canvas.Gesture
import SchemaGraph.Canvas.Placement
import SchemaGraph.Canvas.Scene
import SchemaGraph.Sink
import SchemaGraph.Sql.Script
import SchemaGraph.Sql.ScriptText

/-!
# The workspace

A schema with all that is needed to work on it: the viewport, the gesture under way, the dialect of
scripts, the measures of drawn tables, and a supply of identities. Scripts are imported under
tickets: only the ticket issued last can be completed, so that of several pending imports the last
one wins.
-/

namespace SchemaGraph

/-- The name of an exported script (`EXPORT_FILE_NAME`). -/
def exportFileName : String := "schema.sql"

inductive ImportError where
  | superseded
  | script (e : Sql.ScriptError)
  | model (e : ModelError)
  deriving DecidableEq, Repr

def ImportError.message : ImportError → String
  | superseded => "Import was superseded by a newer one"
  | script e => e.message
  | model e => e.message

inductive ExportError where
  | writing (e : Sql.WritingError)
  | sink (e : SinkError)
  deriving DecidableEq, Repr

def ExportError.message : ExportError → String
  | writing e => "Failed to generate SQL: " ++ e.message
  | sink e => e.message

structure ImportSummary where
  tables : Nat
  relationships : Nat
  script : Sql.Script

def ImportSummary.diagnostics (s : ImportSummary) : List Sql.Diagnostic := s.script.diagnostics

structure WorkspaceConfig (K : Type) where
  dialect : Sql.Dialect
  viewport : Canvas.ViewportConfig K
  metrics : Canvas.TableMetrics K

/-- The settings that are used unless others are given. -/
def WorkspaceConfig.standard {K : Type} [Scalar K] : WorkspaceConfig K :=
  ⟨.standard, .standard, .standard⟩

structure Workspace (K : Type) extends Canvas.Stage K where
  dialect : Sql.Dialect
  metrics : Canvas.TableMetrics K
  lastTicket : UInt32
  ids : IdSupply

namespace Workspace

variable {K : Type} [Scalar K]

/-- An empty workspace (`Workspace::new`). -/
def ofConfig (config : WorkspaceConfig K) (ids : IdSupply) : Workspace K where
  model := .empty
  viewport := .ofConfig config.viewport
  gesture := .idle
  dialect := config.dialect
  metrics := config.metrics
  lastTicket := 0
  ids

def withModel (w : Workspace K) (model : Model K) : Workspace K := { w with model }

def withViewport (w : Workspace K) (viewport : Canvas.Viewport K) : Workspace K :=
  { w with viewport }

def setDialect (w : Workspace K) (dialect : Sql.Dialect) : Workspace K := { w with dialect }

/-! ## Import -/

/-- The tables of a script under new identities, at their places. -/
def tablesOf (metrics : Canvas.TableMetrics K) (ids : IdSupply) (script : Sql.Script) :
    List (Table K) × IdSupply :=
  let (ts, ids) := Table.ofDefinitions ids script.definitions
  (Canvas.arrange metrics ts, ids)

/-- Issues a ticket. All tickets issued before become stale (`begin_import`). -/
def beginImport (w : Workspace K) : UInt32 × Workspace K :=
  let ticket := w.lastTicket + 1
  (ticket, { w with lastTicket := ticket })

namespace InPlace

/-- Calls a method of the schema. -/
def onModel {ε α : Type} (p : Method (Model K) ε α) : Method (Workspace K) ε α :=
  p.onPart (·.model) withModel

/-- Draws the tables of a script. -/
def drawTables {ε : Type} (script : Sql.Script) : Method (Workspace K) ε (List (Table K)) := do
  let w ← get
  let (tables, ids) := tablesOf w.metrics w.ids script
  modify fun w => { w with ids }
  pure tables

/-- Replaces the schema by that of a script that was read. Any gesture ends. -/
def takeOver (script : Sql.Script) : Method (Workspace K) ImportError ImportSummary := do
  let tables ← drawTables script
  ExceptT.adapt ImportError.model (onModel (Model.InPlace.replaceAll tables))
  modify fun w => { w with gesture := .idle }
  let model := (← get).model
  pure ⟨model.tables.length, model.relationships.length, script⟩

/-- Completes an import (`finish_import`). -/
def finishImport (ticket : UInt32) (text : String) :
    Method (Workspace K) ImportError ImportSummary := do
  .require (ticket = (← get).lastTicket) .superseded
  let script ← liftM ((Sql.readScript (← get).dialect text).mapError ImportError.script)
  takeOver script

/-- Imports a script at once (`import`). The ticket is used up even if the import is refused. -/
def importScript (text : String) : Method (Workspace K) ImportError ImportSummary := do
  let ticket := (← get).beginImport.1
  modify fun w => w.beginImport.2
  finishImport ticket text

end InPlace

/-- Replaces the schema by that of a script. Any gesture ends. -/
def finishImport (w : Workspace K) (ticket : UInt32) (text : String) :
    Except ImportError (ImportSummary × Workspace K) :=
  (InPlace.finishImport ticket text).outcome w

def importScript (w : Workspace K) (text : String) :
    Except ImportError ImportSummary × Workspace K :=
  (InPlace.importScript text).call w

/-! ## Export -/

def generate (w : Workspace K) (now : Sql.Instant) : Except Sql.WritingError String :=
  Sql.writeScript w.dialect now (w.model.tables.map (·.toTableDefinition))

/-- Writes the script of the schema and hands it to a sink, which is given the name and the text
(`export`). The answer is the size in bytes. -/
def exportScript {m : Type → Type} [Monad m] (w : Workspace K) (now : Sql.Instant)
    (save : String → String → m (Except SinkError Unit)) : m (Except ExportError Nat) := do
  match w.generate now with
  | .error e => pure (.error (.writing e))
  | .ok text =>
    match ← save exportFileName text with
    | .error e => pure (.error (.sink e))
    | .ok () => pure (.ok text.utf8ByteSize)

/-! ## Work on the schema -/

def addTable (w : Workspace K) : TableId × Workspace K :=
  let (id, model, ids) := w.model.addTable w.ids
  (id, { w with model, ids })

namespace InPlace

def removeTable (table : TableId) : Method (Workspace K) ModelError (Table K) :=
  onModel (Model.InPlace.removeTable table)

/-- Takes a pointer event (`pointer`). The answer tells whether the model or the viewport
changed. -/
def pointer (e : Canvas.PointerEvent K) : Method (Workspace K) ModelError Bool := do
  let metrics := (← get).metrics
  (Canvas.Stage.InPlace.handle metrics e).onPart (·.toStage) fun w stage =>
    { w with toStage := stage }

end InPlace

def removeTable (w : Workspace K) (id : TableId) : Except ModelError (Table K × Workspace K) :=
  (InPlace.removeTable id).outcome w

def pointer (w : Workspace K) (e : Canvas.PointerEvent K) :
    Except ModelError (Bool × Workspace K) :=
  (InPlace.pointer e).outcome w

/-- Turns the wheel (`wheel`). The answer tells whether it was a zoom. -/
def wheel (w : Workspace K) (e : Canvas.Wheel K) : Bool × Workspace K :=
  let (zoomed, viewport) := w.viewport.wheel e
  (zoomed, w.withViewport viewport)

def resize (w : Workspace K) (width height : K) : Workspace K :=
  w.withViewport (w.viewport.resize width height)

def zoomIn (w : Workspace K) : Workspace K := w.withViewport w.viewport.zoomIn

def zoomOut (w : Workspace K) : Workspace K := w.withViewport w.viewport.zoomOut

def scene (w : Workspace K) : Canvas.Scene K := .build w.model w.viewport w.metrics

end Workspace

end SchemaGraph
