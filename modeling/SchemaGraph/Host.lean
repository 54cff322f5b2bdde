import SchemaGraph.Json.Reader
import SchemaGraph.Json.Writer
import SchemaGraph.Schema.Editor
import SchemaGraph.Sql.Detect
import SchemaGraph.Wire.Canvas

/-!
# The host interface

An application that embeds the program passes texts and numbers: names of dialects, scripts, data as
JSON. Here these are read, handed to the workspace, and the answers written back as texts.
-/

namespace SchemaGraph.Host

open Json (Value)

inductive HostError where
  /-- The text is no JSON, or its value is not of the expected form. -/
  | json
  | unknownDialect (name : String)
  | config (e : Canvas.ViewportConfigError Float)
  | model (e : ModelError)
  | editor (e : EditorError)
  | script (e : Sql.ScriptError)
  | importing (e : ImportError)
  | writing (e : Sql.WritingError)

/-- The reason in words. What is wrong with a JSON text is not told in detail. -/
def HostError.message : HostError → String
  | json => "Invalid JSON"
  | unknownDialect name => "Unknown dialect: " ++ name
  | config e => e.message
  | model e => e.message
  | editor e => e.message
  | script e => e.message
  | importing e => e.message
  | writing e => e.message

def dialectNamed (name : String) : Except HostError Sql.Dialect :=
  match Sql.Dialect.ofName? name with
  | some d => .ok d
  | none => .error (.unknownDialect name)

/-- A failure of a part, as a failure of the call. -/
def lift {ε α : Type} (wrap : ε → HostError) : Except ε α → Except HostError α
  | .ok a => .ok a
  | .error e => .error (wrap e)

/-! ## Texts -/

/-- How JSON values are written as texts, and how texts are read. -/
structure TextLayer where
  write : Value → String
  read? : String → Option Value

namespace TextLayer

/-- Texts without blanks. -/
def compact : TextLayer := ⟨Value.compact, Value.ofText?⟩

def decode {α : Type} (layer : TextLayer) (f : Value → Option α) (json : String) :
    Except HostError α :=
  match (layer.read? json).bind f with
  | some a => .ok a
  | none => .error .json

/-- Reads a script (`parse_sql`); without a named dialect, in the dialect that it seems to be
written in. The answer is the schema with the reports. -/
def parseSql (layer : TextLayer) (ids : IdSupply) (text : String) (dialect : Option String) :
    Except HostError (String × IdSupply) := do
  let d ← match dialect with
    | some name => dialectNamed name
    | none => pure (Sql.Dialect.detect text)
  let script ← lift .script (Sql.readScript d text)
  let (tables, ids) := Workspace.tablesOf .standard ids script
  let model ← lift .model (Model.ofTables tables)
  pure (layer.write (Wire.encodeReport model script.diagnostics), ids)

/-- Writes the script of a stored schema (`generate_sql`); without a named dialect, in standard
SQL. -/
def generateSql (layer : TextLayer) (now : Sql.Instant) (json : String) (dialect : Option String) :
    Except HostError String := do
  let d ← match dialect with
    | some name => dialectNamed name
    | none => pure .standard
  let tables ← layer.decode Wire.decodeTables json
  let model ← lift .model (Model.ofTables tables)
  lift .writing (Sql.writeScript d now (model.tables.map (·.toTableDefinition)))

end TextLayer

def decode {α : Type} (f : Value → Option α) (json : String) : Except HostError α :=
  TextLayer.compact.decode f json

def parseSql (ids : IdSupply) (text : String) (dialect : Option String) :
    Except HostError (String × IdSupply) :=
  TextLayer.compact.parseSql ids text dialect

def generateSql (now : Sql.Instant) (json : String) (dialect : Option String) :
    Except HostError String :=
  TextLayer.compact.generateSql now json dialect

/-! ## A canvas -/

/-- The workspace of a canvas (`SchemaCanvas::new`). The settings are JSON, and may be left out. -/
def openCanvas (ids : IdSupply) (config : Option String) : Except HostError (Workspace Float) := do
  let config ← match config with
    | some json => decode Wire.decodeWorkspaceConfig json
    | none => pure .standard
  lift .config config.viewport.validate
  pure (.ofConfig config ids)

namespace InPlace

/-- Chooses the dialect by its name (`set_dialect`). -/
def setDialect (name : String) : Method (Workspace Float) HostError Unit := do
  let dialect ← liftM (dialectNamed name)
  modify fun w => w.setDialect dialect

/-- Completes an import (`finish_import`). The answer is the new schema with the reports. -/
def finishImport (ticket : UInt32) (text : String) : Method (Workspace Float) HostError String := do
  let summary ← ExceptT.adapt .importing (Workspace.InPlace.finishImport ticket text)
  pure (Wire.encodeReport (← get).model summary.diagnostics).compact

def removeTable (id : String) : Method (Workspace Float) HostError Unit := do
  let _ ← ExceptT.adapt .model (Workspace.InPlace.removeTable ⟨id⟩)

/-- Renames a table with an editor of its own (`rename_table`). -/
def renameTable (id name : String) : Method (Workspace Float) HostError Unit := do
  let editor ← liftM (lift .editor (TableEditor.start (← get).model ⟨id⟩))
  ExceptT.adapt .editor
    (Workspace.InPlace.onModel (TableEditor.InPlace.commit (editor.rename name)))

/-- Puts a table, given as JSON, in the place of the one with the same identity
(`replace_table`). -/
def replaceTable (json : String) : Method (Workspace Float) HostError Unit := do
  let t ← liftM (decode Wire.decodeTable json)
  ExceptT.adapt .model (Workspace.InPlace.onModel (Model.InPlace.replaceTable t.id t))

def pointer (e : Canvas.PointerEvent Float) : Method (Workspace Float) HostError Bool :=
  ExceptT.adapt .model (Workspace.InPlace.pointer e)

/-- A button goes down (`pointer_down`). A button without a meaning is ignored. -/
def pointerDown (position : Canvas.Point Float) (code : Int) :
    Method (Workspace Float) HostError Bool :=
  match Canvas.PointerButton.ofCode? code with
  | some button => pointer (.down position button)
  | none => pure false

end InPlace

variable (w : Workspace Float)

def setDialect (name : String) : Except HostError (Workspace Float) :=
  (InPlace.setDialect name).result w

def finishImport (ticket : UInt32) (text : String) : Except HostError (String × Workspace Float) :=
  (InPlace.finishImport ticket text).outcome w

def generate (now : Sql.Instant) : Except HostError String := lift .writing (w.generate now)

def removeTable (id : String) : Except HostError (Workspace Float) :=
  (InPlace.removeTable id).result w

def renameTable (id name : String) : Except HostError (Workspace Float) :=
  (InPlace.renameTable id name).result w

def replaceTable (json : String) : Except HostError (Workspace Float) :=
  (InPlace.replaceTable json).result w

/-- What the columns of a table may refer to, as JSON (`foreign_key_targets`). -/
def foreignKeyTargets (id : String) : Except HostError String := do
  let editor ← lift .editor (TableEditor.start w.model ⟨id⟩)
  pure (Value.array ((editor.foreignKeyTargets w.model).map Wire.encodeForeignKey)).compact

def pointer (e : Canvas.PointerEvent Float) : Except HostError (Bool × Workspace Float) :=
  (InPlace.pointer e).outcome w

def pointerDown (position : Canvas.Point Float) (code : Int) :
    Except HostError (Bool × Workspace Float) :=
  (InPlace.pointerDown position code).outcome w

/-- What is drawn, as JSON. -/
def scene : String := (Wire.encodeScene w.scene).compact

/-- The schema as JSON. -/
def model : String := (Wire.encodeReport w.model []).compact

end SchemaGraph.Host
