import SchemaGraph.Wire.Schema
import SchemaGraph.Workspace

/-!
# Canvas data as JSON

Settings, rectangles and scenes. A setting that is not given takes its standard value.
-/

namespace SchemaGraph.Wire

open Json (Value)
open SchemaGraph.Canvas

/-! ## Settings -/

def encodeViewportConfig (c : ViewportConfig Float) : Value :=
  .record [("minZoom", .number c.minZoom), ("maxZoom", .number c.maxZoom),
    ("zoomInFactor", .number c.zoomInFactor), ("zoomOutFactor", .number c.zoomOutFactor)]

def decodeViewportConfig (v : Value) : Option (ViewportConfig Float) := do
  let base : ViewportConfig Float := .standard
  match ← v.fields? ["minZoom", "maxZoom", "zoomInFactor", "zoomOutFactor"] with
  | [minZoom, maxZoom, zoomInFactor, zoomOutFactor] =>
    pure
      { minZoom := ← Value.optional base.minZoom Value.float? minZoom
        maxZoom := ← Value.optional base.maxZoom Value.float? maxZoom
        zoomInFactor := ← Value.optional base.zoomInFactor Value.float? zoomInFactor
        zoomOutFactor := ← Value.optional base.zoomOutFactor Value.float? zoomOutFactor }
  | _ => none

def encodeMetrics (m : TableMetrics Float) : Value :=
  .record [("charWidth", .number m.charWidth), ("lineHeight", .number m.lineHeight),
    ("paddingX", .number m.paddingX), ("paddingY", .number m.paddingY),
    ("headerPadding", .number m.headerPadding), ("minTableWidth", .number m.minTableWidth),
    ("minTableHeight", .number m.minTableHeight)]

def decodeMetrics (v : Value) : Option (TableMetrics Float) := do
  let base : TableMetrics Float := .standard
  match ← v.fields? ["charWidth", "lineHeight", "paddingX", "paddingY", "headerPadding",
      "minTableWidth", "minTableHeight"] with
  | [charWidth, lineHeight, paddingX, paddingY, headerPadding, minTableWidth, minTableHeight] =>
    pure
      { charWidth := ← Value.optional base.charWidth Value.float? charWidth
        lineHeight := ← Value.optional base.lineHeight Value.float? lineHeight
        paddingX := ← Value.optional base.paddingX Value.float? paddingX
        paddingY := ← Value.optional base.paddingY Value.float? paddingY
        headerPadding := ← Value.optional base.headerPadding Value.float? headerPadding
        minTableWidth := ← Value.optional base.minTableWidth Value.float? minTableWidth
        minTableHeight := ← Value.optional base.minTableHeight Value.float? minTableHeight }
  | _ => none

def decodeWorkspaceConfig (v : Value) : Option (WorkspaceConfig Float) := do
  let base : WorkspaceConfig Float := .standard
  match ← v.fields? ["dialect", "viewport", "metrics"] with
  | [dialect, viewport, metrics] =>
    pure
      { dialect := ← Value.optional base.dialect decodeDialect dialect
        viewport := ← Value.optional base.viewport decodeViewportConfig viewport
        metrics := ← Value.optional base.metrics decodeMetrics metrics }
  | _ => none

/-! ## Rectangles

A rectangle of the canvas is stored as a corner and a size, one of the screen as four numbers. -/

def encodeSize (s : Size Float) : Value :=
  .record [("width", .number s.width), ("height", .number s.height)]

def decodeSize (v : Value) : Option (Size Float) := do
  match ← v.fields? ["width", "height"] with
  | [width, height] =>
    pure ⟨← Value.required Value.float? width, ← Value.required Value.float? height⟩
  | _ => none

def encodeCanvasRect (r : Rect Float) : Value :=
  .record [("origin", encodePoint r.origin), ("size", encodeSize r.size)]

def decodeCanvasRect (v : Value) : Option (Rect Float) := do
  match ← v.fields? ["origin", "size"] with
  | [origin, size] =>
    pure ⟨← Value.required decodePoint origin, ← Value.required decodeSize size⟩
  | _ => none

def encodeScreenRect (r : Rect Float) : Value :=
  .record [("x", .number r.origin.x), ("y", .number r.origin.y), ("width", .number r.size.width),
    ("height", .number r.size.height)]

def decodeScreenRect (v : Value) : Option (Rect Float) := do
  match ← v.fields? ["x", "y", "width", "height"] with
  | [x, y, width, height] =>
    pure
      ⟨⟨← Value.required Value.float? x, ← Value.required Value.float? y⟩,
        ⟨← Value.required Value.float? width, ← Value.required Value.float? height⟩⟩
  | _ => none

/-! ## Scenes and reports -/

def encodeSceneTable (t : SceneTable Float) : Value :=
  .record [("id", encodeId t.id), ("name", .text t.name), ("rect", encodeScreenRect t.rect),
    ("headerHeight", .number t.headerHeight)]

def encodeSceneEdge (e : SceneEdge Float) : Value :=
  .record [("relationshipId", .text e.relationshipId), ("from", encodePoint e.start),
    ("to", encodePoint e.finish)]

def encodeScene (s : Scene Float) : Value :=
  .record [("zoom", .number s.zoom), ("tables", .array (s.tables.map encodeSceneTable)),
    ("edges", .array (s.edges.map encodeSceneEdge))]

/-- A schema with the reports on the script that it was imported from (`Report`). -/
def encodeReport (m : Model Float) (diagnostics : List Sql.Diagnostic) : Value :=
  .record [("tables", .array (m.tables.map encodeTable)),
    ("relationships", .array (m.relationships.map encodeRelationship)),
    ("diagnostics", .array (diagnostics.map fun d => .text d.message))]

end SchemaGraph.Wire
