import SchemaGraph.Canvas.Metrics
import SchemaGraph.Canvas.Viewport
import SchemaGraph.Schema.Model

/-!
# The scene

What is drawn of a schema: the boxes of its tables, and an edge for each relationship from the right
side of one header to the left side of another, all in coordinates of the screen.
-/

namespace SchemaGraph.Canvas

structure SceneTable (K : Type) where
  id : TableId
  name : String
  rect : Rect K
  headerHeight : K
  deriving DecidableEq, Repr

structure SceneEdge (K : Type) where
  relationshipId : String
  start : Point K
  finish : Point K
  deriving DecidableEq, Repr

structure Scene (K : Type) where
  zoom : K
  tables : List (SceneTable K)
  edges : List (SceneEdge K)
  deriving DecidableEq, Repr

variable {K : Type} [Scalar K]

/-- The box of the table of the given name. -/
def rectNamed? (m : Model K) (metrics : TableMetrics K) (name : String) : Option (Rect K) :=
  (m.tables.reverse.find? fun t => t.name == name).map metrics.tableRect

/-- Where edges leave a box, in coordinates of the canvas. -/
def outlet (metrics : TableMetrics K) (r : Rect K) : Point K :=
  ⟨r.right, r.origin.y + metrics.headerHeight / Scalar.whole 2⟩

def inlet (metrics : TableMetrics K) (r : Rect K) : Point K :=
  ⟨r.origin.x, r.origin.y + metrics.headerHeight / Scalar.whole 2⟩

def drawTable (v : Viewport K) (metrics : TableMetrics K) (t : Table K) : SceneTable K where
  id := t.id
  name := t.name
  rect := v.rectToScreen (metrics.tableRect t)
  headerHeight := metrics.headerHeight * v.zoom

/-- A relationship as it is drawn, if both of its tables are there. -/
def drawEdge? (m : Model K) (v : Viewport K) (metrics : TableMetrics K) (r : Relationship) :
    Option (SceneEdge K) :=
  match rectNamed? m metrics r.fromTable, rectNamed? m metrics r.toTable with
  | some fromRect, some toRect =>
    some ⟨r.id, v.toScreen (outlet metrics fromRect), v.toScreen (inlet metrics toRect)⟩
  | _, _ => none

/-- The scene of a schema (`Scene::build`). -/
def Scene.build (m : Model K) (v : Viewport K) (metrics : TableMetrics K) : Scene K where
  zoom := v.zoom
  tables := m.tables.map (drawTable v metrics)
  edges := m.relationships.filterMap (drawEdge? m v metrics)

end SchemaGraph.Canvas
