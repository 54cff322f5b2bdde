import SchemaGraph.Canvas.Metrics
import SchemaGraph.Canvas.Viewport
import SchemaGraph.Schema.Model

/-!
# Pointer gestures

The pointer drags a table by its header, or pans the canvas. A gesture begins when a button goes
down while none is under way, and ends when a button is released or the pointer leaves.
-/

namespace SchemaGraph.Canvas

inductive PointerButton where
  | primary
  | middle
  | secondary
  deriving DecidableEq, Repr

/-- The button with the given code (`from_code`). -/
def PointerButton.ofCode? (code : Int) : Option PointerButton :=
  if code = 0 then some primary
  else if code = 1 then some middle
  else if code = 2 then some secondary
  else none

/-- What the pointer does. Positions are on the screen. -/
inductive PointerEvent (K : Type) where
  | down (position : Point K) (button : PointerButton)
  | move (position : Point K)
  | up
  | leave
  deriving DecidableEq, Repr

inductive Gesture (K : Type) where
  | idle
  /-- A table is dragged. `grab` leads from its top left corner to the point where it was taken. -/
  | dragging (table : TableId) (grab : Point K)
  /-- The canvas is panned. `last` is where the pointer was last seen on the screen. -/
  | panning (last : Point K)
  deriving DecidableEq, Repr

/-- What a gesture acts on. -/
structure Stage (K : Type) where
  model : Model K
  viewport : Viewport K
  gesture : Gesture K
  deriving DecidableEq, Repr

variable {K : Type} [Scalar K]

/-- The topmost table whose header strip holds the point of the canvas (`header_hit`). -/
def headerHit? (m : Model K) (metrics : TableMetrics K) (p : Point K) : Option (Table K) :=
  m.tables.reverse.find? fun t => (metrics.headerRect t).contains p

namespace Stage

def settle (s : Stage K) : Stage K := { s with gesture := .idle }

/-- A gesture begins with a drag of the table under the pointer, if there is one. A table is known
by its identity, so it is the first one of that identity that is taken. -/
def grab (s : Stage K) (metrics : TableMetrics K) (position : Point K) : Stage K :=
  let pointer := s.viewport.toCanvas position
  match headerHit? s.model metrics pointer with
  | none => s
  | some hit =>
    match s.model.table? hit.id with
    | none => s
    | some t => { s with gesture := .dragging hit.id (pointer.minus t.position) }

/-- A button goes down (`pointer_down`). It counts only while no gesture is under way. -/
def press (s : Stage K) (metrics : TableMetrics K) (position : Point K) (button : PointerButton) :
    Stage K :=
  match s.gesture, button with
  | .idle, .primary => s.grab metrics position
  | .idle, .middle => { s with gesture := .panning position }
  | _, _ => s

namespace InPlace

def settle {ε : Type} : Method (Stage K) ε Unit := modify Stage.settle

/-- The pointer moves (`pointer_move`). The answer tells whether anything changed. A drag whose
table is gone ends. -/
def follow (position : Point K) : Method (Stage K) ModelError Bool := do
  match (← get).gesture with
  | .idle => pure false
  | .panning last =>
    modify fun s =>
      { s with viewport := s.viewport.panBy (position.x - last.x) (position.y - last.y) }
    modify fun s => { s with gesture := .panning position }
    pure true
  | .dragging table grab =>
    let target := ((← get).viewport.toCanvas position).minus grab
    try
      (Model.InPlace.moveTable table target).onPart (·.model) fun s model => { s with model }
      pure true
    catch
      | .unknownTable _ =>
        settle
        pure false
      | e => throw e

/-- Takes one pointer event (`handle`). The answer tells whether the model or the viewport
changed. -/
def handle (metrics : TableMetrics K) : PointerEvent K → Method (Stage K) ModelError Bool
  | .down position button => do
    modify fun s => s.press metrics position button
    pure false
  | .move position => follow position
  | .up | .leave => do
    settle
    pure false

end InPlace

/-! ## What the pointer makes of a stage -/

def follow (s : Stage K) (position : Point K) : Except ModelError (Bool × Stage K) :=
  (InPlace.follow position).outcome s

def handle (s : Stage K) (metrics : TableMetrics K) (e : PointerEvent K) :
    Except ModelError (Bool × Stage K) :=
  (InPlace.handle metrics e).outcome s

end Stage

end SchemaGraph.Canvas
