import SchemaGraph.Canvas.Geometry
import SchemaGraph.Decimal.Notation

/-!
# The viewport

Zoom and pan lead from the canvas to the screen: a canvas point `p` is drawn at
`zoom * (p + pan)`. Zooming keeps one point of the screen, the anchor, over the same point of the
canvas.
-/

namespace SchemaGraph.Canvas

/-- The zoom range and the factors of one zoom step. -/
structure ViewportConfig (K : Type) where
  minZoom : K
  maxZoom : K
  zoomInFactor : K
  zoomOutFactor : K
  deriving DecidableEq, Repr

inductive ViewportConfigError (K : Type) where
  | zoomRange (min max : K)
  | zoomFactor (name : String) (value : K)
  deriving DecidableEq, Repr

def ViewportConfigError.message : ViewportConfigError Float → String
  | zoomRange min max =>
    "Invalid zoom range: minZoom " ++ Decimal.messageText min ++ " and maxZoom "
      ++ Decimal.messageText max ++ " must satisfy 0 < minZoom <= maxZoom"
  | zoomFactor name value =>
    "Invalid " ++ name ++ ": " ++ Decimal.messageText value ++ " (must be a positive number)"

variable {K : Type} [Scalar K]

namespace ViewportConfig

def standard : ViewportConfig K where
  minZoom := Scalar.fraction 1 1
  maxZoom := Scalar.whole 2
  zoomInFactor := Scalar.fraction 11 1
  zoomOutFactor := Scalar.fraction 9 1

def isPositive (x : K) : Bool := Scalar.less (Scalar.whole 0) x && Scalar.finite x

def rangeIsValid (c : ViewportConfig K) : Bool :=
  Scalar.less (Scalar.whole 0) c.minZoom && Scalar.atMost c.minZoom c.maxZoom
    && Scalar.finite c.maxZoom

/-- The configuration can be used (`validate`). -/
def validate (c : ViewportConfig K) : Except (ViewportConfigError K) Unit :=
  if !c.rangeIsValid then .error (.zoomRange c.minZoom c.maxZoom)
  else if !isPositive c.zoomInFactor then .error (.zoomFactor "zoomInFactor" c.zoomInFactor)
  else if !isPositive c.zoomOutFactor then .error (.zoomFactor "zoomOutFactor" c.zoomOutFactor)
  else .ok ()

/-- The zoom, brought into the range (`clamp_zoom`). The lower end wins if the range is empty. -/
def clampZoom (c : ViewportConfig K) (zoom : K) : K :=
  Scalar.larger (Scalar.smaller zoom c.maxZoom) c.minZoom

end ViewportConfig

structure Wheel (K : Type) where
  deltaY : K
  /-- The key that makes the wheel zoom is held. -/
  modifier : Bool
  position : Option (Point K)

/-- The part of the canvas that is on the screen. -/
structure Viewport (K : Type) where
  config : ViewportConfig K
  zoom : K
  pan : Point K
  size : Size K
  deriving DecidableEq, Repr

namespace Viewport

/-- A new viewport, not panned, as near to the natural size as the range admits
(`CanvasViewport::new`). -/
def ofConfig (config : ViewportConfig K) : Viewport K where
  config
  zoom := config.clampZoom (Scalar.whole 1)
  pan := Point.zero
  size := ⟨Scalar.whole 0, Scalar.whole 0⟩

/-! ## The two planes -/

/-- Where a point of the canvas is drawn (`to_screen`). -/
def toScreen (v : Viewport K) (p : Point K) : Point K :=
  ⟨v.zoom * (p.x + v.pan.x), v.zoom * (p.y + v.pan.y)⟩

/-- The point of the canvas that is drawn at a point of the screen (`to_canvas`). -/
def toCanvas (v : Viewport K) (p : Point K) : Point K :=
  ⟨p.x / v.zoom - v.pan.x, p.y / v.zoom - v.pan.y⟩

/-- Where a rectangle of the canvas is drawn (`rect_to_screen`). -/
def rectToScreen (v : Viewport K) (r : Rect K) : Rect K :=
  ⟨v.toScreen r.origin, ⟨r.size.width * v.zoom, r.size.height * v.zoom⟩⟩

def center (v : Viewport K) : Point K :=
  ⟨v.size.width / Scalar.whole 2, v.size.height / Scalar.whole 2⟩

/-! ## Changes -/

/-- Sets the size of the view (`set_size`). A negative measure counts as zero. -/
def resize (v : Viewport K) (width height : K) : Viewport K :=
  let zero : K := Scalar.whole 0
  { v with size := ⟨Scalar.larger width zero, Scalar.larger height zero⟩ }

/-- Moves the canvas by a distance on the screen (`pan_by`). -/
def panBy (v : Viewport K) (dx dy : K) : Viewport K :=
  { v with pan := ⟨v.pan.x + dx / v.zoom, v.pan.y + dy / v.zoom⟩ }

/-- The viewport at another zoom, with the canvas point `fixed` drawn at `anchor`. -/
def zoomTo (v : Viewport K) (zoom : K) (anchor fixed : Point K) : Viewport K :=
  { v with zoom, pan := ⟨anchor.x / zoom - fixed.x, anchor.y / zoom - fixed.y⟩ }

/-- Multiplies the zoom, within the range, around a point of the screen (`zoom_by`). -/
def zoomBy (v : Viewport K) (factor : K) (anchor : Point K) : Viewport K :=
  let zoom := v.config.clampZoom (v.zoom * factor)
  if Scalar.same zoom v.zoom then v else v.zoomTo zoom anchor (v.toCanvas anchor)

/-- One step nearer, around the middle of the view (`zoom_in`). -/
def zoomIn (v : Viewport K) : Viewport K := v.zoomBy v.config.zoomInFactor v.center

def zoomOut (v : Viewport K) : Viewport K := v.zoomBy v.config.zoomOutFactor v.center

/-- Turns the wheel (`wheel`). Without the modifier nothing happens, and the answer is false. -/
def wheel (v : Viewport K) (w : Wheel K) : Bool × Viewport K :=
  if w.modifier then
    let factor :=
      if Scalar.less (Scalar.whole 0) w.deltaY then v.config.zoomOutFactor
      else v.config.zoomInFactor
    (true, v.zoomBy factor (w.position.getD v.center))
  else (false, v)

end Viewport

end SchemaGraph.Canvas
