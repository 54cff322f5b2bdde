import Mathlib.Algebra.Order.Field.Rat
import Mathlib.Tactic.FieldSimp
import Mathlib.Tactic.Ring
import SchemaGraph.Proofs.Canvas.CanvasEvents

/-!
# The zoom stays in its range

In exact arithmetic the zoom of a viewport is in the range of its configuration from the start, and
whatever is done to the viewport brings it back into the range (`Viewport.InRange.after`). The range
has positive numbers only, so nothing is ever divided by zero, and the canvas and the screen are
mapped one to one (`Session.zoom_inRange`).
-/

namespace SchemaGraph

/-! ## Exact arithmetic -/

namespace Scalar

theorem larger_rat (a b : Rat) : larger a b = max a b := by
  have hself : same a a = true := beq_self_eq_true a
  rw [larger, if_pos hself, max_def_lt]
  exact if_congr decide_eq_true_iff rfl rfl

theorem smaller_rat (a b : Rat) : smaller a b = min a b := by
  have hself : same a a = true := beq_self_eq_true a
  rw [smaller, if_pos hself, min_comm, min_def_lt]
  exact if_congr decide_eq_true_iff rfl rfl

end Scalar

namespace Canvas

theorem ViewportConfig.clampZoom_rat (c : ViewportConfig Rat) (zoom : Rat) :
    c.clampZoom zoom = max (min zoom c.maxZoom) c.minZoom := by
  rw [clampZoom, Scalar.larger_rat, Scalar.smaller_rat]

/-- The configurations that are accepted have a range of positive numbers. -/
theorem ViewportConfig.range_of_validate {c : ViewportConfig Rat} (h : c.validate = .ok ()) :
    0 < c.minZoom ∧ c.minZoom ≤ c.maxZoom := by
  unfold validate at h
  split at h
  · cases h
  · rename_i hrange
    simpa [rangeIsValid, Scalar.less, Scalar.atMost, Scalar.whole, Scalar.finite] using hrange

/-! ## The range -/

namespace Viewport

/-- The viewport has the configuration, which is one that is accepted, and its zoom is in the
range. -/
structure InRange (config : ViewportConfig Rat) (v : Viewport Rat) : Prop where
  valid : config.validate = .ok ()
  configured : v.config = config
  min : config.minZoom ≤ v.zoom
  max : v.zoom ≤ config.maxZoom

variable {config : ViewportConfig Rat} {v w : Viewport Rat}

theorem InRange.zoom_pos (h : v.InRange config) : 0 < v.zoom :=
  (ViewportConfig.range_of_validate h.valid).1.trans_le h.min

theorem InRange.clampZoom_pos (h : v.InRange config) (zoom : Rat) :
    0 < v.config.clampZoom zoom := by
  rw [h.configured, ViewportConfig.clampZoom_rat]
  exact (ViewportConfig.range_of_validate h.valid).1.trans_le (le_max_right _ _)

/-- A zoom that is brought into the range is in it. -/
theorem inRange_of_clampZoom {zoom : Rat} (hvalid : config.validate = .ok ())
    (hconfig : v.config = config) (hzoom : v.zoom = config.clampZoom zoom) :
    v.InRange config := by
  rw [ViewportConfig.clampZoom_rat] at hzoom
  refine ⟨hvalid, hconfig, hzoom ▸ le_max_right _ _, hzoom ▸ max_le (min_le_right _ _) ?_⟩
  exact (ViewportConfig.range_of_validate hvalid).2

theorem inRange_ofConfig (h : config.validate = .ok ()) : (ofConfig config).InRange config :=
  inRange_of_clampZoom h rfl rfl

theorem InRange.of_zoom (h : v.InRange config) (hconfig : w.config = v.config)
    (hzoom : w.zoom = v.zoom) : w.InRange config :=
  ⟨h.valid, hconfig.trans h.configured, hzoom ▸ h.min, hzoom ▸ h.max⟩

theorem InRange.zoomBy (h : v.InRange config) (factor : Rat) (anchor : Point Rat) :
    (v.zoomBy factor anchor).InRange config := by
  unfold Viewport.zoomBy
  dsimp only
  split
  · exact h
  · exact inRange_of_clampZoom h.valid h.configured (by rw [← h.configured]; rfl)

/-- Whatever is done, the zoom stays in the range. -/
theorem InRange.after (h : v.InRange config) (change : ViewChange Rat) :
    (v.after change).InRange config := by
  rcases v.after_cases change with
    hsame | ⟨factor, anchor, hzoom⟩ | ⟨dx, dy, hpan⟩ | ⟨width, height, hsize⟩
  · rwa [hsame]
  · exact hzoom ▸ h.zoomBy factor anchor
  · exact hpan ▸ h.of_zoom rfl rfl
  · exact hsize ▸ h.of_zoom rfl rfl

/-! ## The two planes -/

theorem toScreen_toCanvas (h : v.zoom ≠ 0) (p : Point Rat) : v.toScreen (v.toCanvas p) = p := by
  unfold toScreen toCanvas
  congr 1 <;> field_simp <;> ring

theorem toCanvas_toScreen (h : v.zoom ≠ 0) (p : Point Rat) : v.toCanvas (v.toScreen p) = p := by
  unfold toScreen toCanvas
  congr 1 <;> field_simp <;> ring

end Viewport

end Canvas

/-! ## Checked division -/

/-- A number, unless it was divided by zero on the way to it. -/
inductive Checked where
  | number (x : Rat)
  | undefined
  deriving DecidableEq

namespace Checked

/-- An operation on numbers. It has no result where one of the operands has none. -/
def lift (op : Rat → Rat → Checked) : Checked → Checked → Checked
  | number x, number y => op x y
  | _, _ => undefined

/-- A comparison of numbers. It fails where one of the sides has none. -/
def compare (rel : Rat → Rat → Bool) : Checked → Checked → Bool
  | number x, number y => rel x y
  | _, _ => false

instance : Scalar Checked where
  add := lift fun x y => number (x + y)
  sub := lift fun x y => number (x - y)
  mul := lift fun x y => number (x * y)
  div := lift fun x y => if y = 0 then undefined else number (x / y)
  whole n := number (Scalar.whole n)
  fraction m places := number (Scalar.fraction m places)
  less := compare Scalar.less
  atMost := compare Scalar.atMost
  same := compare Scalar.same
  finite x := x != undefined

theorem number_add (x y : Rat) : number x + number y = number (x + y) := rfl
theorem number_sub (x y : Rat) : number x - number y = number (x - y) := rfl
theorem number_div (x : Rat) {y : Rat} (h : y ≠ 0) : number x / number y = number (x / y) :=
  if_neg h

theorem larger_number (x y : Rat) :
    Scalar.larger (number x) (number y) = number (Scalar.larger x y) := by
  have hself : Scalar.same (number x) (number x) = true := beq_self_eq_true x
  have hself' : Scalar.same x x = true := beq_self_eq_true x
  rw [Scalar.larger, Scalar.larger, if_pos hself, if_pos hself', apply_ite number]
  rfl

theorem smaller_number (x y : Rat) :
    Scalar.smaller (number x) (number y) = number (Scalar.smaller x y) := by
  have hself : Scalar.same (number x) (number x) = true := beq_self_eq_true x
  have hself' : Scalar.same x x = true := beq_self_eq_true x
  rw [Scalar.smaller, Scalar.smaller, if_pos hself, if_pos hself', apply_ite number]
  rfl

end Checked

namespace Canvas

open Checked

def Point.checked (p : Point Rat) : Point Checked := ⟨number p.x, number p.y⟩

def Size.checked (s : Size Rat) : Size Checked := ⟨number s.width, number s.height⟩

def ViewportConfig.checked (c : ViewportConfig Rat) : ViewportConfig Checked :=
  ⟨number c.minZoom, number c.maxZoom, number c.zoomInFactor, number c.zoomOutFactor⟩

def Wheel.checked (w : Wheel Rat) : Wheel Checked :=
  ⟨number w.deltaY, w.modifier, w.position.map Point.checked⟩

def ViewChange.checked : ViewChange Rat → ViewChange Checked
  | zoomBy factor anchor => zoomBy (number factor) anchor.checked
  | zoomIn => zoomIn
  | zoomOut => zoomOut
  | wheel w => wheel w.checked
  | panBy dx dy => panBy (number dx) (number dy)
  | resize width height => resize (number width) (number height)

theorem ViewportConfig.clampZoom_checked (c : ViewportConfig Rat) (zoom : Rat) :
    c.checked.clampZoom (number zoom) = number (c.clampZoom zoom) := by
  rw [clampZoom, clampZoom, checked, smaller_number, larger_number]

namespace Viewport

/-- The viewport with numbers that are checked. -/
def checked (v : Viewport Rat) : Viewport Checked where
  config := v.config.checked
  zoom := number v.zoom
  pan := v.pan.checked
  size := v.size.checked

variable {config : ViewportConfig Rat} {v : Viewport Rat}

/-- No coordinate of the canvas is undefined. -/
theorem toCanvas_checked (h : v.zoom ≠ 0) (p : Point Rat) :
    v.checked.toCanvas p.checked = (v.toCanvas p).checked := by
  simp only [toCanvas, checked, Point.checked, number_div _ h, number_sub]

theorem center_checked (v : Viewport Rat) : v.checked.center = v.center.checked := by
  have htwo : (Scalar.whole 2 : Rat) ≠ 0 := two_ne_zero
  exact congrArg₂ Point.mk (number_div v.size.width htwo) (number_div v.size.height htwo)

theorem zoomBy_checked (h : v.InRange config) (factor : Rat) (anchor : Point Rat) :
    v.checked.zoomBy (number factor) anchor.checked = (v.zoomBy factor anchor).checked := by
  have hzoom := (h.clampZoom_pos (v.zoom * factor)).ne'
  have hclamp : v.checked.config.clampZoom (v.checked.zoom * number factor)
      = number (v.config.clampZoom (v.zoom * factor)) := v.config.clampZoom_checked _
  unfold zoomBy
  rw [toCanvas_checked h.zoom_pos.ne', hclamp]
  dsimp only
  have hsame : Scalar.same (number (v.config.clampZoom (v.zoom * factor))) v.checked.zoom
      = Scalar.same (v.config.clampZoom (v.zoom * factor)) v.zoom := rfl
  rw [hsame]
  split
  · rfl
  · simp only [zoomTo, checked, Point.checked, number_div _ hzoom, number_sub]

theorem panBy_checked (h : v.zoom ≠ 0) (dx dy : Rat) :
    v.checked.panBy (number dx) (number dy) = (v.panBy dx dy).checked := by
  simp only [panBy, checked, Point.checked, number_div _ h, number_add]

theorem wheel_checked (h : v.InRange config) (w : Wheel Rat) :
    (v.checked.wheel w.checked).2 = (v.wheel w).2.checked := by
  have hanchor : w.checked.position.getD v.checked.center
      = (w.position.getD v.center).checked := by
    rw [center_checked]
    exact Option.getD_map Point.checked v.center w.position
  have hfactor : (if Scalar.less (Scalar.whole 0) (number w.deltaY) then
        number v.config.zoomOutFactor else number v.config.zoomInFactor)
      = number (if Scalar.less (Scalar.whole 0) w.deltaY then v.config.zoomOutFactor
        else v.config.zoomInFactor) := (apply_ite number _ _ _).symm
  have hmodifier : w.checked.modifier = w.modifier := rfl
  unfold wheel
  rw [hanchor, hmodifier]
  split
  · exact (congrArg (v.checked.zoomBy · _) hfactor).trans (zoomBy_checked h _ _)
  · rfl

theorem resize_checked (v : Viewport Rat) (width height : Rat) :
    v.checked.resize (number width) (number height) = (v.resize width height).checked := by
  have hzero : (Scalar.whole 0 : Checked) = number (Scalar.whole 0) := rfl
  simp only [resize, checked, Size.checked, hzero, larger_number]

/-- No change leads to anything undefined. -/
theorem after_checked (h : v.InRange config) (change : ViewChange Rat) :
    v.checked.after change.checked = (v.after change).checked := by
  cases change with
  | zoomBy factor anchor => exact zoomBy_checked h factor anchor
  | zoomIn =>
    show v.checked.zoomBy (number v.config.zoomInFactor) v.checked.center = _
    rw [center_checked]
    exact zoomBy_checked h _ _
  | zoomOut =>
    show v.checked.zoomBy (number v.config.zoomOutFactor) v.checked.center = _
    rw [center_checked]
    exact zoomBy_checked h _ _
  | wheel w => exact wheel_checked h w
  | panBy dx dy => exact panBy_checked h.zoom_pos.ne' dx dy
  | resize width height => exact resize_checked v width height

end Viewport

end Canvas

/-! ## Runs -/

namespace Session

theorem inRange_undergoAll {config : Canvas.ViewportConfig Rat} {s : Session Rat}
    (h : s.workspace.viewport.InRange config) (events : List (CanvasEvent Rat)) :
    (s.undergoAll events).workspace.viewport.InRange config :=
  undergoAll_viewport (fun _ change hrange => hrange.after change) h events

/-- **The zoom stays in its range.** Whatever happens to a session that began with a new viewport,
the zoom is in the range of the configuration. So it is positive; every coordinate and every further
change of the viewport is computed without dividing by zero; and the points of the canvas and of the
screen correspond to each other. -/
theorem zoom_inRange {config : Canvas.ViewportConfig Rat} (hvalid : config.validate = .ok ())
    {s : Session Rat} (hnew : s.workspace.viewport = .ofConfig config)
    (events : List (CanvasEvent Rat)) :
    let v := (s.undergoAll events).workspace.viewport
    (v.config = config ∧ config.minZoom ≤ v.zoom ∧ v.zoom ≤ config.maxZoom ∧ 0 < v.zoom) ∧
      (∀ p, v.checked.toCanvas p.checked = (v.toCanvas p).checked) ∧
      (∀ change, v.checked.after change.checked = (v.after change).checked) ∧
      (∀ p, v.toScreen (v.toCanvas p) = p) ∧ ∀ q, v.toCanvas (v.toScreen q) = q := by
  intro v
  have h : v.InRange config :=
    inRange_undergoAll (hnew ▸ Canvas.Viewport.inRange_ofConfig hvalid) events
  have hzoom : v.zoom ≠ 0 := h.zoom_pos.ne'
  exact ⟨⟨h.configured, h.min, h.max, h.zoom_pos⟩, Canvas.Viewport.toCanvas_checked hzoom,
    Canvas.Viewport.after_checked h, Canvas.Viewport.toScreen_toCanvas hzoom,
    Canvas.Viewport.toCanvas_toScreen hzoom⟩

/-- A range that the natural size is not in. -/
def closeRange : Canvas.ViewportConfig Rat := ⟨2, 5 / 2, 11 / 10, 9 / 10⟩

def closeSession : Session Rat :=
  ofWorkspace (.ofConfig ⟨.standard, closeRange, .standard⟩ ⟨0, 0⟩)

/-- Zooms that leave the range on either side, one of them by a negative factor, and a pan in
between. -/
def closeEvents : List (CanvasEvent Rat) :=
  [.view (.zoomBy 3 ⟨7, 5⟩), .act (.pointer (.down ⟨0, 0⟩ .middle)),
    .act (.pointer (.move ⟨30, 10⟩)), .view (.zoomBy (-3) ⟨7, 5⟩), .act .zoomIn]

theorem zoom_inRange_close :
    closeRange.validate = .ok () ∧ closeSession.workspace.viewport = .ofConfig closeRange ∧
      (let v := (closeSession.undergoAll closeEvents).workspace.viewport
      v.zoom = 11 / 5 ∧ (closeRange.minZoom ≤ v.zoom ∧ v.zoom ≤ closeRange.maxZoom) ∧
        ∀ change, v.checked.after change.checked = (v.after change).checked) := by
  have hvalid : closeRange.validate = .ok () := by decide +kernel
  have hrun := zoom_inRange hvalid (s := closeSession) rfl closeEvents
  exact ⟨hvalid, rfl, by decide +kernel, ⟨hrun.1.2.1, hrun.1.2.2.1⟩, hrun.2.2.1⟩

end Session

end SchemaGraph
