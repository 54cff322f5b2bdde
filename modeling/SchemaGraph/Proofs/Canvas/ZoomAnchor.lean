import SchemaGraph.Proofs.Canvas.ZoomRange

/-!
# Zooming does not drift

A zoom keeps the point of the canvas that lies under its anchor, also where the zoom is cut off at
an end of its range. In exact arithmetic nothing adds up over many zooms: after any of them around
one anchor, the pan is known from the zoom alone (`Viewport.pan_of_zoomsAround`). What happened in
between, and how often the end of the range was met, makes no difference.
-/

namespace SchemaGraph.Canvas

namespace Viewport

section
variable {K : Type} [Scalar K]

/-- The point of the screen around which a change zooms; none for a change that is no zoom. -/
def anchor? (v : Viewport K) : ViewChange K → Option (Point K)
  | .zoomBy _ anchor => some anchor
  | .zoomIn | .zoomOut => some v.center
  | .wheel w => if w.modifier then some (w.position.getD v.center) else none
  | .panBy _ _ | .resize _ _ => none

/-- The viewport after changes in order. -/
def afterAll (v : Viewport K) (changes : List (ViewChange K)) : Viewport K :=
  changes.foldl after v

/-- All zooms among the changes are around the point `a`, and none of the changes is a pan. A change
of the size moves the middle of the view, so whether a zoom is around `a` is asked when it is its
turn. -/
def ZoomsAround (a : Point K) (v : Viewport K) : List (ViewChange K) → Prop
  | [] => True
  | change :: rest =>
    (∀ dx dy, change ≠ .panBy dx dy) ∧ (∀ b, v.anchor? change = some b → b = a) ∧
      (v.after change).ZoomsAround a rest

/-- A zoom is one by some factor around its anchor. -/
theorem after_of_anchor? {v : Viewport K} {change : ViewChange K} {b : Point K}
    (h : v.anchor? change = some b) : ∃ factor, v.after change = v.zoomBy factor b := by
  cases change with
  | zoomBy factor anchor =>
    cases h
    exact ⟨factor, rfl⟩
  | zoomIn =>
    cases h
    exact ⟨_, rfl⟩
  | zoomOut =>
    cases h
    exact ⟨_, rfl⟩
  | wheel w =>
    dsimp only [anchor?] at h
    split at h
    · rename_i hmodifier
      cases h
      exact ⟨_, by rw [after, wheel, if_pos hmodifier]⟩
    · cases h
  | panBy dx dy => cases h
  | resize width height => cases h

/-- What is neither a zoom nor a pan leaves both planes where they are. -/
theorem after_of_not_zoom {v : Viewport K} {change : ViewChange K} (h : v.anchor? change = none)
    (hpan : ∀ dx dy, change ≠ .panBy dx dy) :
    (v.after change).zoom = v.zoom ∧ (v.after change).pan = v.pan := by
  cases change with
  | wheel w =>
    dsimp only [anchor?] at h
    split at h
    · cases h
    · rename_i hmodifier
      rw [after, wheel, if_neg hmodifier]
      exact ⟨rfl, rfl⟩
  | panBy dx dy => exact absurd rfl (hpan dx dy)
  | resize width height => exact ⟨rfl, rfl⟩
  | _ => cases h

end

variable {v w : Viewport Rat}

/-! ## One zoom -/

/-- The point under the anchor stays. This is so whether the zoom changes or, at an end of the
range, does not. -/
theorem toCanvas_zoomBy (v : Viewport Rat) (factor : Rat) (anchor : Point Rat) :
    (v.zoomBy factor anchor).toCanvas anchor = v.toCanvas anchor := by
  unfold zoomBy
  dsimp only
  split
  · rfl
  · exact congrArg₂ Point.mk (sub_sub_cancel _ _) (sub_sub_cancel _ _)

theorem toCanvas_of_eq (hzoom : w.zoom = v.zoom) (hpan : w.pan = v.pan) (p : Point Rat) :
    w.toCanvas p = v.toCanvas p := by
  unfold toCanvas
  rw [hzoom, hpan]

/-- The pan is known from the zoom and from one point of each plane. -/
theorem pan_eq (v : Viewport Rat) (p : Point Rat) :
    v.pan = ⟨p.x / v.zoom - (v.toCanvas p).x, p.y / v.zoom - (v.toCanvas p).y⟩ :=
  congrArg₂ Point.mk (sub_sub_cancel _ _).symm (sub_sub_cancel _ _).symm

/-! ## Many zooms -/

theorem InRange.afterAll {config : ViewportConfig Rat} (h : v.InRange config)
    (changes : List (ViewChange Rat)) : (v.afterAll changes).InRange config := by
  unfold Viewport.afterAll
  induction changes generalizing v with
  | nil => exact h
  | cons change rest ih => exact ih (h.after change)

theorem toCanvas_after {a : Point Rat} {change : ViewChange Rat}
    (hpan : ∀ dx dy, change ≠ .panBy dx dy) (hanchor : ∀ b, v.anchor? change = some b → b = a) :
    (v.after change).toCanvas a = v.toCanvas a := by
  cases hb : v.anchor? change with
  | none =>
    obtain ⟨hzoom, hsame⟩ := after_of_not_zoom hb hpan
    exact toCanvas_of_eq hzoom hsame a
  | some b =>
    obtain ⟨factor, hzoom⟩ := after_of_anchor? hb
    rw [hzoom, hanchor b hb, toCanvas_zoomBy]

theorem toCanvas_afterAll {a : Point Rat} {changes : List (ViewChange Rat)}
    (h : v.ZoomsAround a changes) : (v.afterAll changes).toCanvas a = v.toCanvas a := by
  unfold afterAll
  induction changes generalizing v with
  | nil => rfl
  | cons change rest ih => exact (ih h.2.2).trans (toCanvas_after h.1 h.2.1)

/-- **Zooming does not drift.** Each zoom leaves the point of the canvas under its anchor where it
is. So after any zooms around one anchor `a`, in any order and with changes of the size between
them, the point that lay under `a` at the beginning still does, and the pan follows from the zoom:
whatever leads to the same zoom leads to the same pan, and back at the first zoom the pan is what it
was. With an accepted configuration the zoom stays in its range, and the point is drawn at `a`. -/
theorem pan_of_zoomsAround (v : Viewport Rat) :
    (∀ change anchor, v.anchor? change = some anchor →
      (v.after change).toCanvas anchor = v.toCanvas anchor) ∧
    ∀ a changes, v.ZoomsAround a changes →
      let c := v.toCanvas a
      let w := v.afterAll changes
      w.toCanvas a = c ∧ w.pan = ⟨a.x / w.zoom - c.x, a.y / w.zoom - c.y⟩ ∧
        (∀ others, v.ZoomsAround a others → (v.afterAll others).zoom = w.zoom →
          (v.afterAll others).pan = w.pan) ∧
        (w.zoom = v.zoom → w.pan = v.pan) ∧
        ∀ config, v.InRange config → w.InRange config ∧ w.toScreen c = a := by
  refine ⟨fun change anchor hanchor => ?_, fun a changes hzooms => ?_⟩
  · obtain ⟨factor, hzoom⟩ := after_of_anchor? hanchor
    rw [hzoom, toCanvas_zoomBy]
  intro c w
  have hfixed : ∀ {others}, v.ZoomsAround a others → (v.afterAll others).pan
      = ⟨a.x / (v.afterAll others).zoom - c.x, a.y / (v.afterAll others).zoom - c.y⟩ := by
    intro others hothers
    have hpan := (v.afterAll others).pan_eq a
    rwa [toCanvas_afterAll hothers] at hpan
  refine ⟨toCanvas_afterAll hzooms, hfixed hzooms, fun others hothers hsame => ?_, fun hback => ?_,
    fun config hrange => ?_⟩
  · rw [hfixed hothers, hsame, hfixed hzooms]
  · rw [hfixed hzooms, hback]
    exact (v.pan_eq a).symm
  · have hafter : w.InRange config := hrange.afterAll changes
    have hdrawn := toScreen_toCanvas hafter.zoom_pos.ne' a
    rw [toCanvas_afterAll hzooms] at hdrawn
    exact ⟨hafter, hdrawn⟩

/-- A viewport that was panned and has a size. -/
def pannedViewport : Viewport Rat :=
  (ofConfig .standard).afterAll [.resize 800 600, .panBy 35 (-12)]

/-- A zoom that is cut off at the upper end, a turn of the wheel that is none, a smaller view and
back again, a zoom by the wheel without a position, and a zoom back. -/
def cutOffZooms : List (ViewChange Rat) :=
  [.zoomBy 3 ⟨400, 300⟩, .wheel ⟨1, false, none⟩, .resize 80 60, .zoomBy (9 / 10) ⟨400, 300⟩,
    .resize 800 600, .wheel ⟨1, true, none⟩, .zoomBy (50 / 81) ⟨400, 300⟩]

/-- The range ends at 2, so the factors of the zooms do not make up for each other. -/
theorem pan_of_cutOffZooms :
    pannedViewport.ZoomsAround ⟨400, 300⟩ cutOffZooms ∧
      (pannedViewport.afterAll cutOffZooms).zoom = pannedViewport.zoom ∧
      (pannedViewport.afterAll cutOffZooms).pan = pannedViewport.pan ∧
      (pannedViewport.afterAll cutOffZooms).toScreen (pannedViewport.toCanvas ⟨400, 300⟩)
        = ⟨400, 300⟩ := by
  have hzooms : pannedViewport.ZoomsAround ⟨400, 300⟩ cutOffZooms := by
    have hmiddle : (pannedViewport.afterAll (cutOffZooms.take 5)).center = ⟨400, 300⟩ := by
      decide +kernel
    have hgiven : ∀ b, some (⟨400, 300⟩ : Point Rat) = some b → b = ⟨400, 300⟩ :=
      fun _ hb => (Option.some.inj hb).symm
    have hwheel : ∀ b, some (pannedViewport.afterAll (cutOffZooms.take 5)).center = some b →
        b = ⟨400, 300⟩ := fun b hb => hgiven b (hmiddle ▸ hb)
    exact ⟨nofun, hgiven, nofun, nofun, nofun, nofun, nofun, hgiven, nofun, nofun, nofun, hwheel,
      nofun, hgiven, trivial⟩
  have hzoom : (pannedViewport.afterAll cutOffZooms).zoom = pannedViewport.zoom := by
    decide +kernel
  have hrange : pannedViewport.InRange .standard :=
    (inRange_ofConfig (by decide +kernel)).afterAll _
  obtain ⟨-, -, -, hback, hdrawn⟩ := pannedViewport.pan_of_zoomsAround.2 _ _ hzooms
  exact ⟨hzooms, hzoom, hback hzoom, (hdrawn _ hrange).2⟩

end Viewport

end SchemaGraph.Canvas
