import SchemaGraph.Proofs.Canvas.GestureRules
import SchemaGraph.Proofs.Canvas.ZoomAnchor

/-!
# The law of panning

While the canvas is panned, the point of it that was under the pointer at the beginning stays there.
Each move pans by the way of the pointer since the last one, at the zoom of that moment, and a zoom
around the pointer leaves the point where it is (`Session.Panning.undergo`). So the ways add up,
however long the gesture lasts and whatever else is done to the schema meanwhile
(`Session.pan_follows_pointer`).
-/

namespace SchemaGraph

/-! ## Changes of the viewport -/

section
variable {K : Type}

/-- The change zooms. -/
def Canvas.ViewChange.isZoom : Canvas.ViewChange K → Bool
  | .zoomBy _ _ | .zoomIn | .zoomOut => true
  | .wheel w => w.modifier
  | .panBy _ _ | .resize _ _ => false

/-- The change of the viewport that the action is, if it is one. -/
def Action.viewChange? : Action K → Option (Canvas.ViewChange K)
  | .wheel w => some (.wheel w)
  | .resize width height => some (.resize width height)
  | .zoomIn => some .zoomIn
  | .zoomOut => some .zoomOut
  | _ => none

namespace CanvasEvent

/-- The change of the viewport that the event is, if it is one. -/
def viewChange? : CanvasEvent K → Option (Canvas.ViewChange K)
  | .act a => a.viewChange?
  | .view change => some change
  | .takeUp _ => none

/-- Where the pointer is after the event, if it was at `p`. -/
def pointerFrom (p : Canvas.Point K) : CanvasEvent K → Canvas.Point K
  | .act (.pointer (.move q)) => q
  | _ => p

/-- The event zooms. -/
def isZoom (e : CanvasEvent K) : Bool := e.viewChange?.any (·.isZoom)

/-- Where the pointer is after the events, if it was at `p`. -/
def pointerAfter (p : Canvas.Point K) (events : List (CanvasEvent K)) : Canvas.Point K :=
  events.foldl pointerFrom p

end CanvasEvent

namespace Session

variable {s : Session K}

theorem viewport_onModel {ε : Type} (p : Method (Model K) ε Unit) (wrap : ε → ActionError) :
    (s.onModel p wrap).2.workspace.viewport = s.workspace.viewport := by
  rw [session_onModel]
  rfl

theorem viewport_commit : s.commit.2.workspace.viewport = s.workspace.viewport := by
  unfold commit
  split
  · rfl
  · exact viewport_onModel _ _

end Session

variable [Scalar K]

theorem Canvas.Viewport.zoom_after {change : Canvas.ViewChange K} (h : change.isZoom = false)
    (v : Canvas.Viewport K) : (v.after change).zoom = v.zoom := by
  cases change with
  | wheel w =>
    have hmodifier : ¬ w.modifier = true := Bool.eq_false_iff.1 h
    rw [after, wheel, if_neg hmodifier]
  | panBy dx dy => rfl
  | resize width height => rfl
  | _ => cases h

namespace Session

variable {s : Session K}

theorem viewport_removeTable (id : TableId) :
    (s.act (.removeTable id)).2.workspace.viewport = s.workspace.viewport := by
  rw [act_removeTable]
  cases s.workspace.model.removeTable id <;> rfl

theorem viewport_finishImport (ticket : UInt32) (text : String) :
    (s.act (.finishImport ticket text)).2.workspace.viewport = s.workspace.viewport := by
  rcases act_finishImport_cases s ticket text with hsame | ⟨_, _, _, -, hdone⟩
  · rw [hsame]
  · rw [hdone]
    rfl

/-- An action changes the viewport if it is such a change, or if it is one of the pointer. -/
theorem viewport_act {a : Action K} (h : ∀ e, a ≠ .pointer e) :
    (s.act a).2.workspace.viewport
      = (a.viewChange?.map s.workspace.viewport.after).getD s.workspace.viewport := by
  have hsame : ∀ {s' : Session K}, s'.workspace = s.workspace →
      s'.workspace.viewport = s.workspace.viewport := fun h => congrArg (fun w => w.viewport) h
  cases a with
  | pointer e => exact absurd rfl (h e)
  | finishImport ticket text => exact viewport_finishImport ticket text
  | importScript text =>
    rw [act_importScript]
    exact viewport_finishImport _ text
  | removeTable id => exact viewport_removeTable id
  | commit => exact viewport_commit
  | replaceTable id t => exact viewport_onModel _ _
  | replaceAll ts => exact viewport_onModel _ _
  | moveTable id position => exact viewport_onModel _ _
  | addColumn id c => exact viewport_onModel _ _
  | updateColumn id index c => exact viewport_onModel _ _
  | removeColumn id index => exact viewport_onModel _ _
  | toggleFlag id index f => exact viewport_onModel _ _
  | setForeignKey id index target => exact viewport_onModel _ _
  | clearForeignKey id index => exact viewport_onModel _ _
  | openEditor id => exact hsame (workspace_openEditor id)
  | editRename name => exact hsame (workspace_onEditor _)
  | editAddColumn => exact hsame workspace_editAddColumn
  | editUpdateColumn index c => exact hsame (workspace_onEditor _)
  | editRemoveColumn index => exact hsame (workspace_onEditor _)
  | editToggleFlag index f => exact hsame (workspace_onEditor _)
  | editSetForeignKey index target => exact hsame (workspace_onEditor _)
  | editClearForeignKey index => exact hsame (workspace_onEditor _)
  | discard => exact hsame workspace_discard
  | _ => rfl

theorem zoom_pointer (e : Canvas.PointerEvent K) :
    (s.act (.pointer e)).2.workspace.viewport.zoom = s.workspace.viewport.zoom := by
  rw [act_pointer]
  cases hhandle : s.workspace.toStage.handle s.workspace.metrics e with
  | error reason => rfl
  | ok r =>
    rcases Canvas.Stage.viewport_handle hhandle with hsame | ⟨dx, dy, hpan⟩
    · exact congrArg (·.zoom) hsame
    · exact congrArg (·.zoom) hpan

/-- Where nothing zooms the zoom stays. -/
theorem zoom_undergo {e : CanvasEvent K} (h : e.isZoom = false) :
    (s.undergo e).workspace.viewport.zoom = s.workspace.viewport.zoom := by
  have hchanged : ∀ {change? : Option (Canvas.ViewChange K)}, change?.any (·.isZoom) = false →
      ((change?.map s.workspace.viewport.after).getD s.workspace.viewport).zoom
        = s.workspace.viewport.zoom := by
    intro change? hnone
    cases change? with
    | none => rfl
    | some change => exact Canvas.Viewport.zoom_after hnone _
  cases e with
  | takeUp editor => rfl
  | view change => exact Canvas.Viewport.zoom_after h _
  | act a =>
    by_cases hpointer : ∃ e, a = .pointer e
    · obtain ⟨e, rfl⟩ := hpointer
      exact zoom_pointer e
    · rw [undergo, viewport_act fun e he => hpointer ⟨e, he⟩]
      exact hchanged h

theorem zoom_undergoAll {events : List (CanvasEvent K)} (h : ∀ e ∈ events, e.isZoom = false) :
    (s.undergoAll events).workspace.viewport.zoom = s.workspace.viewport.zoom := by
  unfold undergoAll
  induction events generalizing s with
  | nil => rfl
  | cons e rest ih =>
    rw [List.forall_mem_cons] at h
    exact (ih h.2).trans (zoom_undergo h.1)

end Session

end

/-! ## One event -/

section
variable {K : Type} [Scalar K] {st st' : Canvas.Stage K} {p : Canvas.Point K}

/-- While the canvas is panned, a move pans by the way of the pointer, and does nothing else. -/
theorem Canvas.Stage.follow_panning (hpan : st.gesture = .panning p) (q : Canvas.Point K) :
    st.follow q = .ok (true, { st with
      viewport := st.viewport.panBy (q.x - p.x) (q.y - p.y), gesture := .panning q }) := by
  rw [follow_eq, hpan]

/-- What is neither an event of the pointer nor an import leaves the gesture as it is. -/
theorem Action.Turns.gesture_of_other {metrics : Canvas.TableMetrics K} {a : Action K}
    (h : a.Turns metrics st st') (hpointer : ∀ e, a ≠ .pointer e) (hkept : a.imports = false) :
    st'.gesture = st.gesture := by
  cases h with
  | edited h => rfl
  | viewed change => rfl
  | pointed h => exact absurd rfl (hpointer _)
  | imported ha h =>
    rw [ha] at hkept
    cases hkept

end

namespace Canvas.Viewport

/-- A pan keeps the point of the canvas under the pointer. -/
theorem toCanvas_panBy (v : Viewport Rat) (p q : Point Rat) :
    (v.panBy (q.x - p.x) (q.y - p.y)).toCanvas q = v.toCanvas p := by
  unfold panBy toCanvas
  congr 1 <;> ring

/-- Between two moments with one zoom, the pan has gone as far as the pointer, if one point of the
canvas was under the pointer both times. -/
theorem pan_of_toCanvas_eq {v w : Viewport Rat} {p q : Point Rat} (hzoom : w.zoom = v.zoom)
    (h : w.toCanvas q = v.toCanvas p) :
    w.pan = ⟨v.pan.x + (q.x - p.x) / v.zoom, v.pan.y + (q.y - p.y) / v.zoom⟩ := by
  rw [w.pan_eq q, h, hzoom]
  unfold toCanvas
  congr 1 <;> ring

end Canvas.Viewport

/-! ## Runs -/

namespace Session

section
variable {K : Type} [Scalar K]

/-- If the event changes the viewport otherwise than by the pointer, it is no pan, and a zoom is
around the point. -/
def ZoomsAt (s : Session K) (p : Canvas.Point K) (e : CanvasEvent K) : Prop :=
  ∀ change, e.viewChange? = some change → (∀ dx dy, change ≠ .panBy dx dy) ∧
    ∀ b, s.workspace.viewport.anchor? change = some b → b = p

theorem zoomsAt_of_none {s : Session K} {p : Canvas.Point K} {e : CanvasEvent K}
    (h : e.viewChange? = none) : s.ZoomsAt p e := by
  intro change hchange
  rw [h] at hchange
  cases hchange

theorem zoomsAt_of_anchor {s : Session K} {p : Canvas.Point K} {e : CanvasEvent K}
    {change : Canvas.ViewChange K} (h : e.viewChange? = some change)
    (hpan : ∀ dx dy, change ≠ .panBy dx dy)
    (hanchor : s.workspace.viewport.anchor? change = some p) : s.ZoomsAt p e := by
  intro other hother
  obtain rfl : change = other := Option.some.inj (h.symm.trans hother)
  refine ⟨hpan, fun b hb => ?_⟩
  exact Option.some.inj (hb.symm.trans hanchor)

/-- Through all of the events the gesture goes on, and each zoom is around the place where the
pointer is when it is its turn. -/
def PansFrom (s : Session K) (p : Canvas.Point K) : List (CanvasEvent K) → Prop
  | [] => True
  | e :: rest => s.Continues e ∧ s.ZoomsAt p e ∧ (s.undergo e).PansFrom (e.pointerFrom p) rest

end

/-- The canvas is panned with the pointer at `p`, and its point `c` is there. -/
structure Panning (s : Session Rat) (p c : Canvas.Point Rat) : Prop where
  gesture : s.workspace.gesture = .panning p
  under : s.workspace.viewport.toCanvas p = c

variable {s : Session Rat} {p c : Canvas.Point Rat}

theorem panning_press (hidle : s.workspace.gesture = .idle) (p₀ : Canvas.Point Rat) :
    s.act (.pointer (.down p₀ .middle))
      = (s.withWorkspace { s.workspace with gesture := .panning p₀ }).answer (.changed false) := by
  have hpress : s.workspace.toStage.press s.workspace.metrics p₀ .middle
      = { s.workspace.toStage with gesture := .panning p₀ } := by
    unfold Canvas.Stage.press
    rw [hidle]
  rw [act_pointer, Canvas.Stage.handle_eq]
  dsimp only
  rw [hpress]

namespace Panning

variable (h : s.Panning p c)
include h

/-- A move of the pointer pans by its way, and does nothing else. -/
theorem act_move (q : Canvas.Point Rat) :
    s.act (.pointer (.move q)) = (s.withWorkspace { s.workspace with
      viewport := s.workspace.viewport.panBy (q.x - p.x) (q.y - p.y)
      gesture := .panning q }).answer (.changed true) := by
  rw [act_pointer, Canvas.Stage.handle_eq]
  dsimp only
  rw [Canvas.Stage.follow_panning h.gesture]

theorem act_down (q : Canvas.Point Rat) (button : Canvas.PointerButton) :
    s.act (.pointer (.down q button)) = s.answer (.changed false) := by
  have hbusy : s.workspace.gesture ≠ .idle := by
    intro hidle
    rw [h.gesture] at hidle
    cases hidle
  rw [act_pointer, Canvas.Stage.handle_eq]
  dsimp only
  rw [Canvas.Stage.press_of_busy hbusy]
  rfl

/-- What the viewport undergoes leaves the point where it is, if it is no pan by the host and each
zoom is around the pointer. -/
theorem toCanvas_changed {change? : Option (Canvas.ViewChange Rat)}
    (hzoom : ∀ change, change? = some change → (∀ dx dy, change ≠ .panBy dx dy) ∧
      ∀ b, s.workspace.viewport.anchor? change = some b → b = p) :
    ((change?.map s.workspace.viewport.after).getD s.workspace.viewport).toCanvas p = c := by
  cases change? with
  | none => exact h.under
  | some change =>
    obtain ⟨hpan, hanchor⟩ := hzoom change rfl
    exact (Canvas.Viewport.toCanvas_after hpan hanchor).trans h.under

/-- An action that is none of the pointer leaves the point under the pointer. -/
theorem act_other {a : Action Rat} (hpointer : ∀ e, a ≠ .pointer e) (hgo : s.Continues (.act a))
    (hzoom : s.ZoomsAt p (.act a)) : (s.act a).2.Panning p c := by
  refine ⟨?_, ?_⟩
  · by_cases himport : a.imports = true
    · obtain ⟨reason, hrefused⟩ := hgo.2 himport
      rw [keeps_act s a reason hrefused, gesture_afterRefusal]
      exact h.gesture
    · refine ((turns_act s a).gesture_of_other hpointer (by simpa using himport)).trans h.gesture
  · rw [viewport_act hpointer]
    exact h.toCanvas_changed hzoom

/-- One event leaves the point under the pointer, wherever the pointer goes. -/
theorem undergo {e : CanvasEvent Rat} (hgo : s.Continues e) (hzoom : s.ZoomsAt p e) :
    (s.undergo e).Panning (e.pointerFrom p) c := by
  cases e with
  | takeUp editor => exact ⟨h.gesture, h.under⟩
  | view change => exact ⟨h.gesture, h.toCanvas_changed hzoom⟩
  | act a =>
    by_cases hpointer : ∃ e, a = .pointer e
    · obtain ⟨e, rfl⟩ := hpointer
      cases e with
      | move q =>
        rw [Session.undergo, h.act_move]
        exact ⟨rfl, (Canvas.Viewport.toCanvas_panBy _ p q).trans h.under⟩
      | down q button =>
        rw [Session.undergo, h.act_down]
        exact h
      | up => cases hgo.1
      | leave => cases hgo.1
    · have hother : ∀ e, a ≠ .pointer e := fun e he => hpointer ⟨e, he⟩
      have hstay : (CanvasEvent.act a).pointerFrom p = p := by
        unfold CanvasEvent.pointerFrom
        split
        · rename_i q ha
          cases ha
          exact absurd rfl (hother _)
        · rfl
      rw [hstay]
      exact h.act_other hother hgo hzoom

/-- And so do many events. -/
theorem undergoAll {events : List (CanvasEvent Rat)} (hgo : s.PansFrom p events) :
    (s.undergoAll events).Panning (CanvasEvent.pointerAfter p events) c := by
  unfold Session.undergoAll CanvasEvent.pointerAfter
  induction events generalizing s p with
  | nil => exact h
  | cons e rest ih => exact ih (h.undergo hgo.1 hgo.2.1) hgo.2.2

end Panning

/-- **The law of panning.** A middle press at `p₀` begins to pan the canvas. As long as it is not
let go of and no import is completed, whatever else happens to the schema, and however often the
canvas is zoomed around the place where the pointer is, the point of the canvas that was under the
pointer at `p₀` is under it. Each further move keeps it there, pans by the way of the pointer and
changes nothing else, and so no table. Without zooms the canvas has been panned, whatever the path,
by the way from `p₀` to the pointer in units of the canvas. With an accepted configuration the zoom
stays in its range, and the point is drawn where the pointer is. -/
theorem pan_follows_pointer {s : Session Rat} (hidle : s.workspace.gesture = .idle)
    (p₀ : Canvas.Point Rat) {events : List (CanvasEvent Rat)}
    (hgo : (s.undergo (.act (.pointer (.down p₀ .middle)))).PansFrom p₀ events) :
    let held := (s.undergo (.act (.pointer (.down p₀ .middle)))).undergoAll events
    let p := CanvasEvent.pointerAfter p₀ events
    let v₀ := s.workspace.viewport
    let v := held.workspace.viewport
    held.workspace.gesture = .panning p ∧ v.toCanvas p = v₀.toCanvas p₀ ∧
      (∀ q, held.act (.pointer (.move q)) = (held.withWorkspace { held.workspace with
          viewport := v.panBy (q.x - p.x) (q.y - p.y), gesture := .panning q }).answer
            (.changed true) ∧
        (v.panBy (q.x - p.x) (q.y - p.y)).toCanvas q = v₀.toCanvas p₀) ∧
      ((∀ e ∈ events, e.isZoom = false) → v.zoom = v₀.zoom ∧
        v.pan = ⟨v₀.pan.x + (p.x - p₀.x) / v₀.zoom, v₀.pan.y + (p.y - p₀.y) / v₀.zoom⟩) ∧
      ∀ config, v₀.InRange config → v.InRange config ∧ v.toScreen (v₀.toCanvas p₀) = p := by
  intro held p v₀ v
  have hpressed : s.undergo (.act (.pointer (.down p₀ .middle)))
      = s.withWorkspace { s.workspace with gesture := .panning p₀ } :=
    congrArg Prod.snd (panning_press hidle p₀)
  have hview : (s.undergo (.act (.pointer (.down p₀ .middle)))).workspace.viewport = v₀ := by
    rw [hpressed]
    rfl
  have hstart : (s.undergo (.act (.pointer (.down p₀ .middle)))).Panning p₀ (v₀.toCanvas p₀) := by
    refine ⟨?_, by rw [hview]⟩
    rw [hpressed]
    rfl
  have hheld : held.Panning p (v₀.toCanvas p₀) := hstart.undergoAll hgo
  refine ⟨hheld.gesture, hheld.under, fun q => ⟨hheld.act_move q, ?_⟩, fun hzoom => ?_,
    fun config hrange => ?_⟩
  · exact (Canvas.Viewport.toCanvas_panBy v p q).trans hheld.under
  · have hsame : v.zoom = v₀.zoom := (zoom_undergoAll hzoom).trans (congrArg (·.zoom) hview)
    exact ⟨hsame, Canvas.Viewport.pan_of_toCanvas_eq hsame hheld.under⟩
  · have hafter : v.InRange config := inRange_undergoAll (hview.symm ▸ hrange) events
    have hdrawn := Canvas.Viewport.toScreen_toCanvas hafter.zoom_pos.ne' p
    rw [hheld.under] at hdrawn
    exact ⟨hafter, hdrawn⟩

/-- Two moves, with a change of the table and two zooms around the pointer between them. -/
def panEvents : List (CanvasEvent Rat) :=
  [.act (.pointer (.move ⟨90, 100⟩)), .act (.wheel ⟨-1, true, some ⟨90, 100⟩⟩),
    .act (.addColumn addedTable.id (.plain "title" "TEXT")), .view (.zoomBy 2 ⟨90, 100⟩),
    .act (.pointer (.move ⟨200, 120⟩))]

theorem pansFrom_panEvents :
    (tableSession.undergo (.act (.pointer (.down ⟨60, 60⟩ .middle)))).PansFrom ⟨60, 60⟩
      panEvents := by
  exact ⟨⟨rfl, nofun⟩, zoomsAt_of_none rfl, ⟨rfl, nofun⟩, zoomsAt_of_anchor rfl nofun rfl,
    ⟨rfl, nofun⟩, zoomsAt_of_none rfl, trivial, zoomsAt_of_anchor rfl nofun rfl, ⟨rfl, nofun⟩,
    zoomsAt_of_none rfl, trivial⟩

theorem pan_follows_panEvents :
    tableSession.workspace.gesture = .idle ∧
      (let held := (tableSession.undergo (.act (.pointer (.down ⟨60, 60⟩ .middle)))).undergoAll
        panEvents
      held.workspace.viewport.zoom ≠ tableSession.workspace.viewport.zoom ∧
      held.workspace.viewport.toCanvas ⟨200, 120⟩
        = tableSession.workspace.viewport.toCanvas ⟨60, 60⟩ ∧
      held.workspace.viewport.InRange .standard) := by
  have hvalid : (Canvas.ViewportConfig.standard : Canvas.ViewportConfig Rat).validate = .ok () := by
    decide +kernel
  have hidle : tableSession.workspace.gesture = .idle := by decide +kernel
  obtain ⟨-, hunder, -, -, hrange⟩ := pan_follows_pointer hidle ⟨60, 60⟩ pansFrom_panEvents
  exact ⟨hidle, by decide +kernel, hunder,
    (hrange _ (Canvas.Viewport.inRange_ofConfig hvalid)).1⟩

end Session

end SchemaGraph
