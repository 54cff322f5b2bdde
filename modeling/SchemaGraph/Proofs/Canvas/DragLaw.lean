import SchemaGraph.Proofs.Canvas.ZoomRange

/-!
# The law of dragging

A table that is dragged stays under the pointer at the point at which it was taken. Its place is
computed anew at each move, from the pointer and from the zoom and the pan of that moment, so it
makes no difference what was done to the viewport and to the schema in the meantime
(`Session.drag_follows_pointer`).
-/

namespace SchemaGraph

/-! ## Under the pointer -/

namespace Canvas.Viewport

variable {v w : Viewport Rat}

/-- The point at which something was taken is drawn at the pointer. -/
theorem toScreen_add_grab (h : v.zoom ≠ 0) (p grab : Point Rat) :
    v.toScreen ⟨((v.toCanvas p).minus grab).x + grab.x, ((v.toCanvas p).minus grab).y + grab.y⟩
      = p := by
  have hback : (⟨((v.toCanvas p).minus grab).x + grab.x, ((v.toCanvas p).minus grab).y + grab.y⟩ :
      Point Rat) = v.toCanvas p :=
    congrArg₂ Point.mk (sub_add_cancel _ grab.x) (sub_add_cancel _ grab.y)
  rw [hback, toScreen_toCanvas h]

/-- At the same zoom and pan, what is taken at `p₀` goes as far as the pointer. -/
theorem toCanvas_minus_grab (hzoom : w.zoom = v.zoom) (hpan : w.pan = v.pan) (p p₀ q : Point Rat) :
    (w.toCanvas p).minus ((v.toCanvas p₀).minus q)
      = ⟨q.x + (p.x - p₀.x) / w.zoom, q.y + (p.y - p₀.y) / w.zoom⟩ := by
  simp only [toCanvas, Point.minus, hzoom, hpan]
  congr 1 <;> ring

end Canvas.Viewport

/-! ## One event -/

section
variable {K : Type} [Scalar K] {st st' : Canvas.Stage K} {id : TableId} {grab : Canvas.Point K}

/-- A press on the header of a table takes the table there. -/
theorem Canvas.Stage.press_of_hit {metrics : TableMetrics K} {p : Point K} {t : Table K}
    (hids : (st.model.tables.map (·.id)).Nodup) (hidle : st.gesture = .idle)
    (hhit : headerHit? st.model metrics (st.viewport.toCanvas p) = some t) :
    st.press metrics p .primary
      = { st with gesture := .dragging t.id ((st.viewport.toCanvas p).minus t.position) } := by
  have hin : t ∈ st.model.tables := List.mem_reverse.1 (List.mem_of_find?_eq_some hhit)
  have hfind : st.model.table? t.id = some t :=
    (find?_key_eq_some (fun t : Table K => t.id) hids).2 ⟨hin, rfl⟩
  unfold press
  rw [hidle]
  simp only [grab, hhit, hfind]

/-- While a table is dragged, a move of the pointer changes its place and nothing else. -/
theorem Canvas.Stage.follow_dragging (h : st.model.Consistent)
    (hmem : id ∈ st.model.tables.map (·.id)) (hdrag : st.gesture = .dragging id grab) :
    ∃ before t after, st.model.tables = before ++ t :: after ∧ (∀ u ∈ before, u.id ≠ id) ∧
      t.id = id ∧ ∀ p, st.follow p = .ok (true, { st with
        model := ⟨before ++ t.movedTo ((st.viewport.toCanvas p).minus grab) :: after,
          st.model.relationships⟩ }) := by
  obtain ⟨before, t, after, hsplit, hfirst, hid, hmove⟩ := h.moveTable hmem
  refine ⟨before, t, after, hsplit, hfirst, hid, fun p => ?_⟩
  rw [follow_eq, hdrag]
  simp only [hmove]

/-- The action lets go of what is dragged: the button is released, or the pointer leaves. -/
def Action.releases : Action K → Bool
  | .pointer .up | .pointer .leave => true
  | _ => false

/-- A drag goes on as long as the table is there, unless it is let go of or the schema is
replaced. -/
theorem Action.Turns.dragging {metrics : Canvas.TableMetrics K} {a : Action K}
    (h : a.Turns metrics st st') (hconsistent : st.model.Consistent)
    (hmem : id ∈ st.model.tables.map (·.id)) (hdrag : st.gesture = .dragging id grab)
    (hheld : a.releases = false) (hkept : a.imports = false) : st'.gesture = .dragging id grab := by
  cases h with
  | edited h => exact hdrag
  | viewed change => exact hdrag
  | imported ha h =>
    rw [ha] at hkept
    cases hkept
  | @pointed e _ _ _ h =>
    rw [Canvas.Stage.handle_eq] at h
    cases e with
    | down position button =>
      cases h
      unfold Canvas.Stage.press
      rw [hdrag]
      exact hdrag
    | move position =>
      obtain ⟨before, t, after, -, -, -, hfollow⟩ :=
        Canvas.Stage.follow_dragging hconsistent hmem hdrag
      dsimp only at h
      rw [hfollow] at h
      cases h
      exact hdrag
    | up => cases hheld
    | leave => cases hheld

end

/-! ## Runs -/

namespace Session

theorem gesture_afterRefusal {K : Type} (s : Session K) (a : Action K) :
    (s.afterRefusal a).workspace.gesture = s.workspace.gesture := by
  cases a <;> rfl

section
variable {K : Type} [Scalar K]

/-- A gesture goes on: it is not let go of, and no import is completed. -/
def Continues (s : Session K) : CanvasEvent K → Prop
  | .act a => a.releases = false ∧ (a.imports = true → ∃ e, (s.act a).1 = .error e)
  | _ => True

/-- Through all of the events the gesture goes on and the table is there. -/
def Holding (s : Session K) (id : TableId) : List (CanvasEvent K) → Prop
  | [] => True
  | e :: rest => s.Continues e ∧ id ∈ (s.undergo e).workspace.model.tables.map (·.id) ∧
      (s.undergo e).Holding id rest

variable {s : Session K} {id : TableId} {grab : Canvas.Point K}

/-- The table is dragged. -/
structure Dragging (s : Session K) (id : TableId) (grab : Canvas.Point K) : Prop where
  consistent : s.workspace.model.Consistent
  mem : id ∈ s.workspace.model.tables.map (·.id)
  gesture : s.workspace.gesture = .dragging id grab

/-- One event leaves the gesture as it is, with the offset that was taken when it began. -/
theorem Dragging.undergo (h : s.Dragging id grab) {e : CanvasEvent K} (hgo : s.Continues e)
    (hmem : id ∈ (s.undergo e).workspace.model.tables.map (·.id)) :
    (s.undergo e).Dragging id grab := by
  refine ⟨consistent_undergo h.consistent e, hmem, ?_⟩
  cases e with
  | view change => exact h.gesture
  | takeUp editor => exact h.gesture
  | act a =>
    by_cases himport : a.imports = true
    · obtain ⟨reason, hrefused⟩ := hgo.2 himport
      rw [Session.undergo, keeps_act s a reason hrefused, gesture_afterRefusal]
      exact h.gesture
    · exact (turns_act s a).dragging h.consistent h.mem h.gesture hgo.1 (by simpa using himport)

theorem Dragging.undergoAll (h : s.Dragging id grab) {events : List (CanvasEvent K)}
    (hheld : s.Holding id events) : (s.undergoAll events).Dragging id grab := by
  unfold Session.undergoAll
  induction events generalizing s with
  | nil => exact h
  | cons e events ih => exact ih (h.undergo hheld.1 hheld.2.1) hheld.2.2

/-- A move of the pointer changes the place of the table, and nothing else. -/
theorem Dragging.act_move (h : s.Dragging id grab) :
    ∃ before t after, s.workspace.model.tables = before ++ t :: after ∧
      (∀ u ∈ before, u.id ≠ id) ∧ t.id = id ∧ ∀ p,
        s.act (.pointer (.move p)) = (s.withWorkspace (s.workspace.withModel
          ⟨before ++ t.movedTo ((s.workspace.viewport.toCanvas p).minus grab) :: after,
            s.workspace.model.relationships⟩)).answer (.changed true) := by
  obtain ⟨before, t, after, hsplit, hfirst, hid, hfollow⟩ :=
    Canvas.Stage.follow_dragging h.consistent h.mem h.gesture
  refine ⟨before, t, after, hsplit, hfirst, hid, fun p => ?_⟩
  rw [act_pointer, Canvas.Stage.handle_eq]
  dsimp only
  rw [hfollow]
  rfl

/-- A press on the header of a table begins to drag it. -/
theorem dragging_press (hwf : s.workspace.model.WellFormed) (hidle : s.workspace.gesture = .idle)
    {p : Canvas.Point K} {t : Table K}
    (hhit : Canvas.headerHit? s.workspace.model s.workspace.metrics
      (s.workspace.viewport.toCanvas p) = some t) :
    (s.undergo (.act (.pointer (.down p .primary)))).workspace.viewport = s.workspace.viewport ∧
      (s.undergo (.act (.pointer (.down p .primary)))).Dragging t.id
        ((s.workspace.viewport.toCanvas p).minus t.position) := by
  have hpress : s.undergo (.act (.pointer (.down p .primary))) = s.withWorkspace
      { s.workspace with
        gesture := .dragging t.id ((s.workspace.viewport.toCanvas p).minus t.position) } := by
    rw [undergo, act_pointer, Canvas.Stage.handle_eq]
    dsimp only
    rw [Canvas.Stage.press_of_hit hwf.ids hidle hhit]
    rfl
  have hin : t ∈ s.workspace.model.tables :=
    List.mem_reverse.1 (List.mem_of_find?_eq_some hhit)
  rw [hpress]
  exact ⟨rfl, hwf.consistent, List.mem_map_of_mem hin, rfl⟩

end

/-- **The law of dragging.** A primary press at `p₀` takes a table by its header. As long as it is
not let go of, and whatever else happens to the schema and to the viewport while the table is there,
each move of the pointer changes the place of this table and nothing else: the point at which it was
taken comes to lie under the pointer. If zoom and pan are what they were, the table has gone as far
as the pointer, in units of the canvas. -/
theorem drag_follows_pointer {config : Canvas.ViewportConfig Rat}
    (hvalid : config.validate = .ok ()) {s₀ : Session Rat}
    (hnew : s₀.workspace.viewport = .ofConfig config) (earlier : List (CanvasEvent Rat))
    {s : Session Rat} (hs : s = s₀.undergoAll earlier) (hwf : s.workspace.model.WellFormed)
    (hidle : s.workspace.gesture = .idle) {p₀ : Canvas.Point Rat} {taken : Table Rat}
    (hhit : Canvas.headerHit? s.workspace.model s.workspace.metrics
      (s.workspace.viewport.toCanvas p₀) = some taken) {events : List (CanvasEvent Rat)}
    (hheld : (s.undergo (.act (.pointer (.down p₀ .primary)))).Holding taken.id events)
    (p : Canvas.Point Rat) :
    let grab := (s.workspace.viewport.toCanvas p₀).minus taken.position
    let held := (s.undergo (.act (.pointer (.down p₀ .primary)))).undergoAll events
    let v := held.workspace.viewport
    held.workspace.gesture = .dragging taken.id grab ∧
    ∃ before t after position, held.workspace.model.tables = before ++ t :: after ∧
      (∀ u ∈ before, u.id ≠ taken.id) ∧ t.id = taken.id ∧
      held.act (.pointer (.move p)) = (held.withWorkspace (held.workspace.withModel
        ⟨before ++ t.movedTo position :: after, held.workspace.model.relationships⟩)).answer
          (.changed true) ∧
      v.toScreen ⟨position.x + grab.x, position.y + grab.y⟩ = p ∧
      (v.zoom = s.workspace.viewport.zoom → v.pan = s.workspace.viewport.pan →
        position = ⟨taken.position.x + (p.x - p₀.x) / v.zoom,
          taken.position.y + (p.y - p₀.y) / v.zoom⟩) := by
  intro grab held v
  obtain ⟨hview, hpress⟩ := dragging_press hwf hidle hhit
  have hstart : s.workspace.viewport.InRange config := by
    rw [hs]
    exact inRange_undergoAll (hnew ▸ Canvas.Viewport.inRange_ofConfig hvalid) earlier
  have hrange : v.InRange config := inRange_undergoAll (hview.symm ▸ hstart) events
  have hdrag := hpress.undergoAll hheld
  obtain ⟨before, t, after, hsplit, hfirst, hid, hmove⟩ := hdrag.act_move
  refine ⟨hdrag.gesture, before, t, after, _, hsplit, hfirst, hid, hmove p, ?_,
    fun hzoom hpan => ?_⟩
  · exact Canvas.Viewport.toScreen_add_grab hrange.zoom_pos.ne' p grab
  · exact Canvas.Viewport.toCanvas_minus_grab hzoom hpan p p₀ taken.position

/-- The table that is added to an empty schema. -/
def addedTable : Table Rat := (Table.ofDefinition ⟨0, 0⟩ ⟨"Table1", Table.starterColumns⟩).1

/-- A session in which a table was added. -/
def tableSession : Session Rat :=
  (ofWorkspace (.ofConfig .standard ⟨0, 0⟩)).undergoAll [.act .addTable]

/-- A move, a zoom with the wheel, a change of the table and a pan, before the pointer moves on. -/
def dragEvents : List (CanvasEvent Rat) :=
  [.act (.pointer (.move ⟨90, 100⟩)), .act (.wheel ⟨-1, true, some ⟨90, 100⟩⟩),
    .act (.addColumn addedTable.id (.plain "title" "TEXT")), .view (.panBy 10 4)]

theorem holding_dragEvents :
    (tableSession.undergo (.act (.pointer (.down ⟨60, 60⟩ .primary)))).Holding addedTable.id
      dragEvents := by
  refine ⟨⟨rfl, nofun⟩, ?_, ⟨rfl, nofun⟩, ?_, ⟨rfl, nofun⟩, ?_, trivial, ?_, trivial⟩
  all_goals decide +kernel

theorem drag_follows_dragEvents :
    Canvas.headerHit? tableSession.workspace.model tableSession.workspace.metrics
        (tableSession.workspace.viewport.toCanvas ⟨60, 60⟩) = some addedTable ∧
      (let held := (tableSession.undergo (.act (.pointer (.down ⟨60, 60⟩ .primary)))).undergoAll
        dragEvents
      ∃ before t after position, held.workspace.model.tables = before ++ t :: after ∧
        t.id = addedTable.id ∧
        held.act (.pointer (.move ⟨200, 120⟩)) = (held.withWorkspace (held.workspace.withModel
          ⟨before ++ t.movedTo position :: after, held.workspace.model.relationships⟩)).answer
            (.changed true) ∧
        held.workspace.viewport.toScreen ⟨position.x + 10, position.y + 10⟩ = ⟨200, 120⟩) := by
  have hvalid : (Canvas.ViewportConfig.standard : Canvas.ViewportConfig Rat).validate = .ok () := by
    decide +kernel
  have hwf : tableSession.workspace.model.WellFormed :=
    Model.wellFormed_empty.addTable List.not_mem_nil
  have hhit : Canvas.headerHit? tableSession.workspace.model tableSession.workspace.metrics
      (tableSession.workspace.viewport.toCanvas ⟨60, 60⟩) = some addedTable := by decide +kernel
  obtain ⟨-, before, t, after, position, hsplit, -, hid, hmove, hscreen, -⟩ :=
    drag_follows_pointer hvalid rfl [.act .addTable] (s := tableSession) rfl hwf
      (by decide +kernel) hhit holding_dragEvents ⟨200, 120⟩
  refine ⟨hhit, before, t, after, position, hsplit, hid, hmove, ?_⟩
  have hgrab : (tableSession.workspace.viewport.toCanvas ⟨60, 60⟩).minus addedTable.position
      = ⟨10, 10⟩ := by decide +kernel
  rw [hgrab] at hscreen
  exact hscreen

end Session

end SchemaGraph
