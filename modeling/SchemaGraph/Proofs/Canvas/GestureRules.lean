import SchemaGraph.Proofs.Canvas.DragLaw

/-!
# The rules of gestures

The gesture under way names a table that may be renamed, removed or replaced by an import at any
time. What a workspace promises about pointer events in spite of that is `Workspace.PointerRules`;
it holds after any run, because every operation keeps the schema consistent, and in a consistent
schema a table that is there can be moved. Between two different gestures there is always a moment
without any (`Session.pointerRules_of_run`).
-/

namespace SchemaGraph

variable {K : Type}

namespace Canvas

/-- The same gesture is under way: a drag of one table by one point, or a pan. -/
def Gesture.GoesOn : Gesture K → Gesture K → Prop
  | .idle, later => later = .idle
  | .dragging table grab, later => later = .dragging table grab
  | .panning _, later => ∃ last, later = .panning last

theorem Gesture.GoesOn.refl (g : Gesture K) : g.GoesOn g := by
  cases g with
  | idle => rfl
  | dragging table grab => rfl
  | panning last => exact ⟨last, rfl⟩

theorem Gesture.GoesOn.trans {g g' g'' : Gesture K} (h : g.GoesOn g') (h' : g'.GoesOn g'') :
    g.GoesOn g'' := by
  cases g with
  | idle => exact h ▸ h'
  | dragging table grab => exact h ▸ h'
  | panning last =>
    obtain ⟨last', rfl⟩ := h
    exact h'

theorem Gesture.GoesOn.ne_idle {g g' : Gesture K} (h : g.GoesOn g') (hg : g ≠ .idle) :
    g' ≠ .idle := by
  cases g with
  | idle => exact absurd rfl hg
  | dragging table grab => exact h ▸ nofun
  | panning last =>
    obtain ⟨last', rfl⟩ := h
    exact nofun

variable [Scalar K]

/-! ## One pointer event -/

/-- The table that is hit is the last one whose header strip holds the point. -/
theorem headerHit?_eq_some {m : Model K} {metrics : TableMetrics K} {p : Point K}
    {before after : List (Table K)} {t : Table K} (hsplit : m.tables = before ++ t :: after)
    (ht : (metrics.headerRect t).contains p = true)
    (hafter : ∀ u ∈ after, (metrics.headerRect u).contains p = false) :
    headerHit? m metrics p = some t := by
  refine List.find?_eq_some_iff_append.2 ⟨ht, after.reverse, before.reverse, by simp [hsplit], ?_⟩
  intro u hu
  rw [hafter u (List.mem_reverse.1 hu)]
  rfl

theorem headerHit?_eq_none {m : Model K} {metrics : TableMetrics K} {p : Point K}
    (h : ∀ t ∈ m.tables, (metrics.headerRect t).contains p = false) :
    headerHit? m metrics p = none := by
  refine List.find?_eq_none.2 fun t ht => ?_
  rw [h t (List.mem_reverse.1 ht)]
  exact Bool.false_ne_true

namespace Stage

variable {st st' : Stage K} {metrics : TableMetrics K}

/-- During a gesture no other one begins. -/
theorem press_of_busy (h : st.gesture ≠ .idle) (p : Point K) (button : PointerButton) :
    st.press metrics p button = st := by
  unfold press
  split
  · exact absurd ‹_› h
  · exact absurd ‹_› h
  · rfl

theorem press_of_miss (hidle : st.gesture = .idle) {p : Point K}
    (hmiss : headerHit? st.model metrics (st.viewport.toCanvas p) = none) :
    st.press metrics p .primary = st := by
  unfold press
  rw [hidle]
  simp only [grab, hmiss]

/-- A drag whose table is gone ends with the next move. -/
theorem follow_of_gone {id : TableId} {grab : Point K} (hdrag : st.gesture = .dragging id grab)
    (hgone : id ∉ st.model.tables.map (·.id)) (p : Point K) :
    st.follow p = .ok (false, st.settle) := by
  have hnone : st.model.table? id = none := by
    refine List.find?_eq_none.2 fun t ht heq => hgone ?_
    exact List.mem_map.2 ⟨t, ht, beq_iff_eq.1 heq⟩
  rw [follow_eq, hdrag]
  simp only [Model.moveTable_eq, Model.modifyTable_eq, Model.get, hnone]

/-- No move is refused. A table that is there can be moved, and one that is not ends the drag. -/
theorem exists_follow (h : st.model.Consistent) (p : Point K) : ∃ r, st.follow p = .ok r := by
  cases hgesture : st.gesture with
  | idle => exact ⟨(false, st), by rw [follow_eq, hgesture]⟩
  | panning last => exact ⟨_, by rw [follow_eq, hgesture]⟩
  | dragging id grab =>
    by_cases hmem : id ∈ st.model.tables.map (·.id)
    · obtain ⟨before, t, after, -, -, -, hfollow⟩ := follow_dragging h hmem hgesture
      exact ⟨_, hfollow p⟩
    · exact ⟨_, follow_of_gone hgesture hmem p⟩

theorem exists_handle (h : st.model.Consistent) (metrics : TableMetrics K) (e : PointerEvent K) :
    ∃ r, st.handle metrics e = .ok r := by
  cases e with
  | move p => exact exists_follow h p
  | down p button => exact ⟨_, rfl⟩
  | up => exact ⟨_, rfl⟩
  | leave => exact ⟨_, rfl⟩

/-- An event that is answered with false changes nothing but the gesture. -/
theorem unchanged_of_handle {e : PointerEvent K} (h : st.handle metrics e = .ok (false, st')) :
    st'.model = st.model ∧ st'.viewport = st.viewport := by
  rw [handle_eq] at h
  cases e with
  | down p button =>
    cases h
    exact ⟨model_press st metrics p button, viewport_press st metrics p button⟩
  | up =>
    cases h
    exact ⟨rfl, rfl⟩
  | leave =>
    cases h
    exact ⟨rfl, rfl⟩
  | move p =>
    dsimp only at h
    rw [follow_eq] at h
    split at h
    · cases h
      exact ⟨rfl, rfl⟩
    · cases h
    · split at h
      · cases h
      · cases h
        exact ⟨rfl, rfl⟩
      · cases h

/-- A pointer event leads from a gesture to the same one, or to none. -/
theorem gesture_handle {e : PointerEvent K} {b : Bool} (h : st.handle metrics e = .ok (b, st'))
    (hbusy : st.gesture ≠ .idle) : st'.gesture = .idle ∨ st.gesture.GoesOn st'.gesture := by
  rw [handle_eq] at h
  cases e with
  | down p button =>
    cases h
    rw [press_of_busy hbusy]
    exact Or.inr (.refl _)
  | up =>
    cases h
    exact Or.inl rfl
  | leave =>
    cases h
    exact Or.inl rfl
  | move p =>
    dsimp only at h
    rw [follow_eq] at h
    split at h
    · exact absurd ‹_› hbusy
    · rename_i last hpan
      cases h
      rw [hpan]
      exact Or.inr ⟨p, rfl⟩
    · split at h
      · cases h
        exact Or.inr (.refl _)
      · cases h
        exact Or.inl rfl
      · cases h

end Stage

end Canvas

variable [Scalar K]

/-- What an action makes of a gesture: it goes on, or it ends. -/
theorem Action.Turns.gesture {metrics : Canvas.TableMetrics K} {a : Action K}
    {st st' : Canvas.Stage K} (h : a.Turns metrics st st') (hbusy : st.gesture ≠ .idle) :
    st'.gesture = .idle ∨ st.gesture.GoesOn st'.gesture := by
  cases h with
  | edited h => exact Or.inr (.refl _)
  | viewed change => exact Or.inr (.refl _)
  | imported ha h => exact Or.inl rfl
  | pointed h => exact Canvas.Stage.gesture_handle h hbusy

/-! ## The rules -/

namespace Workspace

/-- What a workspace promises about pointer events and the wheel. -/
structure PointerRules (w : Workspace K) : Prop where
  /-- No pointer event is refused. -/
  answered : ∀ e, ∃ changed w', w.pointer e = .ok (changed, w')
  /-- A button that goes down during a gesture changes nothing. -/
  busy : w.gesture ≠ .idle → ∀ p button, w.pointer (.down p button) = .ok (false, w)
  /-- A gesture ends when a button is released. -/
  released : w.pointer .up = .ok (false, { w with gesture := .idle })
  /-- A gesture ends when the pointer leaves. -/
  left : w.pointer .leave = .ok (false, { w with gesture := .idle })
  /-- A gesture ends when an import is completed. -/
  imported : ∀ ticket text summary w', w.finishImport ticket text = .ok (summary, w') →
    w'.gesture = .idle
  /-- A gesture ends when a script is imported at once. -/
  importedOnce : ∀ text summary w', w.importScript text = (.ok summary, w') → w'.gesture = .idle
  /-- The primary button takes the last table whose header strip is under the pointer. -/
  hit : (w.model.tables.map (·.id)).Nodup → w.gesture = .idle → ∀ p before t after,
    w.model.tables = before ++ t :: after →
    (w.metrics.headerRect t).contains (w.viewport.toCanvas p) = true →
    (∀ u ∈ after, (w.metrics.headerRect u).contains (w.viewport.toCanvas p) = false) →
    w.pointer (.down p .primary) = .ok (false,
      { w with gesture := .dragging t.id ((w.viewport.toCanvas p).minus t.position) })
  /-- Where there is no header strip the primary button does nothing. -/
  missed : w.gesture = .idle → ∀ p,
    (∀ t ∈ w.model.tables, (w.metrics.headerRect t).contains (w.viewport.toCanvas p) = false) →
    w.pointer (.down p .primary) = .ok (false, w)
  /-- A move ends the drag of a table that is gone, and changes nothing else. -/
  gone : ∀ id grab, w.gesture = .dragging id grab → id ∉ w.model.tables.map (·.id) → ∀ p,
    w.pointer (.move p) = .ok (false, { w with gesture := .idle })
  /-- A pointer event that is answered with false changes neither the schema nor the viewport. -/
  unchanged : ∀ e w', w.pointer e = .ok (false, w') →
    w'.model = w.model ∧ w'.viewport = w.viewport
  /-- A turn of the wheel that is answered with false changes nothing. -/
  unturned : ∀ e, (w.wheel e).1 = false → (w.wheel e).2 = w

variable {w w' : Workspace K}

theorem pointer_of_handle {e : Canvas.PointerEvent K} {b : Bool} {st : Canvas.Stage K}
    (h : w.toStage.handle w.metrics e = .ok (b, st)) :
    w.pointer e = .ok (b, { w with toStage := st }) := by
  rw [pointer_eq, h]
  rfl

theorem pointer_down (p : Canvas.Point K) (button : Canvas.PointerButton) :
    w.pointer (.down p button)
      = .ok (false, { w with toStage := w.toStage.press w.metrics p button }) := rfl

theorem handle_of_pointer {e : Canvas.PointerEvent K} {b : Bool}
    (h : w.pointer e = .ok (b, w')) : w.toStage.handle w.metrics e = .ok (b, w'.toStage) := by
  rw [pointer_eq] at h
  cases hhandle : w.toStage.handle w.metrics e with
  | error reason =>
    rw [hhandle] at h
    cases h
  | ok r =>
    rw [hhandle] at h
    cases h
    rfl

theorem gesture_finishImport {ticket : UInt32} {text : String} {summary : ImportSummary}
    (h : w.finishImport ticket text = .ok (summary, w')) : w'.gesture = .idle := by
  rw [finishImport_eq] at h
  split at h
  · cases h
  split at h
  · cases h
  dsimp only at h
  split at h
  · cases h
  · cases h
    rfl

theorem gesture_importScript {text : String} {summary : ImportSummary}
    (h : w.importScript text = (.ok summary, w')) : w'.gesture = .idle := by
  rw [importScript_eq] at h
  split at h
  · cases h
  · rename_i hfinish
    cases h
    exact gesture_finishImport hfinish

theorem unturned_wheel {e : Canvas.Wheel K} (h : (w.wheel e).1 = false) : (w.wheel e).2 = w := by
  cases hmodifier : e.modifier with
  | false =>
    rw [wheel, Canvas.Viewport.wheel, hmodifier]
    rfl
  | true =>
    rw [wheel, Canvas.Viewport.wheel, hmodifier] at h
    cases h

/-- The rules hold as long as the schema is consistent. -/
theorem pointerRules_of_consistent (h : w.model.Consistent) : w.PointerRules where
  answered e := by
    obtain ⟨r, hr⟩ := Canvas.Stage.exists_handle h w.metrics e
    exact ⟨r.1, _, pointer_of_handle hr⟩
  busy hbusy p button := by
    have hpress : w.toStage.press w.metrics p button = w.toStage :=
      Canvas.Stage.press_of_busy hbusy p button
    rw [pointer_down, hpress]
  released := pointer_of_handle rfl
  left := pointer_of_handle rfl
  imported _ _ _ _ := gesture_finishImport
  importedOnce _ _ _ := gesture_importScript
  hit hids hidle p before t after hsplit ht hafter := by
    have hhit := Canvas.headerHit?_eq_some hsplit ht hafter
    rw [pointer_down, Canvas.Stage.press_of_hit hids hidle hhit]
  missed hidle p hnone := by
    have hmiss := Canvas.headerHit?_eq_none hnone
    rw [pointer_down, Canvas.Stage.press_of_miss hidle hmiss]
  gone id grab hdrag hgone p := pointer_of_handle (Canvas.Stage.follow_of_gone hdrag hgone p)
  unchanged e w' hfalse := Canvas.Stage.unchanged_of_handle (handle_of_pointer hfalse)
  unturned _ := unturned_wheel

end Workspace

/-! ## Runs -/

namespace Session

variable {s : Session K}

/-- What one event makes of a gesture: it goes on, or it ends. -/
theorem gesture_undergo (hbusy : s.workspace.gesture ≠ .idle) (e : CanvasEvent K) :
    (s.undergo e).workspace.gesture = .idle ∨
      s.workspace.gesture.GoesOn (s.undergo e).workspace.gesture := by
  cases e with
  | act a => exact (turns_act s a).gesture hbusy
  | view change => exact Or.inr (.refl _)
  | takeUp editor => exact Or.inr (.refl _)

/-- A gesture goes on through all events, unless at some moment there is none. -/
theorem gesture_undergoAll (hbusy : s.workspace.gesture ≠ .idle) (events : List (CanvasEvent K)) :
    (∃ first, first <+: events ∧ (s.undergoAll first).workspace.gesture = .idle) ∨
      s.workspace.gesture.GoesOn (s.undergoAll events).workspace.gesture := by
  induction events generalizing s with
  | nil => exact Or.inr (.refl _)
  | cons e rest ih =>
    rcases gesture_undergo hbusy e with hidle | hstep
    · exact Or.inl ⟨[e], List.prefix_append [e] rest, hidle⟩
    · rcases ih (hstep.ne_idle hbusy) with ⟨first, hfirst, hidle⟩ | hrest
      · exact Or.inl ⟨e :: first, List.cons_prefix_cons.2 ⟨rfl, hfirst⟩, hidle⟩
      · exact Or.inr (hstep.trans hrest)

theorem consistent_undergoAll (h : s.workspace.model.Consistent) (events : List (CanvasEvent K)) :
    (s.undergoAll events).workspace.model.Consistent := by
  unfold undergoAll
  induction events generalizing s with
  | nil => exact h
  | cons e rest ih => exact ih (consistent_undergo h e)

/-- **The rules of gestures.** After any run of actions and changes of the viewport from an empty
workspace the rules for pointer events hold. If a gesture is under way then, and others follow, it
is still the same one, or at some moment in between there was none: no drag turns into a pan, no pan
into a drag, and no drag into one of another table. -/
theorem pointerRules_of_run (config : WorkspaceConfig K) (ids : IdSupply)
    (earlier : List (CanvasEvent K)) :
    let s := (ofWorkspace (.ofConfig config ids)).undergoAll earlier
    s.workspace.PointerRules ∧ (s.workspace.gesture ≠ .idle → ∀ later,
      (∃ first, first <+: later ∧ (s.undergoAll first).workspace.gesture = .idle) ∨
        s.workspace.gesture.GoesOn (s.undergoAll later).workspace.gesture) := by
  intro s
  have hconsistent : s.workspace.model.Consistent :=
    consistent_undergoAll Model.wellFormed_empty.consistent earlier
  exact ⟨Workspace.pointerRules_of_consistent hconsistent, fun hbusy => gesture_undergoAll hbusy⟩

/-- Two tables that lie one above the other. -/
def stackedSession : Session Rat :=
  (ofWorkspace (.ofConfig .standard ⟨0, 0⟩)).undergoAll [.act .addTable, .act .addTable]

/-- The table on top. -/
def topTable : Table Rat := (Table.ofDefinition ⟨0, 1⟩ ⟨"Table2", Table.starterColumns⟩).1

/-- A press where both headers are, on which the upper table is taken. -/
def stackedPress : List (CanvasEvent Rat) :=
  [.act .addTable, .act .addTable, .act (.pointer (.down ⟨60, 60⟩ .primary))]

/-- The upper table is removed while it is dragged, the pointer moves, and a pan begins. -/
def stackedRemoval : List (CanvasEvent Rat) :=
  [.act (.removeTable topTable.id), .act (.pointer (.move ⟨90, 90⟩)),
    .act (.pointer (.down ⟨90, 90⟩ .middle))]

theorem pointerRules_of_stackedSession :
    stackedSession.workspace.pointer (.down ⟨60, 60⟩ .primary) = .ok (false,
        { stackedSession.workspace with gesture := .dragging topTable.id ⟨10, 10⟩ }) ∧
      (let dragged := (ofWorkspace (.ofConfig .standard ⟨0, 0⟩)).undergoAll stackedPress
      (dragged.undergoAll stackedRemoval).workspace.gesture = .panning ⟨90, 90⟩ ∧
        ∃ first, first <+: stackedRemoval ∧
          (dragged.undergoAll first).workspace.gesture = .idle) := by
  have hgrab : (stackedSession.workspace.viewport.toCanvas ⟨60, 60⟩).minus topTable.position
      = ⟨10, 10⟩ := by decide +kernel
  have hstacked := (pointerRules_of_run (K := Rat) .standard ⟨0, 0⟩
    [.act .addTable, .act .addTable]).1.hit (by decide +kernel) (by decide +kernel) ⟨60, 60⟩
      (stackedSession.workspace.model.tables.take 1) topTable [] (by decide +kernel)
      (by decide +kernel) nofun
  have hgesture : ((ofWorkspace (.ofConfig .standard ⟨0, 0⟩)).undergoAll
      stackedPress).workspace.gesture = .dragging topTable.id (⟨10, 10⟩ : Canvas.Point Rat) := by
    decide +kernel
  have hpan : (((ofWorkspace (.ofConfig .standard ⟨0, 0⟩)).undergoAll stackedPress).undergoAll
      stackedRemoval).workspace.gesture = .panning (⟨90, 90⟩ : Canvas.Point Rat) := by
    decide +kernel
  refine ⟨hgrab ▸ hstacked, hpan, ?_⟩
  rcases (pointerRules_of_run (K := Rat) .standard ⟨0, 0⟩ stackedPress).2 (hgesture ▸ nofun)
    stackedRemoval with hidle | hon
  · exact hidle
  · rw [hgesture, hpan] at hon
    cases hon

end Session

end SchemaGraph
