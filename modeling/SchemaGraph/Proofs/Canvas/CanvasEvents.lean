import SchemaGraph.Proofs.Schema.Consistent
import SchemaGraph.Proofs.Schema.Refusals
import SchemaGraph.Proofs.Schema.Runs

/-!
# What happens on the canvas

A workspace lends its viewport to the host, which may zoom and pan it at any time, also in the
middle of a gesture. Of what is on the canvas, an action changes the schema, by one of its
operations, or the viewport, by one such change, or it hands a pointer event to the gesture, or it
is an import (`Session.turns_act`). What is to hold after any run of events has to be shown for
these four only.
-/

namespace SchemaGraph

variable {K : Type}

namespace Canvas

/-! ## Changes of the viewport -/

/-- What can be done to a viewport. -/
inductive ViewChange (K : Type) where
  | zoomBy (factor : K) (anchor : Point K)
  | zoomIn
  | zoomOut
  | wheel (w : Wheel K)
  | panBy (dx dy : K)
  | resize (width height : K)

variable [Scalar K]

/-- The viewport after a change. -/
def Viewport.after (v : Viewport K) : ViewChange K → Viewport K
  | .zoomBy factor anchor => v.zoomBy factor anchor
  | .zoomIn => v.zoomIn
  | .zoomOut => v.zoomOut
  | .wheel w => (v.wheel w).2
  | .panBy dx dy => v.panBy dx dy
  | .resize width height => v.resize width height

/-- Whatever is done, it is a zoom, a pan or a change of the size, or nothing. -/
theorem Viewport.after_cases (v : Viewport K) (change : ViewChange K) :
    v.after change = v ∨ (∃ factor anchor, v.after change = v.zoomBy factor anchor) ∨
      (∃ dx dy, v.after change = v.panBy dx dy) ∨
      ∃ width height, v.after change = v.resize width height := by
  cases change with
  | zoomBy factor anchor => exact Or.inr (Or.inl ⟨factor, anchor, rfl⟩)
  | zoomIn => exact Or.inr (Or.inl ⟨_, _, rfl⟩)
  | zoomOut => exact Or.inr (Or.inl ⟨_, _, rfl⟩)
  | wheel w =>
    rw [after, wheel]
    split
    · exact Or.inr (Or.inl ⟨_, _, rfl⟩)
    · exact Or.inl rfl
  | panBy dx dy => exact Or.inr (Or.inr (Or.inl ⟨dx, dy, rfl⟩))
  | resize width height => exact Or.inr (Or.inr (Or.inr ⟨width, height, rfl⟩))

theorem Stage.viewport_press (s : Stage K) (metrics : TableMetrics K) (position : Point K)
    (button : PointerButton) : (s.press metrics position button).viewport = s.viewport := by
  unfold press grab
  dsimp only
  split
  · split
    · rfl
    · split <;> rfl
  · rfl
  · rfl

/-- The pointer changes the viewport only by panning it. -/
theorem Stage.viewport_handle {s s' : Stage K} {metrics : TableMetrics K} {e : PointerEvent K}
    {b : Bool} (h : s.handle metrics e = .ok (b, s')) :
    s'.viewport = s.viewport ∨ ∃ dx dy, s'.viewport = s.viewport.panBy dx dy := by
  rw [handle_eq] at h
  cases e with
  | down position button =>
    cases h
    exact Or.inl (viewport_press s metrics position button)
  | up =>
    cases h
    exact Or.inl rfl
  | leave =>
    cases h
    exact Or.inl rfl
  | move position =>
    dsimp only at h
    rw [follow_eq] at h
    split at h
    · cases h
      exact Or.inl rfl
    · cases h
      exact Or.inr ⟨_, _, rfl⟩
    · split at h
      · cases h
        exact Or.inl rfl
      · cases h
        exact Or.inl rfl
      · cases h

end Canvas

/-! ## What actions do to the stage -/

/-- The action completes an import, if that is not refused. -/
def Action.imports : Action K → Bool
  | .finishImport _ _ | .importScript _ => true
  | _ => false

/-- What an action can make of the stage. -/
inductive Action.Turns [Scalar K] (metrics : Canvas.TableMetrics K) :
    Action K → Canvas.Stage K → Canvas.Stage K → Prop where
  | edited {a : Action K} {s : Canvas.Stage K} {model : Model K} (h : s.model.Edited model) :
    Turns metrics a s { s with model }
  | viewed {a : Action K} {s : Canvas.Stage K} (change : Canvas.ViewChange K) :
    Turns metrics a s { s with viewport := s.viewport.after change }
  | pointed {e : Canvas.PointerEvent K} {s s' : Canvas.Stage K} {b : Bool}
    (h : s.handle metrics e = .ok (b, s')) : Turns metrics (.pointer e) s s'
  | imported {a : Action K} {s : Canvas.Stage K} {ts : List (Table K)} {model : Model K}
    (ha : a.imports = true) (h : Model.replaceAll ts = .ok model) :
    Turns metrics a s { s with model, gesture := .idle }

section
variable [Scalar K] {metrics : Canvas.TableMetrics K} {a : Action K} {st st' : Canvas.Stage K}

theorem Action.turns_of_eq (h : st' = st) : a.Turns metrics st st' := h ▸ .edited .same

/-- The schema is edited, whatever the action. -/
theorem Action.Turns.model (h : a.Turns metrics st st') : st.model.Edited st'.model := by
  cases h with
  | edited h => exact h
  | viewed change => exact .same
  | pointed h =>
    rcases Canvas.Stage.model_handle h with hsame | ⟨id, position, hmove⟩
    · exact hsame ▸ .same
    · exact Model.edited_of_modifyTable hmove
  | imported _ h => exact .replaceAll h

/-- One change is made of the viewport, or none. -/
theorem Action.Turns.viewport (h : a.Turns metrics st st') :
    st'.viewport = st.viewport ∨ ∃ change, st'.viewport = st.viewport.after change := by
  cases h with
  | edited h => exact Or.inl rfl
  | viewed change => exact Or.inr ⟨change, rfl⟩
  | pointed h =>
    rcases Canvas.Stage.viewport_handle h with hsame | ⟨dx, dy, hpan⟩
    · exact Or.inl hsame
    · exact Or.inr ⟨.panBy dx dy, hpan⟩
  | imported _ h => exact Or.inl rfl

end

namespace Session

/-- What is on the canvas. -/
def stage (s : Session K) : Canvas.Stage K := s.workspace.toStage

variable [Scalar K] {s : Session K} {a : Action K}

/-- The stage after the action is one that it can lead to. -/
def Turns (s : Session K) (a : Action K) (s' : Session K) : Prop :=
  a.Turns s.workspace.metrics s.stage s'.stage

theorem turns_of_workspace {s' : Session K} (h : s'.workspace = s.workspace) : s.Turns a s' :=
  Action.turns_of_eq (congrArg (·.toStage) h)

theorem turns_onModel {ε : Type} {p : Method (Model K) ε Unit} (hp : p.Atomic)
    {wrap : ε → ActionError}
    (hresult : ∀ m, p.result s.workspace.model = .ok m → s.workspace.model.Edited m) :
    s.Turns a (s.onModel p wrap).2 := by
  rw [onModel_eq hp]
  split
  · exact turns_of_workspace rfl
  · exact .edited (hresult _ ‹_›)

theorem turns_modifyTable (id : TableId) (change : Table K → Except ModelError (Table K)) :
    s.Turns a (s.onModel (Model.InPlace.modifyTable id change) .model).2 :=
  turns_onModel (Model.InPlace.atomic_modifyTable id change) fun _ => Model.edited_of_modifyTable

theorem turns_commit : s.Turns a s.commit.2 := by
  unfold commit
  split
  · exact turns_of_workspace rfl
  · rename_i e _
    refine turns_onModel (TableEditor.InPlace.atomic_commit e) fun m hm => ?_
    rw [← TableEditor.commit, TableEditor.commit_eq] at hm
    split at hm
    · cases hm
    · cases hm
      exact .replaceTable ‹_›

theorem turns_removeTable (id : TableId) : s.Turns a (s.act (.removeTable id)).2 := by
  rw [act_removeTable]
  cases hremove : s.workspace.model.removeTable id with
  | error e => exact turns_of_workspace rfl
  | ok r => exact .edited (.removeTable hremove)

theorem turns_pointer (e : Canvas.PointerEvent K) :
    s.Turns (.pointer e) (s.act (.pointer e)).2 := by
  rw [act_pointer]
  cases hhandle : s.workspace.toStage.handle s.workspace.metrics e with
  | error reason => exact turns_of_workspace rfl
  | ok r => exact .pointed hhandle

theorem turns_finishImport (ha : a.imports = true) (ticket : UInt32) (text : String) :
    s.Turns a (s.act (.finishImport ticket text)).2 := by
  rcases act_finishImport_cases s ticket text with hsame | ⟨ts, model, ids, hreplace, hdone⟩
  · rw [hsame]
    exact turns_of_workspace rfl
  · rw [hdone]
    exact .imported ha hreplace

/-- What an action does to the stage. -/
theorem turns_act (s : Session K) (a : Action K) : s.Turns a (s.act a).2 := by
  cases a with
  | finishImport ticket text => exact turns_finishImport rfl ticket text
  | importScript text =>
    rw [act_importScript]
    exact turns_finishImport (s := s.withTicketIssued) rfl _ text
  | addTable => exact .edited (.addTable s.workspace.ids)
  | removeTable id => exact turns_removeTable id
  | replaceTable id t =>
    exact turns_onModel (Model.InPlace.atomic_replaceTable id t) fun _ => .replaceTable
  | replaceAll ts =>
    refine turns_onModel (Model.InPlace.atomic_replaceAll ts) fun m hm => ?_
    rw [Model.replaceAll_result] at hm
    exact .replaceAll hm
  | moveTable id position => exact turns_modifyTable id _
  | addColumn id c => exact turns_modifyTable id _
  | updateColumn id index c => exact turns_modifyTable id _
  | removeColumn id index => exact turns_modifyTable id _
  | toggleFlag id index f => exact turns_modifyTable id _
  | setForeignKey id index target => exact turns_modifyTable id _
  | clearForeignKey id index => exact turns_modifyTable id _
  | pointer e => exact turns_pointer e
  | wheel e => exact .viewed (.wheel e)
  | resize width height => exact .viewed (.resize width height)
  | zoomIn => exact .viewed .zoomIn
  | zoomOut => exact .viewed .zoomOut
  | commit => exact turns_commit
  | openEditor id => exact turns_of_workspace (workspace_openEditor id)
  | editRename name => exact turns_of_workspace (workspace_onEditor _)
  | editAddColumn => exact turns_of_workspace workspace_editAddColumn
  | editUpdateColumn index c => exact turns_of_workspace (workspace_onEditor _)
  | editRemoveColumn index => exact turns_of_workspace (workspace_onEditor _)
  | editToggleFlag index f => exact turns_of_workspace (workspace_onEditor _)
  | editSetForeignKey index target => exact turns_of_workspace (workspace_onEditor _)
  | editClearForeignKey index => exact turns_of_workspace (workspace_onEditor _)
  | discard => exact turns_of_workspace workspace_discard
  | beginImport => exact Action.turns_of_eq rfl
  | setDialect d => exact Action.turns_of_eq rfl

end Session

/-! ## Events -/

/-- What can happen to a session: an action; a change of the viewport by the host; or that another
editor is taken up, with any draft. -/
inductive CanvasEvent (K : Type) where
  | act (a : Action K)
  | view (change : Canvas.ViewChange K)
  | takeUp (editor : Option (TableEditor K))

namespace Session

variable [Scalar K]

/-- The session after an event. -/
def undergo (s : Session K) : CanvasEvent K → Session K
  | .act a => (s.act a).2
  | .view change =>
    s.withWorkspace (s.workspace.withViewport (s.workspace.viewport.after change))
  | .takeUp editor => { s with editor }

/-- The session after events in order. -/
def undergoAll (s : Session K) (events : List (CanvasEvent K)) : Session K :=
  events.foldl undergo s

/-- What every change of the viewport keeps, every event keeps. -/
theorem undergo_viewport {P : Canvas.Viewport K → Prop}
    (hstep : ∀ v change, P v → P (Canvas.Viewport.after v change)) {s : Session K}
    (h : P s.workspace.viewport) (e : CanvasEvent K) : P (s.undergo e).workspace.viewport := by
  cases e with
  | act a =>
    rcases (turns_act s a).viewport with hsame | ⟨change, hchange⟩
    · exact hsame.symm ▸ h
    · exact hchange.symm ▸ hstep _ change h
  | view change => exact hstep _ change h
  | takeUp editor => exact h

/-- And so does every run of events. -/
theorem undergoAll_viewport {P : Canvas.Viewport K → Prop}
    (hstep : ∀ v change, P v → P (Canvas.Viewport.after v change)) {s : Session K}
    (h : P s.workspace.viewport) (events : List (CanvasEvent K)) :
    P (s.undergoAll events).workspace.viewport := by
  unfold undergoAll
  induction events generalizing s with
  | nil => exact h
  | cons e events ih => exact ih (undergo_viewport hstep h e)

/-- Every event keeps a schema consistent. -/
theorem consistent_undergo {s : Session K} (h : s.workspace.model.Consistent)
    (e : CanvasEvent K) : (s.undergo e).workspace.model.Consistent := by
  cases e with
  | act a => exact h.edited (turns_act s a).model
  | view change => exact h
  | takeUp editor => exact h

end Session

end SchemaGraph
