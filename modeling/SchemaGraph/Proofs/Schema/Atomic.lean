import SchemaGraph.Schema.Editor
import SchemaGraph.Workspace

/-!
# Methods that change all or nothing

A method is atomic if it leaves the object as it was whenever it fails. It is so if its checks come
before its writes: what comes first only reads, and what comes last cannot fail. All methods of a
schema, of an editor and of the stage are of this form. One that wrote before its last check would
leave a change behind, and none of the rules here would apply to it.
-/

namespace SchemaGraph

namespace Method

variable {σ τ ε ε' α β : Type}

/-- The method leaves the object as it was, whether it fails or not. -/
def ReadsOnly (p : Method σ ε α) : Prop := ∀ s, (p.call s).2 = s

/-- The method never fails. -/
def Succeeds (p : Method σ ε α) : Prop := ∀ s, ∃ a s', p.call s = (.ok a, s')

/-- The method leaves the object as it was if it fails. -/
def Atomic (p : Method σ ε α) : Prop := ∀ s e s', p.call s = (.error e, s') → s' = s

/-! ## Checks and writes -/

theorem readsOnly_get : (get : Method σ ε σ).ReadsOnly := fun _ => rfl

theorem readsOnly_lift (r : Except ε α) : (liftM r : Method σ ε α).ReadsOnly := fun _ => rfl

theorem readsOnly_require (c : Prop) [Decidable c] (e : ε) :
    (require c e : Method σ ε Unit).ReadsOnly := by
  intro s
  rw [call_require]

theorem succeeds_pure (a : α) : (pure a : Method σ ε α).Succeeds := fun s => ⟨a, s, rfl⟩

theorem succeeds_modify (f : σ → σ) : (modify f : Method σ ε PUnit).Succeeds :=
  fun s => ⟨⟨⟩, f s, rfl⟩

theorem Succeeds.bind {p : Method σ ε α} {f : α → Method σ ε β} (hp : p.Succeeds)
    (hf : ∀ a, (f a).Succeeds) : (p >>= f).Succeeds := by
  intro s
  obtain ⟨a, s', h⟩ := hp s
  rw [call_bind, h]
  exact hf a s'

theorem Succeeds.atomic {p : Method σ ε α} (hp : p.Succeeds) : p.Atomic := by
  intro s e s' h
  obtain ⟨a, t, hok⟩ := hp s
  rw [hok] at h
  cases h

/-- A write with an answer after it. -/
theorem atomic_modify_pure (f : σ → σ) (a : α) :
    (do modify f; pure a : Method σ ε α).Atomic :=
  ((succeeds_modify f).bind fun _ => succeeds_pure a).atomic

/-- Checks may come first. -/
theorem ReadsOnly.bind_atomic {p : Method σ ε α} {f : α → Method σ ε β} (hp : p.ReadsOnly)
    (hf : ∀ s a, (p.call s).1 = .ok a → (f a).Atomic) : (p >>= f).Atomic := by
  intro s e s' h
  have hs := hp s
  have hf := hf s
  rw [call_bind] at h
  rcases hcall : p.call s with ⟨reason | a, t⟩ <;> rw [hcall] at h hs hf
  · cases h
    exact hs
  · exact (hf a rfl t e s' h).trans hs

/-- What cannot fail may come last. -/
theorem Atomic.bind_succeeds {p : Method σ ε α} {f : α → Method σ ε β} (hp : p.Atomic)
    (hf : ∀ a, (f a).Succeeds) : (p >>= f).Atomic := by
  intro s e s' h
  rw [call_bind] at h
  rcases hcall : p.call s with ⟨reason | a, t⟩ <;> rw [hcall] at h
  · cases h
    exact hp s e s' hcall
  · obtain ⟨b, u, hok⟩ := hf a t
    exact absurd (hok.symm.trans h) (by simp)

/-- A method of a part changes all or nothing of the whole. -/
theorem Atomic.onPart {p : Method τ ε α} (hp : p.Atomic) {part : σ → τ} {put : σ → τ → σ}
    (hput : ∀ s, put s (part s) = s) : (p.onPart part put).Atomic := by
  intro s e s' h
  rw [call_onPart] at h
  rcases hcall : p.call (part s) with ⟨reason | a, t⟩ <;> rw [hcall] at h
  · cases h
    rw [hp _ _ _ hcall, hput]
  · cases h

theorem Atomic.adapt {p : Method σ ε α} (hp : p.Atomic) (wrap : ε → ε') :
    Method.Atomic (ExceptT.adapt wrap p) := by
  intro s e s' h
  rw [call_adapt] at h
  rcases hcall : p.call s with ⟨reason | a, t⟩ <;> rw [hcall] at h
  · cases h
    exact hp _ _ _ hcall
  · cases h

/-- A failure that is caught has changed nothing. -/
theorem Atomic.tryCatch {p : Method σ ε α} {f : ε → Method σ ε α} (hp : p.Atomic)
    (hf : ∀ e, (f e).Atomic) : (tryCatch p f).Atomic := by
  intro s e s' h
  rw [call_tryCatch] at h
  rcases hcall : p.call s with ⟨reason | a, t⟩ <;> rw [hcall] at h
  · exact (hf reason t e s' h).trans (hp _ _ _ hcall)
  · cases h

end Method

open Method

variable {K : Type}

/-! ## The schema -/

namespace Model.InPlace

theorem readsOnly_find (id : TableId) : (find id : Method (Model K) _ _).ReadsOnly := fun _ => rfl

theorem call_indexOf (m : Model K) (id : TableId) :
    (indexOf id).call m = (match m.tables.findIdx? fun t => t.id == id with
      | some index => .ok index
      | none => .error (.unknownTable id), m) := by
  rw [indexOf, call_bind, call_get]
  dsimp only
  cases m.tables.findIdx? fun t => t.id == id <;> rfl

theorem readsOnly_indexOf (id : TableId) : (indexOf id : Method (Model K) _ _).ReadsOnly := by
  intro m
  rw [call_indexOf]

theorem succeeds_setTables {ε : Type} (f : List (Table K) → List (Table K)) :
    (setTables f : Method (Model K) ε Unit).Succeeds := succeeds_modify _

theorem succeeds_recompute {ε : Type} : (recompute : Method (Model K) ε Unit).Succeeds :=
  succeeds_modify _

/-- Only the look-up can fail. -/
theorem atomic_removeTable (id : TableId) : (removeTable id : Method (Model K) _ _).Atomic := by
  refine (readsOnly_find id).bind_atomic fun _ removed _ => Succeeds.atomic ?_
  exact (succeeds_setTables _).bind fun _ => (succeeds_setTables _).bind fun _ =>
    succeeds_recompute.bind fun _ => succeeds_pure removed

/-- All four checks come before the table is put in its place. -/
theorem atomic_replaceTable (id : TableId) (t : Table K) : (replaceTable id t).Atomic := by
  refine (readsOnly_indexOf id).bind_atomic fun _ index _ => ?_
  refine (readsOnly_require _ _).bind_atomic fun _ _ _ => ?_
  refine (readsOnly_lift _).bind_atomic fun _ _ _ => ?_
  refine readsOnly_get.bind_atomic fun _ m _ => ?_
  refine (readsOnly_require _ _).bind_atomic fun _ _ _ => Succeeds.atomic ?_
  exact (succeeds_setTables _).bind fun _ => succeeds_recompute

theorem atomic_replaceAll (ts : List (Table K)) : (replaceAll ts).Atomic := by
  refine (readsOnly_lift _).bind_atomic fun _ _ _ => Succeeds.atomic ?_
  exact (succeeds_setTables _).bind fun _ => succeeds_recompute

/-- The new table is made before anything is replaced. -/
theorem atomic_modifyTable (id : TableId) (change : Table K → Except ModelError (Table K)) :
    (modifyTable id change).Atomic := by
  refine (readsOnly_find id).bind_atomic fun _ t _ => ?_
  exact (readsOnly_lift _).bind_atomic fun _ changed _ => atomic_replaceTable id changed

theorem atomic_moveTable [Scalar K] (id : TableId) (position : Canvas.Point K) :
    (moveTable id position).Atomic := atomic_modifyTable id _

end Model.InPlace

/-! ## The editor -/

namespace TableEditor.InPlace

theorem atomic_changeDraft (change : Table K → Except ModelError (Table K)) :
    (changeDraft change).Atomic := by
  refine readsOnly_get.bind_atomic fun _ e _ => ?_
  exact (readsOnly_lift _).bind_atomic fun _ draft _ => (succeeds_modify _).atomic

theorem atomic_setForeignKey (m : Model K) (index : Nat) (target : ForeignKey) :
    (setForeignKey m index target).Atomic := by
  refine readsOnly_get.bind_atomic fun _ e _ => ?_
  exact (readsOnly_require _ _).bind_atomic fun _ _ _ => atomic_changeDraft _

/-- A commit changes nothing of the schema if it fails. The draft it only reads. -/
theorem atomic_commit (e : TableEditor K) : (commit e).Atomic := by
  refine readsOnly_get.bind_atomic fun _ m _ => ?_
  exact (Model.InPlace.atomic_replaceTable _ _).adapt _

end TableEditor.InPlace

/-! ## The stage -/

namespace Canvas.Stage.InPlace

variable [Scalar K]

/-- Only a drag can fail, and only before the table has moved. -/
theorem atomic_follow (position : Point K) : (follow position).Atomic := by
  refine readsOnly_get.bind_atomic fun _ s _ => ?_
  cases s.gesture with
  | idle => exact (succeeds_pure false).atomic
  | panning last =>
    exact ((succeeds_modify _).bind fun _ => (succeeds_modify _).bind fun _ =>
      succeeds_pure true).atomic
  | dragging table grab =>
    refine readsOnly_get.bind_atomic fun _ s _ => Atomic.tryCatch ?_ fun e => ?_
    · have hmove := Model.InPlace.atomic_moveTable table
        ((s.viewport.toCanvas position).minus grab)
      exact (hmove.onPart fun _ => rfl).bind_succeeds fun _ => succeeds_pure true
    · cases e with
      | unknownTable id => exact atomic_modify_pure _ false
      | _ => exact fun _ _ _ h => (Prod.mk.inj h).2.symm

theorem atomic_handle (metrics : TableMetrics K) (e : PointerEvent K) :
    (handle metrics e).Atomic := by
  cases e with
  | move position => exact atomic_follow position
  | down position button => exact atomic_modify_pure _ false
  | up => exact atomic_modify_pure _ false
  | leave => exact atomic_modify_pure _ false

end Canvas.Stage.InPlace

/-! ## The workspace -/

namespace Workspace.InPlace

theorem atomic_removeTable (id : TableId) :
    (removeTable id : Method (Workspace K) _ _).Atomic :=
  (Model.InPlace.atomic_removeTable id).onPart fun _ => rfl

theorem atomic_pointer [Scalar K] (e : Canvas.PointerEvent K) : (pointer e).Atomic := by
  refine readsOnly_get.bind_atomic fun _ w _ => ?_
  exact (Canvas.Stage.InPlace.atomic_handle w.metrics e).onPart fun _ => rfl

end Workspace.InPlace

end SchemaGraph
