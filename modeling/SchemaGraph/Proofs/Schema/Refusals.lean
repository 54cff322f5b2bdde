import SchemaGraph.Proofs.Schema.SessionSteps

/-!
# Refused operations change nothing

Whatever is refused, for whatever reason and at whatever stage, leaves the session as it was: the
schema, the dialect, the viewport, the gesture and the open editor. Only an import in one step has
used up its ticket. So in a run the refused operations may be left out, if each refused import gives
way to the beginning of one (`Session.unchanged_of_refused`).
-/

namespace SchemaGraph

variable {K : Type}

namespace Session

/-! ## Actions -/

/-- If the outcome is a refusal it leaves the session `s`. -/
def Keeps (s : Session K) (o : Outcome K) : Prop := ∀ e, o.1 = .error e → o.2 = s

section
variable {s : Session K}

@[simp] theorem keeps_refuse (e : ActionError) : s.Keeps (s.refuse e) := fun _ _ => rfl

@[simp] theorem keeps_answer (s' : Session K) (a : Answer K) : s.Keeps (s'.answer a) := by
  intro e h
  cases h

theorem keeps_onWorkspace {ε α : Type} {p : Method (Workspace K) ε α} (hp : p.Atomic)
    (wrap : ε → ActionError) (tell : α → Answer K) : s.Keeps (s.onWorkspace p wrap tell) := by
  rw [onWorkspace_eq hp]
  split <;> simp

theorem keeps_onModel {ε : Type} {p : Method (Model K) ε Unit} (hp : p.Atomic)
    (wrap : ε → ActionError) : s.Keeps (s.onModel p wrap) := by
  rw [onModel_eq hp]
  split <;> simp

theorem keeps_onEditor {p : Method (TableEditor K) EditorError Unit} (hp : p.Atomic) :
    s.Keeps (s.onEditor p) := by
  rw [onEditor_eq hp]
  split
  · simp
  · split <;> simp

/-- The draft is checked by the schema before anything is put in its place. -/
theorem keeps_commit : s.Keeps s.commit := by
  unfold commit
  split
  · simp
  · exact keeps_onModel (TableEditor.InPlace.atomic_commit _) _

theorem keeps_editAddColumn : s.Keeps s.editAddColumn := by
  unfold editAddColumn
  split <;> simp

theorem keeps_openEditor (id : TableId) : s.Keeps (s.openEditor id) := by
  unfold openEditor
  split <;> simp

theorem keeps_discard : s.Keeps s.discard := by
  unfold discard
  split <;> simp

end

variable [Scalar K] {s : Session K}

theorem keeps_finishImport (ticket : UInt32) (text : String) :
    s.Keeps (s.act (.finishImport ticket text)) :=
  keeps_onWorkspace (Workspace.InPlace.atomic_finishImport ticket text) _ _

/-- What is left of an action that is refused. -/
def afterRefusal (s : Session K) : Action K → Session K
  | .importScript _ => s.withTicketIssued
  | _ => s

/-- An action that is refused leaves the session as it was, but for the ticket of an import. -/
theorem keeps_act (s : Session K) (a : Action K) : (s.afterRefusal a).Keeps (s.act a) := by
  open Model.InPlace TableEditor.InPlace in
  cases a with
  | importScript text =>
    rw [act_importScript]
    exact keeps_finishImport _ text
  | finishImport ticket text => exact keeps_finishImport ticket text
  | removeTable id => exact keeps_onWorkspace (Workspace.InPlace.atomic_removeTable id) _ _
  | pointer e => exact keeps_onWorkspace (Workspace.InPlace.atomic_pointer e) _ _
  | replaceTable id t => exact keeps_onModel (atomic_replaceTable id t) _
  | replaceAll ts => exact keeps_onModel (atomic_replaceAll ts) _
  | moveTable id position => exact keeps_onModel (atomic_modifyTable id _) _
  | addColumn id c => exact keeps_onModel (atomic_modifyTable id _) _
  | updateColumn id index c => exact keeps_onModel (atomic_modifyTable id _) _
  | removeColumn id index => exact keeps_onModel (atomic_modifyTable id _) _
  | toggleFlag id index f => exact keeps_onModel (atomic_modifyTable id _) _
  | setForeignKey id index target => exact keeps_onModel (atomic_modifyTable id _) _
  | clearForeignKey id index => exact keeps_onModel (atomic_modifyTable id _) _
  | commit => exact keeps_commit
  | editRename name => exact keeps_onEditor (Method.succeeds_modify _).atomic
  | editUpdateColumn index c => exact keeps_onEditor (atomic_changeDraft _)
  | editRemoveColumn index => exact keeps_onEditor (atomic_changeDraft _)
  | editToggleFlag index f => exact keeps_onEditor (atomic_changeDraft _)
  | editSetForeignKey index target => exact keeps_onEditor (atomic_setForeignKey _ index target)
  | editClearForeignKey index => exact keeps_onEditor (atomic_changeDraft _)
  | editAddColumn => exact keeps_editAddColumn
  | openEditor id => exact keeps_openEditor id
  | discard => exact keeps_discard
  | beginImport => exact keeps_answer _ _
  | setDialect d => exact keeps_answer _ _
  | addTable => exact keeps_answer _ _
  | wheel e => exact keeps_answer _ _
  | resize width height => exact keeps_answer _ _
  | zoomIn => exact keeps_answer _ _
  | zoomOut => exact keeps_answer _ _

/-! ## Operations -/

/-- What a session can be asked for: an action, or a script of its schema, which is shown or handed
to a sink. -/
inductive Operation (K : Type) where
  | act (a : Action K)
  | generate (now : Sql.Instant)
  | exportTo (now : Sql.Instant) (save : String → String → Except SinkError Unit)

/-- Why an operation is refused. -/
inductive Refusal where
  | action (e : ActionError)
  | writing (e : Sql.WritingError)
  | exporting (e : ExportError)
  deriving DecidableEq

/-- Carries out an operation: why it is refused, if it is, and the session afterwards. -/
def perform (s : Session K) : Operation K → Option Refusal × Session K
  | .act a =>
    match s.act a with
    | (.error e, s) => (some (.action e), s)
    | (.ok _, s) => (none, s)
  | .generate now =>
    match s.workspace.generate now with
    | .error e => (some (.writing e), s)
    | .ok _ => (none, s)
  | .exportTo now save =>
    match s.workspace.exportScript (m := Id) now save with
    | .error e => (some (.exporting e), s)
    | .ok _ => (none, s)

/-- Carries out operations in order, whether they are refused or not. -/
def performAll (s : Session K) (ops : List (Operation K)) : Session K :=
  ops.foldl (fun s op => (s.perform op).2) s

/-- What is left of an operation that is refused. -/
def Operation.leaves (s : Session K) : Operation K → Session K
  | .act a => s.afterRefusal a
  | _ => s

/-- An operation that has the same effect as this one when it is refused, and none if that has
none. -/
def Operation.remainder : Operation K → List (Operation K)
  | .act (.importScript _) => [.act .beginImport]
  | _ => []

/-- The operations of a run that are not refused, and the remainders of the others. -/
def accepted (s : Session K) : List (Operation K) → List (Operation K)
  | [] => []
  | op :: rest =>
    (if (s.perform op).1 = none then [op] else op.remainder) ++ accepted (s.perform op).2 rest

/-- No operation of the run is refused when it is its turn. -/
def AllAccepted (s : Session K) : List (Operation K) → Prop
  | [] => True
  | op :: rest => (s.perform op).1 = none ∧ AllAccepted (s.perform op).2 rest

/-- A refused operation changes nothing, but for the ticket of an import. -/
theorem perform_of_refused {op : Operation K} {reason : Refusal}
    (h : (s.perform op).1 = some reason) : (s.perform op).2 = op.leaves s := by
  cases op with
  | act a =>
    have hkeeps := keeps_act s a
    unfold perform at h ⊢
    dsimp only at h ⊢
    split at h
    · rename_i e s' hact
      rw [hact] at hkeeps
      exact hkeeps e rfl
    · cases h
  | generate now =>
    unfold perform
    dsimp only
    split <;> rfl
  | exportTo now save =>
    unfold perform
    dsimp only
    split <;> rfl

theorem performAll_append (s : Session K) (ops more : List (Operation K)) :
    s.performAll (ops ++ more) = (s.performAll ops).performAll more := List.foldl_append

theorem allAccepted_append {ops more : List (Operation K)} (h : s.AllAccepted ops)
    (hmore : (s.performAll ops).AllAccepted more) : s.AllAccepted (ops ++ more) := by
  induction ops generalizing s with
  | nil => exact hmore
  | cons op ops ih => exact ⟨h.1, ih h.2 hmore⟩

/-- The remainder of an operation is carried out, and leaves what the operation does when it is
refused. -/
theorem performAll_remainder (s : Session K) (op : Operation K) :
    s.performAll op.remainder = op.leaves s ∧ s.AllAccepted op.remainder := by
  unfold Operation.remainder
  split
  · exact ⟨rfl, rfl, trivial⟩
  · rename_i hnot
    refine ⟨?_, trivial⟩
    cases op with
    | act a =>
      cases a with
      | importScript text => exact absurd rfl (hnot text)
      | _ => rfl
    | _ => rfl

/-- Without its refused operations a run leads to the same session. -/
theorem performAll_accepted (s : Session K) (ops : List (Operation K)) :
    s.performAll (s.accepted ops) = s.performAll ops ∧ s.AllAccepted (s.accepted ops) := by
  induction ops generalizing s with
  | nil => exact ⟨rfl, trivial⟩
  | cons op ops ih =>
    obtain ⟨hrun, hall⟩ := ih (s.perform op).2
    have hfirst : s.performAll (if (s.perform op).1 = none then [op] else op.remainder)
          = (s.perform op).2 ∧
        s.AllAccepted (if (s.perform op).1 = none then [op] else op.remainder) := by
      cases hreason : (s.perform op).1 with
      | none => exact ⟨rfl, hreason, trivial⟩
      | some reason =>
        rw [if_neg (by simp), perform_of_refused hreason]
        exact performAll_remainder s op
    rw [accepted, performAll_append, hfirst.1]
    refine ⟨hrun, allAccepted_append hfirst.2 ?_⟩
    rw [hfirst.1]
    exact hall

/-- **Refused operations change nothing.** Whatever operation is refused, and for whatever reason,
the session stays what it was; an import in one step has used up a ticket, and changed nothing
else. A run therefore leads to the same session without its refused operations, where the beginning
of an import stands for each refused one, and then nothing is refused any more. -/
theorem unchanged_of_refused (s : Session K) :
    (∀ op reason, (s.perform op).1 = some reason → (s.perform op).2 = op.leaves s) ∧
      ∀ ops, s.performAll (s.accepted ops) = s.performAll ops ∧ s.AllAccepted (s.accepted ops) :=
  ⟨fun _ _ => perform_of_refused, s.performAll_accepted⟩

/-- Two tables, and an open editor whose draft takes the name of the other table. -/
def clashingSession : Session Rat :=
  (ofWorkspace (.ofConfig .standard ⟨0, 0⟩)).run
    [.addTable, .addTable, .openEditor (IdSupply.draw ⟨0, 0⟩).1, .editRename "Table2"]

/-- The draft is refused, and so is a text without tables; the session stays what it was, with one
more ticket issued by the import. -/
theorem unchanged_clashingSession :
    (clashingSession.perform (.act .commit)).1
        = some (.action (.editor (.model (.duplicateTableName "Table2")))) ∧
      (clashingSession.perform (.act .commit)).2 = clashingSession ∧
      (clashingSession.perform (.act (.importScript "SELECT 1;"))).1
        = some (.action (.importing (.script .noTableStatements))) ∧
      (clashingSession.perform (.act (.importScript "SELECT 1;"))).2
        = clashingSession.withTicketIssued := by
  have hcommit : (clashingSession.perform (.act .commit)).1
      = some (.action (.editor (.model (.duplicateTableName "Table2")))) := by decide +kernel
  have himport : (clashingSession.perform (.act (.importScript "SELECT 1;"))).1
      = some (.action (.importing (.script .noTableStatements))) := by decide +kernel
  exact ⟨hcommit, (unchanged_of_refused clashingSession).1 _ _ hcommit,
    himport, (unchanged_of_refused clashingSession).1 _ _ himport⟩

end Session

end SchemaGraph
