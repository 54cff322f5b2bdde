import SchemaGraph.Proofs.Schema.Atomic

/-!
# What the methods lead to

The outcome of each method in one expression: which check fails first, or what becomes of the object
when none does. Since a method changes all or nothing, its outcome says all about a call
(`Method.Atomic.call_eq`).
-/

namespace SchemaGraph

namespace Method

variable {σ τ ε ε' α β : Type}

/-- A call that changes all or nothing is known by its outcome. -/
theorem Atomic.call_eq {p : Method σ ε α} (hp : p.Atomic) (s : σ) :
    p.call s = match p.outcome s with
      | .error e => (.error e, s)
      | .ok (a, s') => (.ok a, s') := by
  unfold outcome
  rcases h : p.call s with ⟨e | a, s'⟩
  · rw [hp s e s' h]
  · rfl

theorem outcome_bind (p : Method σ ε α) (f : α → Method σ ε β) (s : σ) :
    (p >>= f).outcome s = match p.outcome s with
      | .ok (a, s') => (f a).outcome s'
      | .error e => .error e := by
  unfold outcome
  rw [call_bind]
  rcases p.call s with ⟨e | a, s'⟩ <;> rfl

theorem outcome_adapt (wrap : ε → ε') (p : Method σ ε α) (s : σ) :
    Method.outcome (ExceptT.adapt wrap p) s = (p.outcome s).mapError wrap := by
  unfold outcome
  rw [call_adapt]
  rcases p.call s with ⟨e | a, s'⟩ <;> rfl

theorem outcome_onPart (part : σ → τ) (put : σ → τ → σ) (p : Method τ ε α) (s : σ) :
    (p.onPart part put).outcome s = (p.outcome (part s)).map fun r => (r.1, put s r.2) := by
  unfold outcome
  rw [call_onPart]
  rcases p.call (part s) with ⟨e | a, t⟩ <;> rfl

end Method

open Method

variable {K : Type}

/-! ## The schema -/

namespace Model

theorem removeTable_eq (m : Model K) (id : TableId) :
    m.removeTable id = match m.table? id with
      | none => .error (.unknownTable id)
      | some removed =>
        let others := m.tables.eraseP fun t => t.id == id
        let cleared := others.map fun t => (t.withoutReferencesTo removed.name).getD t
        .ok (removed, withTables cleared) := by
  rw [removeTable, InPlace.removeTable, outcome_bind]
  have hfind : (InPlace.find id).outcome m = (m.get id).map fun t => (t, m) := by
    unfold outcome
    rw [InPlace.find, call_bind, call_get]
    dsimp only
    rw [call_lift]
    cases m.get id <;> rfl
  rw [hfind, Model.get]
  cases m.table? id <;> rfl

theorem replaceTable_eq (m : Model K) (id : TableId) (t : Table K) :
    m.replaceTable id t = match m.tables.findIdx? fun u => u.id == id with
      | none => .error (.unknownTable id)
      | some index =>
        if t.id ≠ id then .error (.idMismatch id t.id)
        else match checkTable t with
          | .error e => .error e
          | .ok () =>
            if m.nameTaken id t.name then .error (.duplicateTableName t.name)
            else .ok (withTables (m.tables.set index t)) := by
  unfold replaceTable result outcome InPlace.replaceTable
  simp only [call_bind, InPlace.call_indexOf, call_require, call_lift, call_get]
  cases m.tables.findIdx? fun u => u.id == id with
  | none => rfl
  | some index =>
    by_cases hid : t.id = id
    · cases hcheck : checkTable t with
      | error e => simp [hid, Except.map]
      | ok u =>
        cases htaken : m.nameTaken id t.name <;> simp [hid, Except.map, htaken]
        rfl
    · simp [hid, Except.map]

theorem InPlace.replaceAll_result (m : Model K) (ts : List (Table K)) :
    (InPlace.replaceAll ts).result m = match checkTables [] ts with
      | .error e => .error e
      | .ok () => .ok (withTables ts) := by
  unfold result outcome InPlace.replaceAll
  simp only [call_bind, call_lift]
  cases checkTables [] ts <;> rfl

theorem replaceAll_eq (ts : List (Table K)) :
    replaceAll ts = match checkTables [] ts with
      | .error e => .error e
      | .ok () => .ok (withTables ts) := InPlace.replaceAll_result .empty ts

/-- Nothing is left of what the schema was before. -/
theorem replaceAll_result (m : Model K) (ts : List (Table K)) :
    (InPlace.replaceAll ts).result m = replaceAll ts := by
  rw [InPlace.replaceAll_result, replaceAll_eq]

theorem modifyTable_eq (m : Model K) (id : TableId)
    (change : Table K → Except ModelError (Table K)) :
    m.modifyTable id change = match m.get id with
      | .error e => .error e
      | .ok t =>
        match change t with
        | .error e => .error e
        | .ok changed => m.replaceTable id changed := by
  unfold modifyTable result outcome InPlace.modifyTable InPlace.find
  simp only [call_bind, call_get, call_lift]
  cases m.get id with
  | error e => rfl
  | ok t =>
    dsimp only
    cases change t <;> rfl

theorem moveTable_eq [Scalar K] (m : Model K) (id : TableId) (position : Canvas.Point K) :
    m.moveTable id position = m.modifyTable id fun t => .ok (t.movedTo position) := rfl

end Model

/-! ## The editor -/

namespace TableEditor

namespace InPlace

theorem changeDraft_result (e : TableEditor K) (change : Table K → Except ModelError (Table K)) :
    (changeDraft change).result e = match change e.draft with
      | .error reason => .error (.model reason)
      | .ok draft => .ok { e with draft } := by
  unfold result outcome changeDraft
  simp only [call_bind, call_get, call_lift]
  cases change e.draft <;> rfl

theorem setForeignKey_result (e : TableEditor K) (m : Model K) (index : Nat)
    (target : ForeignKey) :
    (setForeignKey m index target).result e
      = if (e.foreignKeyTargets m).contains target then
          (changeDraft fun t => t.withForeignKey index (some target)).result e
        else .error (.illegalForeignKey target) := by
  unfold result outcome setForeignKey
  simp only [call_bind, call_get, call_require]
  cases (e.foreignKeyTargets m).contains target <;> rfl

end InPlace

theorem commit_eq (e : TableEditor K) (m : Model K) :
    e.commit m = match m.replaceTable e.draft.id (e.placedDraft m) with
      | .error reason => .error (.model reason)
      | .ok changed => .ok changed := by
  unfold commit Model.replaceTable result InPlace.commit
  rw [outcome_bind]
  show (Method.outcome (ExceptT.adapt EditorError.model _) m).map _ = _
  rw [outcome_adapt]
  cases (Model.InPlace.replaceTable e.draft.id (e.placedDraft m)).outcome m <;> rfl

end TableEditor

/-! ## The stage -/

namespace Canvas.Stage

variable [Scalar K]

theorem follow_eq (s : Stage K) (position : Point K) :
    s.follow position = match s.gesture with
      | .idle => .ok (false, s)
      | .panning last =>
        .ok (true, { s with
          viewport := s.viewport.panBy (position.x - last.x) (position.y - last.y)
          gesture := .panning position })
      | .dragging table grab =>
        match s.model.moveTable table ((s.viewport.toCanvas position).minus grab) with
        | .ok model => .ok (true, { s with model })
        | .error (.unknownTable _) => .ok (false, s.settle)
        | .error e => .error e := by
  obtain ⟨model, viewport, gesture⟩ := s
  unfold follow InPlace.follow outcome
  rw [call_bind, call_get]
  cases gesture with
  | idle => rfl
  | panning last => rfl
  | dragging table grab =>
    dsimp only
    have hmove := (Model.InPlace.atomic_moveTable table
      ((viewport.toCanvas position).minus grab)).call_eq model
    rw [call_bind, call_get]
    dsimp only
    rw [call_tryCatch, call_bind, call_onPart, hmove, Model.moveTable, result]
    cases (Model.InPlace.moveTable table
      ((viewport.toCanvas position).minus grab)).outcome model with
    | error e => cases e <;> rfl
    | ok r => rfl

theorem handle_eq (s : Stage K) (metrics : TableMetrics K) (e : PointerEvent K) :
    s.handle metrics e = match e with
      | .down position button => .ok (false, s.press metrics position button)
      | .move position => s.follow position
      | .up => .ok (false, s.settle)
      | .leave => .ok (false, s.settle) := by
  cases e <;> rfl

end Canvas.Stage

/-! ## The workspace -/

namespace Workspace

theorem removeTable_eq (w : Workspace K) (id : TableId) :
    w.removeTable id = (w.model.removeTable id).map fun r => (r.1, w.withModel r.2) := by
  unfold removeTable InPlace.removeTable InPlace.onModel
  rw [outcome_onPart, Model.removeTable]

variable [Scalar K]

/-- If the schema refused the tables of a script, their identities would be used up. -/
theorem InPlace.call_takeOver (w : Workspace K) (script : Sql.Script) :
    (InPlace.takeOver script).call w =
      let (tables, ids) := tablesOf w.metrics w.ids script
      match Model.replaceAll tables with
      | .error e => (.error (.model e), { w with ids })
      | .ok model => (.ok ⟨model.tables.length, model.relationships.length, script⟩,
          { w with model, ids, gesture := .idle }) := by
  have hreplace := (Model.InPlace.atomic_replaceAll (tablesOf w.metrics w.ids script).1).call_eq
    w.model
  have hresult := Model.replaceAll_result w.model (tablesOf w.metrics w.ids script).1
  dsimp only
  rw [← hresult, result]
  unfold InPlace.takeOver InPlace.drawTables InPlace.onModel
  simp only [call_bind, call_get, call_modify, call_pure, call_adapt, call_onPart, hreplace]
  cases (Model.InPlace.replaceAll (tablesOf w.metrics w.ids script).1).outcome w.model <;> rfl

theorem pointer_eq (w : Workspace K) (e : Canvas.PointerEvent K) :
    w.pointer e = (w.toStage.handle w.metrics e).map fun r => (r.1, { w with toStage := r.2 }) := by
  unfold pointer InPlace.pointer
  rw [outcome_bind]
  show (onPart _ _ (Canvas.Stage.InPlace.handle w.metrics e)).outcome w = _
  rw [outcome_onPart, Canvas.Stage.handle]

theorem finishImport_eq (w : Workspace K) (ticket : UInt32) (text : String) :
    w.finishImport ticket text =
      if ticket ≠ w.lastTicket then .error .superseded
      else match Sql.readScript w.dialect text with
        | .error e => .error (.script e)
        | .ok script =>
          let (tables, ids) := tablesOf w.metrics w.ids script
          match Model.replaceAll tables with
          | .error e => .error (.model e)
          | .ok model =>
            .ok (⟨model.tables.length, model.relationships.length, script⟩,
              { w with model, ids, gesture := .idle }) := by
  unfold finishImport InPlace.finishImport outcome
  simp only [call_bind, call_get, call_require, call_lift]
  by_cases hticket : ticket = w.lastTicket
  · rw [if_pos hticket, if_neg (not_not_intro hticket)]
    dsimp only
    cases Sql.readScript w.dialect text with
    | error e => rfl
    | ok script =>
      dsimp only [Except.mapError]
      rw [InPlace.call_takeOver]
      dsimp only
      cases Model.replaceAll (tablesOf w.metrics w.ids script).1 <;> rfl
  · rw [if_neg hticket, if_pos hticket]

end Workspace

end SchemaGraph
