import SchemaGraph.Host
import SchemaGraph.Proofs.Schema.Tickets

/-!
# The tickets of a host

To a host a ticket is a number, and it may come with any number. A number that it was given by no
call is refused once an import has been begun, since from then on the counter shows a ticket that
was handed out (`lastTicket_run`). Before that the counter shows `0`, which is nobody's ticket, and
`0` completes an import that was never begun (`finishImport_unissued`).
-/

namespace SchemaGraph.Host

open Method

/-! ## Calls -/

/-- What a host can ask of a canvas. -/
inductive Call where
  | dialect
  | setDialect (name : String)
  | beginImport
  | finishImport (ticket : UInt32) (text : String)
  | exportSql (now : Sql.Instant) (save : String → String → Except SinkError Unit)
  | generateSql (now : Sql.Instant)
  | addTable
  | removeTable (id : String)
  | renameTable (id name : String)
  | replaceTable (json : String)
  | foreignKeyTargets (id : String)
  | pointerDown (position : Canvas.Point Float) (code : Int)
  | pointerMove (position : Canvas.Point Float)
  | pointerUp
  | pointerLeave
  | wheel (e : Canvas.Wheel Float)
  | zoomIn
  | zoomOut
  | zoom
  | resize (width height : Float)
  | scene
  | model

/-- What a host is answered. -/
inductive Reply where
  | done
  | ticket (n : UInt32)
  | text (s : String)
  | flag (b : Bool)
  | number (x : Float)
  | size (bytes : Nat)
  | failed (message : String)

/-- The reply to a call of a method, and the workspace as the method leaves it. -/
def settle {α : Type} (w : Workspace Float) (reply : α → Reply)
    (p : Method (Workspace Float) HostError α) : Reply × Workspace Float :=
  match p.call w with
  | (.ok a, w') => (reply a, w')
  | (.error e, w') => (.failed e.message, w')

/-- The reply to a question. -/
def told : Except HostError String → Reply
  | .ok answer => .text answer
  | .error e => .failed e.message

/-- The reply to an export. -/
def exported : Except ExportError Nat → Reply
  | .ok bytes => .size bytes
  | .error e => .failed e.message

/-- Carries out a call. -/
def call (w : Workspace Float) : Call → Reply × Workspace Float
  | .dialect => (.text w.dialect.key, w)
  | .setDialect name => settle w (fun _ => .done) (InPlace.setDialect name)
  | .beginImport => (.ticket w.beginImport.1, w.beginImport.2)
  | .finishImport ticket text => settle w .text (InPlace.finishImport ticket text)
  | .exportSql now save => (exported (w.exportScript (m := Id) now save), w)
  | .generateSql now => (told (generate w now), w)
  | .addTable => (.text w.addTable.1.text, w.addTable.2)
  | .removeTable id => settle w (fun _ => .done) (InPlace.removeTable id)
  | .renameTable id name => settle w (fun _ => .done) (InPlace.renameTable id name)
  | .replaceTable json => settle w (fun _ => .done) (InPlace.replaceTable json)
  | .foreignKeyTargets id => (told (foreignKeyTargets w id), w)
  | .pointerDown position code => settle w .flag (InPlace.pointerDown position code)
  | .pointerMove position => settle w .flag (InPlace.pointer (.move position))
  | .pointerUp => settle w .flag (InPlace.pointer .up)
  | .pointerLeave => settle w .flag (InPlace.pointer .leave)
  | .wheel e => (.flag (w.wheel e).1, (w.wheel e).2)
  | .zoomIn => (.done, w.zoomIn)
  | .zoomOut => (.done, w.zoomOut)
  | .zoom => (.number w.viewport.zoom, w)
  | .resize width height => (.done, w.resize width height)
  | .scene => (.text (scene w), w)
  | .model => (.text (model w), w)

/-- The workspace after several calls. -/
def run (w : Workspace Float) (calls : List Call) : Workspace Float :=
  calls.foldl (fun w c => (call w c).2) w

/-- The tickets that the calls of a run hand out. -/
def tickets (w : Workspace Float) : List Call → List UInt32
  | [] => []
  | c :: rest =>
    let reply := call w c
    match reply.1 with
    | .ticket n => n :: tickets reply.2 rest
    | _ => tickets reply.2 rest

/-! ## The counter -/

/-- The method leaves the counter as it is, also if it fails. -/
def KeepsTicket {ε α : Type} (p : Method (Workspace Float) ε α) : Prop :=
  ∀ w, (p.call w).2.lastTicket = w.lastTicket

section
variable {ε ε' α β : Type}

theorem keepsTicket_of_readsOnly {p : Method (Workspace Float) ε α} (h : p.ReadsOnly) :
    KeepsTicket p := fun w => congrArg (·.lastTicket) (h w)

theorem KeepsTicket.bind {p : Method (Workspace Float) ε α} {f : α → Method (Workspace Float) ε β}
    (hp : KeepsTicket p) (hf : ∀ a, KeepsTicket (f a)) : KeepsTicket (p >>= f) := by
  intro w
  have hw := hp w
  rw [call_bind]
  rcases hcall : p.call w with ⟨e | a, w'⟩ <;> rw [hcall] at hw
  · exact hw
  · exact (hf a w').trans hw

theorem KeepsTicket.adapt {p : Method (Workspace Float) ε α} (hp : KeepsTicket p) (wrap : ε → ε') :
    KeepsTicket (ExceptT.adapt wrap p) := hp

theorem keepsTicket_pure (a : α) : KeepsTicket (pure a : Method _ ε α) := fun _ => rfl

theorem keepsTicket_onModel (p : Method (Model Float) ε α) :
    KeepsTicket (Workspace.InPlace.onModel p) := fun _ => rfl

theorem keepsTicket_pointer (e : Canvas.PointerEvent Float) :
    KeepsTicket (Workspace.InPlace.pointer e) :=
  (keepsTicket_of_readsOnly readsOnly_get).bind fun _ _ => rfl

theorem keepsTicket_takeOver (script : Sql.Script) :
    KeepsTicket (Workspace.InPlace.takeOver script) := by
  refine KeepsTicket.bind (fun _ => rfl) fun tables => ?_
  refine ((keepsTicket_onModel _).adapt _).bind fun _ => ?_
  exact KeepsTicket.bind (fun _ => rfl) fun _ => fun _ => rfl

theorem keepsTicket_finishImport (n : UInt32) (text : String) :
    KeepsTicket (Workspace.InPlace.finishImport n text) := by
  refine (keepsTicket_of_readsOnly readsOnly_get).bind fun _ => ?_
  refine (keepsTicket_of_readsOnly (readsOnly_require _ _)).bind fun _ => ?_
  refine (keepsTicket_of_readsOnly readsOnly_get).bind fun _ => ?_
  exact (keepsTicket_of_readsOnly (readsOnly_lift _)).bind keepsTicket_takeOver

end

namespace InPlace

theorem keepsTicket_setDialect (name : String) : KeepsTicket (InPlace.setDialect name) :=
  (keepsTicket_of_readsOnly (readsOnly_lift _)).bind fun _ _ => rfl

theorem keepsTicket_renameTable (id name : String) : KeepsTicket (InPlace.renameTable id name) := by
  refine (keepsTicket_of_readsOnly readsOnly_get).bind fun _ => ?_
  refine (keepsTicket_of_readsOnly (readsOnly_lift _)).bind fun _ => ?_
  exact (keepsTicket_onModel _).adapt _

theorem keepsTicket_replaceTable (json : String) : KeepsTicket (InPlace.replaceTable json) :=
  (keepsTicket_of_readsOnly (readsOnly_lift _)).bind fun _ => (keepsTicket_onModel _).adapt _

theorem keepsTicket_pointerDown (position : Canvas.Point Float) (code : Int) :
    KeepsTicket (InPlace.pointerDown position code) := by
  unfold InPlace.pointerDown
  split
  · exact (keepsTicket_pointer _).adapt _
  · exact keepsTicket_pure false

end InPlace

section
variable {w w' : Workspace Float}

theorem lastTicket_settle {α : Type} {reply : α → Reply}
    {p : Method (Workspace Float) HostError α} (hp : KeepsTicket p) :
    (settle w reply p).2.lastTicket = w.lastTicket := by
  have hw := hp w
  unfold settle
  rcases hcall : p.call w with ⟨_ | _, _⟩ <;> rw [hcall] at hw <;> exact hw

/-- What comes of two steps comes of the first one, and then of the second. -/
theorem exists_of_bind {ε α β : Type} {x : Except ε α} {f : α → Except ε β} {b : β}
    (h : x >>= f = .ok b) : ∃ a, x = .ok a ∧ f a = .ok b := by
  cases x with
  | error e => cases h
  | ok a => exact ⟨a, rfl, h⟩

theorem lastTicket_openCanvas {ids : IdSupply} {config : Option String}
    (h : openCanvas ids config = .ok w) : w.lastTicket = 0 := by
  have hsettings : ∃ settings : WorkspaceConfig Float,
      (lift .config settings.viewport.validate >>= fun _ => pure (.ofConfig settings ids))
        = .ok w := by
    unfold openCanvas at h
    cases config with
    | none => exact ⟨.standard, h⟩
    | some json =>
      obtain ⟨settings, -, h⟩ := exists_of_bind h
      exact ⟨settings, h⟩
  obtain ⟨settings, h⟩ := hsettings
  obtain ⟨_, -, h⟩ := exists_of_bind h
  cases h
  rfl

/-- Only the beginning of an import moves the counter. -/
theorem lastTicket_call (w : Workspace Float) (c : Call) :
    c = .beginImport ∨ (call w c).2.lastTicket = w.lastTicket := by
  open InPlace in
  cases c with
  | beginImport => exact Or.inl rfl
  | setDialect name => exact Or.inr (lastTicket_settle (keepsTicket_setDialect name))
  | finishImport ticket text =>
    exact Or.inr (lastTicket_settle
      (((keepsTicket_finishImport ticket text).adapt _).bind fun _ _ => rfl))
  | removeTable id =>
    exact Or.inr (lastTicket_settle (((keepsTicket_onModel _).adapt _).bind fun _ _ => rfl))
  | renameTable id name => exact Or.inr (lastTicket_settle (keepsTicket_renameTable id name))
  | replaceTable json => exact Or.inr (lastTicket_settle (keepsTicket_replaceTable json))
  | pointerDown position code =>
    exact Or.inr (lastTicket_settle (keepsTicket_pointerDown position code))
  | pointerMove position => exact Or.inr (lastTicket_settle ((keepsTicket_pointer _).adapt _))
  | pointerUp => exact Or.inr (lastTicket_settle ((keepsTicket_pointer _).adapt _))
  | pointerLeave => exact Or.inr (lastTicket_settle ((keepsTicket_pointer _).adapt _))
  | dialect => exact Or.inr rfl
  | exportSql now save => exact Or.inr rfl
  | generateSql now => exact Or.inr rfl
  | addTable => exact Or.inr rfl
  | foreignKeyTargets id => exact Or.inr rfl
  | wheel e => exact Or.inr rfl
  | zoomIn => exact Or.inr rfl
  | zoomOut => exact Or.inr rfl
  | zoom => exact Or.inr rfl
  | resize width height => exact Or.inr rfl
  | scene => exact Or.inr rfl
  | model => exact Or.inr rfl

theorem tickets_subset_cons (w : Workspace Float) (c : Call) (rest : List Call) :
    tickets (call w c).2 rest ⊆ tickets w (c :: rest) := by
  intro n hn
  rw [tickets]
  split
  · exact List.mem_cons_of_mem _ hn
  · exact hn

/-- After a run the counter shows a ticket that was handed out in it, or stands where it stood and
no import was begun. -/
theorem lastTicket_run (w : Workspace Float) (calls : List Call) :
    (.beginImport ∈ calls ∧ (run w calls).lastTicket ∈ tickets w calls) ∨
      (.beginImport ∉ calls ∧ (run w calls).lastTicket = w.lastTicket) := by
  induction calls generalizing w with
  | nil => exact Or.inr ⟨List.not_mem_nil, rfl⟩
  | cons c rest ih =>
    rcases ih (call w c).2 with ⟨hbegun, hissued⟩ | ⟨hnone, hkept⟩
    · exact Or.inl ⟨List.mem_cons_of_mem _ hbegun, tickets_subset_cons w c rest hissued⟩
    by_cases hc : c = .beginImport
    · -- The last import was begun by this very call.
      subst hc
      have hlast : (run w (.beginImport :: rest)).lastTicket = w.beginImport.1 := hkept
      rw [hlast]
      exact Or.inl ⟨List.mem_cons_self .., List.mem_cons_self ..⟩
    · have hcall := (lastTicket_call w c).resolve_left hc
      refine Or.inr ⟨?_, hkept.trans hcall⟩
      rw [List.mem_cons, not_or]
      exact ⟨Ne.symm hc, hnone⟩

/-- The one number on the counter that no call has handed out is the `0` it began with. -/
theorem eq_lastTicket_iff {ids : IdSupply} {config : Option String}
    (hopen : openCanvas ids config = .ok w) {calls : List Call} {n : UInt32}
    (hn : n ∉ tickets w calls) :
    n = (run w calls).lastTicket ↔ n = 0 ∧ .beginImport ∉ calls := by
  rcases lastTicket_run w calls with ⟨hbegun, hissued⟩ | ⟨hnone, hkept⟩
  · constructor
    · rintro rfl
      exact absurd hissued hn
    · rintro ⟨-, hnone⟩
      exact absurd hbegun hnone
  · rw [hkept, lastTicket_openCanvas hopen]
    exact (and_iff_left hnone).symm

end

/-! ## Completing an import -/

section
variable {w : Workspace Float} {n : UInt32} {text : String}

/-- An import changes all or nothing, so its outcome in the workspace is what the host learns. -/
theorem call_finishImport (w : Workspace Float) (n : UInt32) (text : String) :
    call w (.finishImport n text) = match w.finishImport n text with
      | .error e => (.failed e.message, w)
      | .ok (summary, w') =>
        (.text (Wire.encodeReport w'.model summary.diagnostics).compact, w') := by
  have hcall := (Workspace.InPlace.atomic_finishImport n text).call_eq w
  rw [call, settle, InPlace.finishImport, call_bind, call_adapt, hcall, ← Workspace.finishImport]
  cases w.finishImport n text <;> rfl

/-- A number that is not on the counter completes no import. -/
theorem call_finishImport_of_ne (h : n ≠ w.lastTicket) (text : String) :
    call w (.finishImport n text) = (.failed ImportError.superseded.message, w) := by
  rw [call_finishImport, Workspace.finishImport_of_ne h]

theorem call_finishImport_of_error (hn : n = w.lastTicket) {e : Sql.ScriptError}
    (h : Sql.readScript w.dialect text = .error e) :
    call w (.finishImport n text) = (.failed e.message, w) := by
  rw [call_finishImport, hn, Workspace.finishImport_of_error h]
  rfl

/-- The number on the counter completes an import, whether or not it was handed out. -/
theorem call_finishImport_of_ok (hn : n = w.lastTicket) {script : Sql.Script}
    (h : Sql.readScript w.dialect text = .ok script) :
    call w (.finishImport n text)
      = (.text (Wire.encodeReport (w.imported script).model script.diagnostics).compact,
          w.imported script) := by
  rw [call_finishImport, hn, Workspace.finishImport_of_ok h]
  rfl

/-- To complete an import fails without a change of the schema if the number is not on the counter
or the text cannot be read; otherwise it succeeds. -/
theorem failed_finishImport_iff (w : Workspace Float) (n : UInt32) (text : String) :
    (∃ message, (call w (.finishImport n text)).1 = .failed message ∧
        (call w (.finishImport n text)).2.model = w.model) ↔
      n ≠ w.lastTicket ∨ ∃ e, Sql.readScript w.dialect text = .error e := by
  by_cases hn : n = w.lastTicket
  · cases hread : Sql.readScript w.dialect text with
    | error e =>
      rw [call_finishImport_of_error hn hread]
      exact iff_of_true ⟨_, rfl, rfl⟩ (Or.inr ⟨e, rfl⟩)
    | ok script =>
      rw [call_finishImport_of_ok hn hread]
      simp [hn]
  · rw [call_finishImport_of_ne hn]
    exact iff_of_true ⟨_, rfl, rfl⟩ (Or.inl hn)

/-- **Only one number completes an import that was not begun.** Take any run of calls on a new
canvas, and a number that none of its calls handed out as a ticket. To complete an import with this
number fails and leaves the schema as it was, if the number is not `0`, or an import has been begun
in the run, or the text cannot be read; and in no other case. In the first two the import counts as
superseded, and nothing at all changes. But on a canvas on which no import has been begun the number
`0` replaces the schema, as if it were a ticket. -/
theorem finishImport_unissued {ids : IdSupply} {config : Option String}
    (hopen : openCanvas ids config = .ok w) (calls : List Call) (hn : n ∉ tickets w calls)
    (text : String) :
    let s := run w calls
    let finished := call s (.finishImport n text)
    ((∃ message, finished.1 = .failed message ∧ finished.2.model = s.model) ↔
        n ≠ 0 ∨ .beginImport ∈ calls ∨ ∃ e, Sql.readScript s.dialect text = .error e) ∧
      (n ≠ 0 ∨ .beginImport ∈ calls →
        finished = (.failed ImportError.superseded.message, s)) ∧
      (n = 0 → .beginImport ∉ calls →
        (∀ e, Sql.readScript s.dialect text = .error e → finished = (.failed e.message, s)) ∧
        ∀ script, Sql.readScript s.dialect text = .ok script →
          finished
            = (.text (Wire.encodeReport (s.imported script).model script.diagnostics).compact,
                s.imported script)) := by
  extract_lets s finished
  have hcounter : n = s.lastTicket ↔ n = 0 ∧ .beginImport ∉ calls := eq_lastTicket_iff hopen hn
  have hstale : n ≠ s.lastTicket ↔ n ≠ 0 ∨ .beginImport ∈ calls := by
    rw [Ne, hcounter, not_and_or, not_not]
  refine ⟨?_, fun h => call_finishImport_of_ne (hstale.2 h) text, fun hzero hnone => ?_⟩
  · rw [← or_assoc, ← hstale]
    exact failed_finishImport_iff s n text
  · have hcurrent := hcounter.2 ⟨hzero, hnone⟩
    exact ⟨fun e => call_finishImport_of_error hcurrent,
      fun script => call_finishImport_of_ok hcurrent⟩

/-- A new canvas. -/
def newCanvas : Workspace Float := .ofConfig .standard ⟨0, 0⟩

/-- A script of one table. -/
def usersScript : String := "CREATE TABLE users (id INT);"

/-- Before an import is begun `0` replaces the table of the canvas, and after that it is refused. -/
theorem finishImport_unissued_newCanvas :
    openCanvas ⟨0, 0⟩ none = .ok newCanvas ∧
      0 ∉ tickets newCanvas [.addTable] ∧ 0 ∉ tickets newCanvas [.addTable, .beginImport] ∧
      (run newCanvas [.addTable]).model.tables.map (·.name) = ["Table1"] ∧
      (call (run newCanvas [.addTable]) (.finishImport 0 usersScript)).2.model.tables.map (·.name)
        = ["users"] ∧
      call (run newCanvas [.addTable, .beginImport]) (.finishImport 0 usersScript)
        = (.failed "Import was superseded by a newer one",
            run newCanvas [.addTable, .beginImport]) := by
  have hopen : openCanvas ⟨0, 0⟩ none = .ok newCanvas := by
    have hvalid : (WorkspaceConfig.standard (K := Float)).viewport.validate.isOk := by
      decide +kernel
    simp only [openCanvas, pure, Except.pure, bind, Except.bind]
    cases hresult : (WorkspaceConfig.standard (K := Float)).viewport.validate with
    | ok => rfl
    | error e =>
      rw [hresult] at hvalid
      cases hvalid
  have hissued : (0 : UInt32) ∉ tickets newCanvas [.addTable, .beginImport] := by decide
  have hrefused := (finishImport_unissued hopen [.addTable, .beginImport] hissued usersScript).2.1
    (Or.inr (by simp))
  exact ⟨hopen, by decide, hissued, by decide +kernel, by decide +kernel, hrefused⟩

end

end SchemaGraph.Host
