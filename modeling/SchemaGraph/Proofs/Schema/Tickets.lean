import SchemaGraph.Proofs.Schema.Runs
import SchemaGraph.Proofs.Sql.Validity

/-!
# The last import wins

A ticket is the value of a counter that wraps around. As long as fewer tickets are issued than the
counter has values, no value comes twice, and a ticket is the last one exactly if none was issued
after it. An import that is completed with the last ticket replaces the schema as a whole; with any
other ticket it leaves everything as it was (`Session.lastImport_wins`).
-/

namespace SchemaGraph

variable {K : Type}

/-! ## Imports into a workspace -/

namespace Workspace

variable [Scalar K]

/-- The workspace once a script has been imported: other tables with their relationships, and no
gesture. Viewport, dialect and measures stay, and so does the counter of tickets. -/
def imported (w : Workspace K) (script : Sql.Script) : Workspace K :=
  let read := tablesOf w.metrics w.ids script
  { w with
    model := ⟨read.1, Relationship.resolve read.1⟩
    gesture := .idle
    ids := read.2 }

/-- What is said about an import of the script. -/
def summaryOf (w : Workspace K) (script : Sql.Script) : ImportSummary :=
  ⟨(w.imported script).model.tables.length, (w.imported script).model.relationships.length, script⟩

variable {w : Workspace K} {text : String}

theorem finishImport_of_ne {ticket : UInt32} (h : ticket ≠ w.lastTicket) (text : String) :
    w.finishImport ticket text = .error .superseded := by
  rw [finishImport_eq, if_pos h]

theorem finishImport_of_error {e : Sql.ScriptError} (h : Sql.readScript w.dialect text = .error e) :
    w.finishImport w.lastTicket text = .error (.script e) := by
  rw [finishImport_eq, if_neg (by simp), h]

/-- The schema accepts the tables of every script, so reading it is all that can fail. -/
theorem finishImport_of_ok {script : Sql.Script} (h : Sql.readScript w.dialect text = .ok script) :
    w.finishImport w.lastTicket text = .ok (w.summaryOf script, w.imported script) := by
  rw [finishImport_eq, if_neg (by simp), h]
  dsimp only
  rw [Sql.replaceAll_tablesOf h]
  rfl

theorem lastTicket_finishImport {w' : Workspace K} {ticket : UInt32} {summary : ImportSummary}
    (h : w.finishImport ticket text = .ok (summary, w')) : w'.lastTicket = w.lastTicket := by
  by_cases hticket : ticket = w.lastTicket
  · subst hticket
    cases hread : Sql.readScript w.dialect text with
    | error e =>
      rw [finishImport_of_error hread] at h
      cases h
    | ok script =>
      rw [finishImport_of_ok hread] at h
      cases h
      rfl
  · rw [finishImport_of_ne hticket] at h
    cases h

end Workspace

/-! ## Steps -/

/-- The action issues a ticket, to keep or to use up at once. -/
def Action.issues : Action K → Bool
  | .beginImport | .importScript _ => true
  | _ => false

namespace Session

/-- What can happen to a session: an action; or any change of what a workspace lends to its host,
which is the schema and the viewport, and of the editor, which is the host's own. -/
inductive Step (K : Type) where
  | act (a : Action K)
  | lend (model : Model K) (viewport : Canvas.Viewport K) (editor : Option (TableEditor K))

/-- The step issues a ticket. -/
def Step.issues : Step K → Bool
  | .act a => a.issues
  | .lend _ _ _ => false

section
variable {s : Session K}

theorem lastTicket_onModel {ε : Type} (p : Method (Model K) ε Unit) (wrap : ε → ActionError) :
    (s.onModel p wrap).2.workspace.lastTicket = s.workspace.lastTicket := by
  rw [session_onModel]
  rfl

theorem lastTicket_commit : s.commit.2.workspace.lastTicket = s.workspace.lastTicket := by
  unfold commit
  split
  · rfl
  · exact lastTicket_onModel _ _

end

variable [Scalar K]

/-- The session after a step. -/
def take (s : Session K) : Step K → Session K
  | .act a => (s.act a).2
  | .lend model viewport editor => ⟨(s.workspace.withModel model).withViewport viewport, editor⟩

/-- The session after several steps. -/
def takeAll (s : Session K) (steps : List (Step K)) : Session K := steps.foldl take s

theorem lastTicket_removeTable (s : Session K) (id : TableId) :
    (s.act (.removeTable id)).2.workspace.lastTicket = s.workspace.lastTicket := by
  rw [act_removeTable]
  cases s.workspace.model.removeTable id <;> rfl

theorem lastTicket_pointer (s : Session K) (e : Canvas.PointerEvent K) :
    (s.act (.pointer e)).2.workspace.lastTicket = s.workspace.lastTicket := by
  rw [act_pointer]
  cases s.workspace.toStage.handle s.workspace.metrics e <;> rfl

theorem lastTicket_finishImport (s : Session K) (ticket : UInt32) (text : String) :
    (s.act (.finishImport ticket text)).2.workspace.lastTicket = s.workspace.lastTicket := by
  rw [act_finishImport]
  split
  · rfl
  · exact Workspace.lastTicket_finishImport ‹_›

/-- An import in one step uses up a ticket, whether it is carried out or refused. -/
theorem lastTicket_importScript (s : Session K) (text : String) :
    (s.act (.importScript text)).2.workspace.lastTicket = s.workspace.lastTicket + 1 := by
  rw [act_importScript, lastTicket_finishImport]
  rfl

/-- Only the actions that issue a ticket move the counter, each by one. -/
theorem lastTicket_act (s : Session K) (a : Action K) :
    (s.act a).2.workspace.lastTicket
      = s.workspace.lastTicket + if a.issues then 1 else 0 := by
  have hkeep : ∀ {n : UInt32}, n = s.workspace.lastTicket →
      n = s.workspace.lastTicket + if false = true then 1 else 0 := by
    intro n hn
    simpa using hn
  cases a with
  | beginImport => rfl
  | importScript text => exact lastTicket_importScript s text
  | finishImport ticket text => exact hkeep (lastTicket_finishImport s ticket text)
  | removeTable id => exact hkeep (lastTicket_removeTable s id)
  | replaceTable id t => exact hkeep (lastTicket_onModel _ _)
  | replaceAll ts => exact hkeep (lastTicket_onModel _ _)
  | moveTable id position => exact hkeep (lastTicket_onModel _ _)
  | addColumn id c => exact hkeep (lastTicket_onModel _ _)
  | updateColumn id index c => exact hkeep (lastTicket_onModel _ _)
  | removeColumn id index => exact hkeep (lastTicket_onModel _ _)
  | toggleFlag id index f => exact hkeep (lastTicket_onModel _ _)
  | setForeignKey id index target => exact hkeep (lastTicket_onModel _ _)
  | clearForeignKey id index => exact hkeep (lastTicket_onModel _ _)
  | pointer e => exact hkeep (lastTicket_pointer s e)
  | openEditor id => exact hkeep (by rw [act, workspace_openEditor])
  | editRename name => exact hkeep (by rw [act, workspace_onEditor])
  | editAddColumn => exact hkeep (by rw [act, workspace_editAddColumn])
  | editUpdateColumn index c => exact hkeep (by rw [act, workspace_onEditor])
  | editRemoveColumn index => exact hkeep (by rw [act, workspace_onEditor])
  | editToggleFlag index f => exact hkeep (by rw [act, workspace_onEditor])
  | editSetForeignKey index target => exact hkeep (by rw [act, workspace_onEditor])
  | editClearForeignKey index => exact hkeep (by rw [act, workspace_onEditor])
  | commit => exact hkeep lastTicket_commit
  | discard => exact hkeep (by rw [act, workspace_discard])
  | addTable => exact hkeep rfl
  | setDialect d => exact hkeep rfl
  | wheel e => exact hkeep rfl
  | resize width height => exact hkeep rfl
  | zoomIn => exact hkeep rfl
  | zoomOut => exact hkeep rfl

theorem lastTicket_take (s : Session K) (step : Step K) :
    (s.take step).workspace.lastTicket
      = s.workspace.lastTicket + if step.issues then 1 else 0 := by
  cases step with
  | act a => exact lastTicket_act s a
  | lend model viewport editor =>
    simp [take, Step.issues, Workspace.withModel, Workspace.withViewport]

/-! ## Completing an import -/

section
variable {s : Session K} {ticket : UInt32} {text : String}

theorem finishImport_of_stale (h : ticket ≠ s.workspace.lastTicket) (text : String) :
    s.act (.finishImport ticket text) = (.error (.importing .superseded), s) := by
  rw [act_finishImport, Workspace.finishImport_of_ne h]
  rfl

theorem finishImport_of_unreadable (h : ticket = s.workspace.lastTicket) {e : Sql.ScriptError}
    (hread : Sql.readScript s.workspace.dialect text = .error e) :
    s.act (.finishImport ticket text) = (.error (.importing (.script e)), s) := by
  rw [act_finishImport, h, Workspace.finishImport_of_error hread]
  rfl

theorem finishImport_of_script (h : ticket = s.workspace.lastTicket) {script : Sql.Script}
    (hread : Sql.readScript s.workspace.dialect text = .ok script) :
    s.act (.finishImport ticket text)
      = (.ok (.imported (s.workspace.summaryOf script)),
          s.withWorkspace (s.workspace.imported script)) := by
  rw [act_finishImport, h, Workspace.finishImport_of_ok hread]
  rfl

/-- A call is superseded if its ticket is not the last one, and for no other reason. -/
theorem superseded_iff (s : Session K) (ticket : UInt32) (text : String) :
    (s.act (.finishImport ticket text)).1 = .error (.importing .superseded) ↔
      ticket ≠ s.workspace.lastTicket := by
  constructor
  · intro hsuperseded hticket
    cases hread : Sql.readScript s.workspace.dialect text with
    | error e => simp [finishImport_of_unreadable hticket hread] at hsuperseded
    | ok script => simp [finishImport_of_script hticket hread] at hsuperseded
  · intro hticket
    rw [finishImport_of_stale hticket]

end

/-! ## Runs -/

/-- The counter has moved by the number of tickets, as far as it can tell. -/
theorem lastTicket_takeAll (s : Session K) (steps : List (Step K)) :
    (s.takeAll steps).workspace.lastTicket
      = s.workspace.lastTicket + UInt32.ofNat (steps.countP Step.issues) := by
  induction steps generalizing s with
  | nil => simp [takeAll]
  | cons step steps ih =>
    have hnext := ih (s.take step)
    rw [lastTicket_take] at hnext
    show ((s.take step).takeAll steps).workspace.lastTicket = _
    rw [hnext, List.countP_cons, UInt32.ofNat_add, UInt32.add_assoc]
    congr 1
    rw [UInt32.add_comm]
    by_cases hissues : step.issues = true <;> simp [hissues]

/-- A counter that moves by less than the number of its values comes back only if it does not move
at all. -/
theorem eq_add_ofNat_iff (t : UInt32) {n : Nat} (h : n < UInt32.size) :
    t = t + UInt32.ofNat n ↔ n = 0 := by
  constructor
  · intro heq
    have hzero : UInt32.ofNat n = 0 := by simpa using heq.symm
    have hnat := congrArg UInt32.toNat hzero
    rw [UInt32.toNat_ofNat_of_lt' h] at hnat
    exact hnat
  · rintro rfl
    simp

/-- A ticket is still the last one if no other was issued after it. -/
theorem ticket_eq_lastTicket_iff (s : Session K) {steps : List (Step K)}
    (h : steps.countP Step.issues < UInt32.size) :
    s.workspace.lastTicket = (s.takeAll steps).workspace.lastTicket ↔
      ∀ step ∈ steps, step.issues = false := by
  rw [lastTicket_takeAll, eq_add_ofNat_iff _ h, List.countP_eq_zero]
  simp only [Bool.not_eq_true]

/-- **The last import wins.** Take any run in which fewer tickets are issued than the counter has
values, and a ticket that was handed out in it. To complete an import with this ticket at the end of
the run fails as superseded if and only if another ticket was issued since then. When it fails so,
nothing changes. Otherwise it fails only if the text has no tables, and then nothing changes either;
or else it puts the tables of the script in the place of all others. -/
theorem lastImport_wins (config : WorkspaceConfig K) (ids : IdSupply)
    (before after : List (Step K)) (text : String)
    (h : (before ++ .act .beginImport :: after).countP Step.issues < UInt32.size) :
    ∃ ticket issued,
      ((ofWorkspace (.ofConfig config ids)).takeAll before).act .beginImport
          = (.ok (.ticket ticket), issued) ∧
        let s := issued.takeAll after
        let finished := s.act (.finishImport ticket text)
        (finished.1 = .error (.importing .superseded) ↔ ∃ step ∈ after, step.issues = true) ∧
        (finished.1 = .error (.importing .superseded) → finished.2 = s) ∧
        (finished.1 ≠ .error (.importing .superseded) →
          (∀ e, Sql.readScript s.workspace.dialect text = .error e →
            finished = (.error (.importing (.script e)), s)) ∧
          ∀ script, Sql.readScript s.workspace.dialect text = .ok script →
            finished = (.ok (.imported (s.workspace.summaryOf script)),
              s.withWorkspace (s.workspace.imported script))) := by
  obtain ⟨issued, hissued⟩ : ∃ issued : Session K,
      issued = (((ofWorkspace (.ofConfig config ids)).takeAll before).act .beginImport).2 :=
    ⟨_, rfl⟩
  refine ⟨issued.workspace.lastTicket, issued, ?_, ?_⟩
  · rw [hissued]
    rfl
  extract_lets s finished
  have hafter : after.countP Step.issues < UInt32.size := by
    rw [List.countP_append, List.countP_cons] at h
    omega
  have hcurrent : issued.workspace.lastTicket = s.workspace.lastTicket ↔ _ :=
    ticket_eq_lastTicket_iff issued hafter
  have hsuperseded : finished.1 = .error (.importing .superseded) ↔ _ :=
    superseded_iff s issued.workspace.lastTicket text
  refine ⟨?_, fun hstale => ?_, fun hlast => ?_⟩
  · rw [hsuperseded, Ne, hcurrent]
    simp
  · exact congrArg Prod.snd (finishImport_of_stale (hsuperseded.1 hstale) text)
  · have hticket : issued.workspace.lastTicket = s.workspace.lastTicket :=
      not_ne_iff.1 (mt hsuperseded.2 hlast)
    exact ⟨fun e hread => finishImport_of_unreadable hticket hread,
      fun script hread => finishImport_of_script hticket hread⟩

/-- An empty session. -/
def emptySession : Session Rat := ofWorkspace (.ofConfig .standard ⟨0, 0⟩)

/-- Another import is begun, and completed. -/
def laterImport : List (Step Rat) :=
  [.act .beginImport, .act (.finishImport 2 "CREATE TABLE b (id INT);")]

/-- The import that was begun first comes too late, and the schema of the later one stays. -/
theorem superseded_laterImport :
    ([] ++ Step.act .beginImport :: laterImport).countP Step.issues < UInt32.size ∧
      ((emptySession.takeAll (.act .beginImport :: laterImport)).act
          (.finishImport 1 "CREATE TABLE a (id INT);")).1 = .error (.importing .superseded) ∧
      (((emptySession.takeAll (.act .beginImport :: laterImport)).act
          (.finishImport 1 "CREATE TABLE a (id INT);")).2.workspace.model.tables.map (·.name))
        = ["b"] := by
  have hcount : ([] ++ Step.act .beginImport :: laterImport).countP Step.issues < UInt32.size := by
    decide
  obtain ⟨ticket, issued, hissued, hiff, hkeep, -⟩ :=
    lastImport_wins .standard ⟨0, 0⟩ [] laterImport "CREATE TABLE a (id INT);" hcount
  cases hissued
  have hstale := hiff.2 ⟨.act .beginImport, List.mem_cons_self .., rfl⟩
  refine ⟨hcount, hstale, ?_⟩
  calc _ = ((emptySession.takeAll (.act .beginImport :: laterImport)).workspace.model.tables.map
        (·.name)) := congrArg (fun s : Session Rat => s.workspace.model.tables.map (·.name))
          (hkeep hstale)
    _ = ["b"] := by decide +kernel

end Session

end SchemaGraph
