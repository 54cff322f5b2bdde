import SchemaGraph.Proofs.Schema.Runs

/-!
# Names of tables that share an identity

Tables that come from outside are checked for their names, and not for their identities: two of them
may share one. A replacement takes the place of the first table of its identity, and looks for its
name only among the tables of other identities. So it may take the name of a second table of that
identity. Nothing else makes a name come twice: the names of a schema stay distinct until an action
is such a replacement (`Session.distinctNames_run_iff`).
-/

namespace SchemaGraph

namespace Model

variable {K : Type}

/-- No two tables share a name. -/
def DistinctNames (m : Model K) : Prop := (m.tables.map (·.name)).Nodup

/-- Besides the first table of the identity there is another one, and that has the name. -/
def hasTwin (m : Model K) (id : TableId) (name : String) : Bool :=
  (m.tables.eraseP fun t => t.id == id).any fun t => t.id == id && t.name == name

variable {m m' : Model K}

theorem hasTwin_iff {id : TableId} {name : String} :
    m.hasTwin id name = true ↔
      ∃ t ∈ m.tables.eraseP fun t => t.id == id, t.id = id ∧ t.name = name := by
  simp [hasTwin]

/-- Tables of different identities have no twins. -/
theorem WellFormed.hasTwin_eq_false (h : m.WellFormed) (id : TableId) (name : String) :
    m.hasTwin id name = false := by
  rw [← Bool.not_eq_true, hasTwin_iff]
  rintro ⟨t, ht, hid, -⟩
  have hmem : t ∈ m.tables := List.eraseP_sublist.subset ht
  obtain ⟨u, before, after, hbefore, hu, hsplit, herase⟩ :=
    List.exists_of_eraseP (p := fun u : Table K => u.id == id) hmem (by simp [hid])
  have hids := h.ids
  rw [hsplit, List.map_append, List.map_cons, List.nodup_middle, List.nodup_cons,
    ← List.map_append] at hids
  rw [herase] at ht
  apply hids.1
  rw [eq_of_beq hu, ← hid]
  exact List.mem_map_of_mem ht

/-! ## Operations -/

theorem DistinctNames.addTable [Scalar K] (h : m.DistinctNames) (ids : IdSupply) :
    (m.addTable ids).2.1.DistinctNames := by
  have hfresh := freshName_not_mem "Table" (m.tables.map (·.name))
  unfold DistinctNames at h ⊢
  rw [names_addTable, ← List.concat_eq_append]
  exact h.concat hfresh

theorem DistinctNames.removeTable (h : m.DistinctNames) {id : TableId} {removed : Table K}
    (hr : m.removeTable id = .ok (removed, m')) : m'.DistinctNames := by
  rw [DistinctNames, names_removeTable hr]
  exact List.Nodup.sublist (List.eraseP_sublist.map _) h

/-- Whatever tables are accepted, their names are distinct. -/
theorem distinctNames_replaceAll {ts : List (Table K)} (hr : replaceAll ts = .ok m) :
    m.DistinctNames := by
  obtain ⟨hproper, rfl⟩ := (replaceAll_iff ts m).1 hr
  have hd := hproper.distinct
  rwa [List.map_map] at hd

/-- A replacement that is carried out keeps the names distinct, except if it takes the name of a
twin: that is not among the tables that were asked for the name. -/
theorem DistinctNames.replaceTable_iff (h : m.DistinctNames) {id : TableId} {t : Table K}
    (hr : m.replaceTable id t = .ok m') :
    m'.DistinctNames ↔ m.hasTwin id t.name = false := by
  obtain ⟨before, old, after, hsplit, hbefore, hold, -, -, hother, rfl⟩ := replaceTable_spec hr
  have herase : (m.tables.eraseP fun u => u.id == id) = before ++ after := by
    rw [hsplit, eraseP_split hbefore hold]
  have hnames : ((before ++ after).map (·.name)).Nodup := by
    rw [← herase]
    exact List.Nodup.sublist (List.eraseP_sublist.map _) h
  have hmem : ∀ u ∈ before ++ after, u ∈ m.tables := by
    intro u hu
    rw [← herase] at hu
    exact List.eraseP_sublist.subset hu
  have hnew : (withTables (before ++ t :: after)).DistinctNames ↔
      t.name ∉ (before ++ after).map (·.name) := by
    show ((before ++ t :: after).map (·.name)).Nodup ↔ _
    rw [List.map_append, List.map_cons, List.nodup_middle, List.nodup_cons, ← List.map_append]
    exact and_iff_left hnames
  rw [hnew, ← Bool.not_eq_true, hasTwin_iff, herase, not_iff_not, List.mem_map]
  constructor
  · rintro ⟨u, hu, hname⟩
    by_cases hid : u.id = id
    · exact ⟨u, hu, hid, hname⟩
    · exact absurd hname (hother u (hmem u hu) hid)
  · rintro ⟨u, hu, -, hname⟩
    exact ⟨u, hu, hname⟩

/-- A change that keeps the name of its table takes the name of no twin. -/
theorem DistinctNames.modifyTable (h : m.DistinctNames) {id : TableId}
    {change : Table K → Except ModelError (Table K)} (hr : m.modifyTable id change = .ok m')
    (hname : ∀ t t', change t = .ok t' → t'.name = t.name) : m'.DistinctNames := by
  rw [modifyTable_eq, Model.get] at hr
  cases hfind : m.table? id with
  | none => simp [hfind] at hr
  | some old =>
    rw [hfind] at hr
    dsimp only at hr
    cases hchange : change old with
    | error e => simp [hchange] at hr
    | ok t =>
      rw [hchange] at hr
      rw [h.replaceTable_iff hr, ← Bool.not_eq_true, hasTwin_iff, hname old t hchange]
      rintro ⟨u, hu, -, hsame⟩
      obtain ⟨hold, before, after, hsplit, hbefore⟩ := List.find?_eq_some_iff_append.1 hfind
      have herase : (m.tables.eraseP fun u => u.id == id) = before ++ after := by
        rw [hsplit, eraseP_split (by simpa using hbefore) (eq_of_beq hold)]
      rw [DistinctNames, hsplit, List.map_append, List.map_cons, List.nodup_middle,
        List.nodup_cons, ← List.map_append] at h
      rw [herase] at hu
      exact h.1 (List.mem_map.2 ⟨u, hu, hsame⟩)

end Model

/-! ## Changes that keep the name -/

namespace Table

variable {K : Type} {t t' : Table K}

theorem name_modifyColumn {index : Nat} {f : Column → Column}
    (h : t.modifyColumn index f = .ok t') : t'.name = t.name := by
  unfold modifyColumn at h
  split at h
  · cases h
    rfl
  · cases h

theorem name_withColumnRemoved {index : Nat} (h : t.withColumnRemoved index = .ok t') :
    t'.name = t.name := by
  unfold withColumnRemoved at h
  split at h
  · cases h
    rfl
  · cases h

end Table

/-! ## Imports -/

section
variable {K : Type} [Scalar K]

theorem Workspace.distinctNames_finishImport {w w' : Workspace K} {ticket : UInt32} {text : String}
    {summary : ImportSummary} (h : w.finishImport ticket text = .ok (summary, w')) :
    w'.model.DistinctNames := by
  rw [finishImport_eq] at h
  split at h
  · cases h
  · split at h
    · cases h
    · dsimp only at h
      split at h
      · cases h
      · rename_i model hreplace
        cases h
        exact Model.distinctNames_replaceAll hreplace

end

namespace Session

variable {K : Type}

/-! ## Actions -/

/-- The action is carried out, and gives a table the name of its twin. -/
def Clashes (s : Session K) : Action K → Prop
  | .replaceTable id t =>
    s.workspace.model.hasTwin id t.name = true ∧
      ∃ m, s.workspace.model.replaceTable id t = .ok m
  | .commit => ∃ e, s.editor = some e ∧
    s.workspace.model.hasTwin e.draft.id e.draft.name = true ∧
      ∃ m, e.commit s.workspace.model = .ok m
  | _ => False

section
variable {s : Session K}

/-- Without tables of one identity no action clashes. -/
theorem not_clashes_of_wellFormed (h : s.workspace.model.WellFormed) (a : Action K) :
    ¬ s.Clashes a := by
  intro hclash
  cases a with
  | replaceTable id t =>
    rw [Clashes, h.hasTwin_eq_false] at hclash
    cases hclash.1
  | commit =>
    obtain ⟨e, -, htwin, -⟩ := hclash
    rw [h.hasTwin_eq_false] at htwin
    cases htwin
  | _ => exact hclash

theorem distinctNames_onModel (h : s.workspace.model.DistinctNames) {ε : Type}
    {p : Method (Model K) ε Unit} (hp : p.Atomic) {wrap : ε → ActionError}
    (hresult : ∀ m, p.result s.workspace.model = .ok m → m.DistinctNames) :
    (s.onModel p wrap).2.workspace.model.DistinctNames := by
  rw [onModel_eq hp]
  split
  · exact h
  · exact hresult _ ‹_›

/-- A change of the columns or of the place of a table keeps the names distinct. -/
theorem distinctNames_modifyTable (h : s.workspace.model.DistinctNames) (id : TableId)
    {change : Table K → Except ModelError (Table K)}
    (hname : ∀ t t', change t = .ok t' → t'.name = t.name) :
    (s.onModel (Model.InPlace.modifyTable id change) .model).2.workspace.model.DistinctNames :=
  distinctNames_onModel h (Model.InPlace.atomic_modifyTable id change) fun _ hm =>
    h.modifyTable hm hname

theorem distinctNames_replaceTable_iff (h : s.workspace.model.DistinctNames) (id : TableId)
    (t : Table K) :
    (s.onModel (Model.InPlace.replaceTable id t) .model).2.workspace.model.DistinctNames ↔
      ¬ s.Clashes (.replaceTable id t) := by
  rw [onModel_eq (Model.InPlace.atomic_replaceTable id t), ← Model.replaceTable]
  unfold Clashes
  cases hreplace : s.workspace.model.replaceTable id t with
  | error e => exact iff_of_true h (by simp [hreplace])
  | ok m =>
    show m.DistinctNames ↔ _
    rw [h.replaceTable_iff hreplace]
    simp [hreplace]

/-- A commit replaces the table by the draft, which is moved but keeps its name. -/
theorem distinctNames_commit_iff (h : s.workspace.model.DistinctNames) :
    s.commit.2.workspace.model.DistinctNames ↔ ¬ s.Clashes .commit := by
  rw [commit_eq]
  unfold Clashes
  cases heditor : s.editor with
  | none => exact iff_of_true h (by simp)
  | some e =>
    dsimp only
    cases hcommit : e.commit s.workspace.model with
    | error reason => exact iff_of_true h (by simp [hcommit])
    | ok m =>
      have hreplace : s.workspace.model.replaceTable e.draft.id
          (e.placedDraft s.workspace.model) = .ok m := by
        rw [TableEditor.commit_eq] at hcommit
        split at hcommit
        · cases hcommit
        · cases hcommit
          assumption
      have hname : (e.placedDraft s.workspace.model).name = e.draft.name := rfl
      show m.DistinctNames ↔ _
      rw [h.replaceTable_iff hreplace, hname]
      simp [hcommit]

end

variable [Scalar K]

variable {s : Session K}

theorem distinctNames_removeTable (h : s.workspace.model.DistinctNames) (id : TableId) :
    (s.act (.removeTable id)).2.workspace.model.DistinctNames := by
  rw [act_removeTable]
  cases hremove : s.workspace.model.removeTable id with
  | error e => exact h
  | ok r => exact h.removeTable hremove

theorem distinctNames_pointer (h : s.workspace.model.DistinctNames) (e : Canvas.PointerEvent K) :
    (s.act (.pointer e)).2.workspace.model.DistinctNames := by
  rw [act_pointer]
  cases hhandle : s.workspace.toStage.handle s.workspace.metrics e with
  | error reason => exact h
  | ok r =>
    show r.2.model.DistinctNames
    rcases Canvas.Stage.model_handle hhandle with hmodel | ⟨id, position, hmove⟩
    · rw [hmodel]
      exact h
    · refine h.modifyTable hmove fun t t' ht => ?_
      cases ht
      rfl

theorem distinctNames_finishImport (h : s.workspace.model.DistinctNames) (ticket : UInt32)
    (text : String) : (s.act (.finishImport ticket text)).2.workspace.model.DistinctNames := by
  rw [act_finishImport]
  split
  · exact h
  · exact Workspace.distinctNames_finishImport ‹_›

/-- **What an action does to distinct names.** They stay distinct, except if the action gives a
table the name of its twin. -/
theorem distinctNames_act_iff (h : s.workspace.model.DistinctNames) (a : Action K) :
    (s.act a).2.workspace.model.DistinctNames ↔ ¬ s.Clashes a := by
  cases a with
  | replaceTable id t => exact distinctNames_replaceTable_iff h id t
  | commit => exact distinctNames_commit_iff h
  | finishImport ticket text =>
    exact iff_of_true (distinctNames_finishImport h ticket text) not_false
  | importScript text =>
    refine iff_of_true ?_ not_false
    rw [act_importScript]
    exact distinctNames_finishImport (by exact h) _ text
  | addTable => exact iff_of_true (h.addTable _) not_false
  | removeTable id => exact iff_of_true (distinctNames_removeTable h id) not_false
  | replaceAll ts =>
    refine iff_of_true (distinctNames_onModel h (Model.InPlace.atomic_replaceAll ts) ?_) not_false
    intro m hm
    rw [Model.replaceAll_result] at hm
    exact Model.distinctNames_replaceAll hm
  | moveTable id position =>
    refine iff_of_true (distinctNames_modifyTable h id fun t t' ht => ?_) not_false
    cases ht
    rfl
  | addColumn id c =>
    refine iff_of_true (distinctNames_modifyTable h id fun t t' ht => ?_) not_false
    cases ht
    rfl
  | updateColumn id index c =>
    exact iff_of_true (distinctNames_modifyTable h id fun _ _ => Table.name_modifyColumn) not_false
  | removeColumn id index =>
    refine iff_of_true (distinctNames_modifyTable h id fun t t' ht => ?_) not_false
    exact Table.name_withColumnRemoved ht
  | toggleFlag id index f =>
    exact iff_of_true (distinctNames_modifyTable h id fun _ _ => Table.name_modifyColumn) not_false
  | setForeignKey id index target =>
    exact iff_of_true (distinctNames_modifyTable h id fun _ _ => Table.name_modifyColumn) not_false
  | clearForeignKey id index =>
    exact iff_of_true (distinctNames_modifyTable h id fun _ _ => Table.name_modifyColumn) not_false
  | pointer e => exact iff_of_true (distinctNames_pointer h e) not_false
  | openEditor id => exact iff_of_true (by rw [act, workspace_openEditor]; exact h) not_false
  | editRename name => exact iff_of_true (by rw [act, workspace_onEditor]; exact h) not_false
  | editAddColumn => exact iff_of_true (by rw [act, workspace_editAddColumn]; exact h) not_false
  | editUpdateColumn index c =>
    exact iff_of_true (by rw [act, workspace_onEditor]; exact h) not_false
  | editRemoveColumn index => exact iff_of_true (by rw [act, workspace_onEditor]; exact h) not_false
  | editToggleFlag index f => exact iff_of_true (by rw [act, workspace_onEditor]; exact h) not_false
  | editSetForeignKey index r =>
    exact iff_of_true (by rw [act, workspace_onEditor]; exact h) not_false
  | editClearForeignKey index =>
    exact iff_of_true (by rw [act, workspace_onEditor]; exact h) not_false
  | discard => exact iff_of_true (by rw [act, workspace_discard]; exact h) not_false
  | _ => exact iff_of_true h not_false

/-! ## Runs -/

/-- No action of the run clashes when it is its turn. -/
def ClashFree (s : Session K) : List (Action K) → Prop
  | [] => True
  | a :: rest => ¬ s.Clashes a ∧ ClashFree (s.act a).2 rest

/-- Names are distinct all along a run if no action of it clashes, and only then. -/
theorem distinctNames_prefixes_iff (h : s.workspace.model.DistinctNames)
    (actions : List (Action K)) :
    (∀ done, done <+: actions → (s.run done).workspace.model.DistinctNames) ↔
      s.ClashFree actions := by
  induction actions generalizing s with
  | nil =>
    refine iff_of_true (fun done hdone => ?_) trivial
    rw [List.prefix_nil.1 hdone]
    exact h
  | cons a actions ih =>
    rw [ClashFree, ← distinctNames_act_iff h a]
    constructor
    · intro hall
      have hnext := hall [a] (by simp)
      refine ⟨hnext, (ih hnext).1 fun done hdone => ?_⟩
      exact hall (a :: done) (List.cons_prefix_cons.2 ⟨rfl, hdone⟩)
    · rintro ⟨hnext, hfree⟩ done hdone
      cases done with
      | nil => exact h
      | cons b done =>
        obtain ⟨rfl, hrest⟩ := List.cons_prefix_cons.1 hdone
        exact (ih hnext).2 hfree done hrest

/-- Without tables of one identity a run of fresh actions is free of clashes. -/
theorem clashFree_of_wellFormed (h : s.workspace.model.WellFormed) {actions : List (Action K)}
    (hf : s.FreshRun actions) : s.ClashFree actions := by
  induction actions generalizing s with
  | nil => trivial
  | cons a actions ih => exact ⟨not_clashes_of_wellFormed h a, ih (wellFormed_act h hf.1) hf.2⟩

/-- **Names in runs on tables from outside.** Tables that are accepted have distinct names, whatever
their identities are. In a run on them the names stay distinct up to the first action that gives a
table the name of a twin, and are no longer distinct after it. If the identities are distinct to
begin with, and new ones are fresh, there is no such action. -/
theorem distinctNames_run_iff {ts : List (Table K)} {m : Model K} (hm : Model.ofTables ts = .ok m)
    (hs : s.workspace.model = m) (actions : List (Action K)) :
    m.DistinctNames ∧
      ((∀ done, done <+: actions → (s.run done).workspace.model.DistinctNames) ↔
        s.ClashFree actions) ∧
      ((ts.map (·.id)).Nodup → s.FreshRun actions → s.ClashFree actions) := by
  have hd := Model.distinctNames_replaceAll hm
  refine ⟨hd, ?_, fun hids hf => ?_⟩
  · rw [← hs] at hd
    exact distinctNames_prefixes_iff hd actions
  · have hwell := Model.wellFormed_replaceAll hids hm
    rw [← hs] at hwell
    exact clashFree_of_wellFormed hwell hf

/-- A table without columns. -/
def bareTable (id name : String) : Table Rat := ⟨⟨name, []⟩, ⟨id⟩, ⟨0, 0⟩⟩

/-- Two tables of one identity. -/
def twinTables : List (Table Rat) := [bareTable "u" "a", bareTable "u" "b"]

/-- A session on the two tables. -/
def twinSession : Session Rat :=
  ofWorkspace ((Workspace.ofConfig .standard ⟨0, 0⟩).withModel (.withTables twinTables))

/-- The first of the two tables can take the name of the second. -/
theorem not_distinctNames_twinTables :
    Model.ofTables twinTables = .ok twinSession.workspace.model ∧
      ¬ (twinSession.run
        [.replaceTable ⟨"u"⟩ (bareTable "u" "b")]).workspace.model.DistinctNames := by
  have hm : Model.ofTables twinTables = .ok twinSession.workspace.model := by decide +kernel
  obtain ⟨hd, hiff, -⟩ :=
    distinctNames_run_iff hm rfl [.replaceTable ⟨"u"⟩ (bareTable "u" "b")]
  refine ⟨hm, fun hlast => ?_⟩
  have hfree := hiff.1 fun done hdone => by
    rcases List.prefix_cons_iff.1 hdone with rfl | ⟨rest, rfl, hrest⟩
    · exact hd
    · rw [List.prefix_nil.1 hrest]
      exact hlast
  refine hfree.1 ⟨by decide +kernel, .withTables [bareTable "u" "b", bareTable "u" "b"], ?_⟩
  decide +kernel

end Session

end SchemaGraph
