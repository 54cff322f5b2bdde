import SchemaGraph.Proofs.Sql.Positions

/-!
# Scripts apart from the positions of clauses

The position of a clause in its body matters to nothing but the reports that give it. So a clause
that is skipped may be put anywhere into a body, or left out: apart from positions the script is the
same (`unplaced_of_withSkipped`). What is left of a body is then what is visible of its findings.
-/

namespace SchemaGraph.Sql

open DeclaredTable

/-! ## Without positions -/

/-- The report with the position of its clause, if it has one, set to the first. -/
def Diagnostic.unplaced (r : Diagnostic) : Diagnostic :=
  { r with clause := r.clause.map fun _ => 0 }

def KeyDeclaration.unplaced (k : KeyDeclaration) : KeyDeclaration :=
  { k with clause := k.clause.map fun _ => 0 }

def DeclaredTable.unplaced (t : DeclaredTable) : DeclaredTable :=
  { t with keys := t.keys.map KeyDeclaration.unplaced }

def Finding.unplaced (f : Finding) : Finding := { f with place := 0 }

/-- The script with no positions in its reports. -/
def Script.unplaced (s : Script) : Script :=
  { s with diagnostics := s.diagnostics.map Diagnostic.unplaced }

/-! ## Bodies -/

/-- The findings apart from positions and from skipped clauses. -/
def visible (fs : List Finding) : List Finding :=
  (fs.filter fun f => f.outcome != .skipped).map Finding.unplaced

section
variable (name : String) (fs : List Finding)

/-- Skipped clauses add nothing. -/
theorem filterMap_unskipped {α : Type} {g : Finding → Option α}
    (h : ∀ i clause, g ⟨i, clause, .skipped⟩ = none) :
    (fs.filter fun f => f.outcome != .skipped).filterMap g = fs.filterMap g := by
  rw [List.filterMap_filter]
  refine List.filterMap_congr fun f _ => ?_
  obtain ⟨place, clause, _ | _ | _ | _ | _⟩ := f
  case skipped => exact (h place clause).symm
  all_goals rfl

theorem columns_visible :
    (visible fs).filterMap Finding.column? = fs.filterMap Finding.column? :=
  (columns_moved (f := fun _ => 0) _).trans (filterMap_unskipped fs fun _ _ => rfl)

theorem foundTable_unskipped :
    foundTable name (fs.filter fun f => f.outcome != .skipped) = foundTable name fs := by
  unfold foundTable
  rw [filterMap_unskipped fs fun _ _ => rfl, filterMap_unskipped fs fun _ _ => rfl,
    filterMap_unskipped fs fun _ _ => rfl]

theorem foundTable_visible : foundTable name (visible fs) = (foundTable name fs).unplaced :=
  (foundTable_moved (fun _ _ => 0) name _).trans
    (congrArg DeclaredTable.unplaced (foundTable_unskipped name fs))

theorem newTableReports_visible (closed : Bool) :
    newTableReports name (visible fs) closed
      = (newTableReports name fs closed).map .unplaced := by
  refine (newTableReports_moved (fun _ _ => 0) name _ closed).trans (congrArg (List.map _) ?_)
  unfold newTableReports foundReports
  rw [foundTable_unskipped, filterMap_unskipped fs fun _ _ => rfl,
    filterMap_unskipped fs fun _ _ => rfl, filterMap_unskipped fs fun _ _ => rfl]

end

/-! ## Skipped clauses -/

/-- The second list of clauses has skipped ones besides those of the first. -/
inductive WithSkipped : List (List Token) → List (List Token) → Prop where
  | nil : WithSkipped [] []
  | keep (clause : List Token) {clauses clauses' : List (List Token)}
    (h : WithSkipped clauses clauses') : WithSkipped (clause :: clauses) (clause :: clauses')
  | skip {clause : List Token} (hread : readClause clause = .ok .skipped)
    {clauses clauses' : List (List Token)} (h : WithSkipped clauses clauses') :
    WithSkipped clauses (clause :: clauses')

theorem WithSkipped.refl (clauses : List (List Token)) : WithSkipped clauses clauses := by
  induction clauses with
  | nil => exact .nil
  | cons clause clauses ih => exact .keep clause ih

/-- Skipped clauses are not visible. -/
theorem visible_findings {clauses clauses' : List (List Token)} (h : WithSkipped clauses clauses')
    {past past' : List (List Token)} (hpast : SameColumns past past') (i j : Nat) :
    visible (findings i past clauses) = visible (findings j past' clauses') := by
  induction h generalizing past past' i j with
  | nil => rfl
  | keep clause _ ih =>
    have hrest := ih (hpast.append [clause]) (i + 1) (j + 1)
    have hsame := outcome_congr hpast clause
    simp only [visible, findings, List.filter_cons, hsame] at hrest ⊢
    split
    · rw [List.map_cons, List.map_cons, hrest]
      rfl
    · exact hrest
  | @skip clause hread clauses clauses' _ ih =>
    have hnext : SameColumns past (past' ++ [clause]) := fun column => by
      rw [hpast column]
      simp [definesColumn, hread]
    have hskip : outcome past' clause = .skipped := by simp [outcome, hread]
    rw [ih hnext i (j + 1), findings]
    simp [visible, hskip]

/-! ## Statements -/

/-- The statements are the same but for skipped clauses in the body of the second one. -/
inductive Statement.WithSkipped : Statement → Statement → Prop where
  | same (s : Statement) : WithSkipped s s
  | createTable (name : String) {body body' : List Token} (closed : Bool)
    (h : Sql.WithSkipped (splitClauses body) (splitClauses body')) :
    WithSkipped (.createTable name body closed) (.createTable name body' closed)

section
variable {ts ts' : List DeclaredTable}

theorem createTable_unplaced (hts : ts.map DeclaredTable.unplaced = ts'.map .unplaced)
    (name : String) {body body' : List Token} (closed : Bool)
    (h : WithSkipped (splitClauses body) (splitClauses body')) :
    ((Statement.createTable name body closed).effect ts).map DeclaredTable.unplaced
        = ((Statement.createTable name body' closed).effect ts').map .unplaced ∧
      ((Statement.createTable name body closed).reports ts).map Diagnostic.unplaced
        = ((Statement.createTable name body' closed).reports ts').map .unplaced := by
  have hvisible : visible (bodyFindings body) = visible (bodyFindings body') :=
    visible_findings h (fun _ => rfl) 0 0
  have hnames : ts.map (·.name) = ts'.map (·.name) := by
    have hboth := congrArg (List.map (·.name)) hts
    rwa [List.map_map, List.map_map] at hboth
  by_cases hname : name ∈ ts.map (·.name)
  · have hname' := hname
    rw [hnames] at hname'
    rw [Statement.effect, Statement.effect, Statement.reports, Statement.reports, if_pos hname,
      if_pos hname', if_pos hname, if_pos hname']
    exact ⟨hts, rfl⟩
  · have hname' := hname
    rw [hnames] at hname'
    rw [effect_createTable hname, effect_createTable hname', reports_createTable hname,
      reports_createTable hname', ← newTableReports_visible, ← newTableReports_visible, hvisible,
      ← columns_visible, hvisible, columns_visible, List.map_append, List.map_append, hts]
    refine ⟨congrArg _ ?_, rfl⟩
    split
    · rfl
    · rw [List.map_singleton, List.map_singleton, ← foundTable_visible, hvisible,
        foundTable_visible]

/-- Apart from positions, statements that differ in skipped clauses do and report the same. -/
theorem effect_unplaced (hts : ts.map DeclaredTable.unplaced = ts'.map .unplaced)
    {s s' : Statement} (h : s.WithSkipped s') :
    (s.effect ts).map DeclaredTable.unplaced = (s'.effect ts').map .unplaced ∧
      (s.reports ts).map Diagnostic.unplaced = (s'.reports ts').map .unplaced := by
  cases h with
  | same =>
    cases s with
    | createTable name body closed => exact createTable_unplaced hts name closed (.refl _)
    | nameless found => exact ⟨hts, rfl⟩
    | bodiless name => exact ⟨hts, rfl⟩
    | alterTable name actions =>
      have heffect := @effect_alterTable_moved (fun _ _ => 0)
      have hreports := @reports_alterTable_moved (fun _ _ => 0)
      have heffects := congrArg (Statement.alterTable name actions).effect hts
      have hboth := congrArg (Statement.alterTable name actions).reports hts
      exact ⟨((heffect name actions).symm.trans heffects).trans (heffect name actions),
        congrArg _ (((hreports name actions).symm.trans hboth).trans (hreports name actions))⟩
  | createTable name closed h => exact createTable_unplaced hts name closed h

theorem effects_unplaced {ss ss' : List Statement}
    (h : List.Forall₂ Statement.WithSkipped ss ss')
    (hts : ts.map DeclaredTable.unplaced = ts'.map .unplaced) :
    (effects ts ss).map DeclaredTable.unplaced = (effects ts' ss').map .unplaced ∧
      (reportsAfter ts ss).map Diagnostic.unplaced = (reportsAfter ts' ss').map .unplaced := by
  induction h generalizing ts ts' with
  | nil => exact ⟨hts, rfl⟩
  | cons hs _ ih =>
    obtain ⟨heffect, hreports⟩ := effect_unplaced hts hs
    obtain ⟨hrest, hrestReports⟩ := ih heffect
    refine ⟨hrest, ?_⟩
    rw [reportsAfter, reportsAfter, List.map_append, List.map_append, hreports, hrestReports]

end

/-! ## Foreign keys -/

def Attachment.unplaced (a : Attachment) : Attachment :=
  { a with diagnostics := a.diagnostics.map Diagnostic.unplaced }

theorem unplaced_attachAll (ts : List DeclaredTable) :
    (attachAll ts).unplaced = attachAll (ts.map .unplaced) :=
  @moved_attachAll (fun _ _ => 0) ts

theorem resolveTable_unplaced (d : Dialect) (ts : List DeclaredTable) (t : DeclaredTable) :
    resolveTable d (ts.map .unplaced) t.unplaced = resolveTable d ts t :=
  @resolveTable_moved (fun _ _ => 0) d ts t

/-! ## Scripts -/

/-- What statements make up, apart from positions, depends on what they do and report apart from
positions. -/
theorem unplaced_ofStatements (d : Dialect) (ss : List Statement) :
    (Script.ofStatements d ss).unplaced =
      let ts := (effects [] ss).map DeclaredTable.unplaced
      ⟨ts.map (resolveTable d ts),
        (reportsAfter [] ss).map Diagnostic.unplaced ++ (attachAll ts).diagnostics,
        (attachAll ts).dropped, ss.countP (·.creates)⟩ := by
  dsimp only
  rw [← unplaced_attachAll, Script.ofStatements_eq, Script.unplaced, List.map_append, List.map_map]
  congr 1
  exact List.map_congr_left fun t _ => (resolveTable_unplaced d _ t).symm

/-- Skipped clauses make no difference apart from positions. -/
theorem unplaced_of_withSkipped (d : Dialect) {ss ss' : List Statement}
    (h : List.Forall₂ Statement.WithSkipped ss ss') :
    (Script.ofStatements d ss).unplaced = (Script.ofStatements d ss').unplaced := by
  obtain ⟨heffects, hreports⟩ := @effects_unplaced [] [] _ _ h rfl
  have hcount : ss.countP (·.creates) = ss'.countP (·.creates) := by
    clear heffects hreports
    induction h with
    | nil => rfl
    | cons hs _ ih =>
      rw [List.countP_cons, List.countP_cons, ih]
      cases hs <;> rfl
  rw [unplaced_ofStatements, unplaced_ofStatements, heffects, hreports, hcount]

/-- Texts that differ in skipped clauses are read as the same script, apart from positions. -/
theorem readScript_of_withSkipped {d : Dialect} {text text' : String}
    (h : List.Forall₂ Statement.WithSkipped (statements (tokens d.backslashEscapes text.toList))
      (statements (tokens d.backslashEscapes text'.toList))) :
    (readScript d text).map Script.unplaced = (readScript d text').map Script.unplaced := by
  have hsame := unplaced_of_withSkipped d h
  have hcount := congrArg Script.tableStatements hsame
  unfold readScript
  dsimp only [Script.unplaced] at hcount ⊢
  rw [hcount]
  split
  · rfl
  · exact congrArg Except.ok hsame

end SchemaGraph.Sql
