import SchemaGraph.Proofs.Sql.DeclaredKeys
import SchemaGraph.Proofs.Sql.Findings

/-!
# Which columns are marked as primary key

A column belongs to the primary key of its table for one of three reasons: its own definition says
so, a clause of the body lists it and the body defines it, or an addition lists it when it is
defined (`MarkedBy`). The reasons are read off the clauses that the table is made of, and there is
no other one (`Built.marks_iff`).
-/

namespace SchemaGraph.Sql

open DeclaredTable

/-! ## Reasons -/

/-- The columns that a clause lists as the primary key. -/
def listedKeys (clause : List Token) : List String :=
  match readClause clause with
  | .ok (.primaryKey columns) => columns
  | _ => []

/-- The accepted definition of the column, which is the first one, declares the primary key. -/
def OwnKey (rs : List Reading) (column : String) : Prop :=
  ∃ before r after, rs = before ++ r :: after ∧
    ∃ c, outcome (before.map (·.clause)) r.clause = .column c ∧ c.name = column ∧
      c.primaryKey = true

/-- A clause of the body lists the column, and a clause of the body, before or after, defines it. -/
def BodyKey (rs : List Reading) (column : String) : Prop :=
  (∃ r ∈ rs, r.place.isSome = true ∧ column ∈ listedKeys r.clause) ∧
    ∃ r ∈ rs, r.place.isSome = true ∧ definesColumn column r.clause = true

/-- An addition that comes after the definition of the column lists it. -/
def LaterKey (rs : List Reading) (column : String) : Prop :=
  ∃ before r after, rs = before ++ r :: after ∧
    r.place = none ∧ column ∈ listedKeys r.clause ∧
      ∃ p ∈ before, definesColumn column p.clause = true

/-- The column is part of the primary key of the table that is made of the clauses `rs`. -/
inductive MarkedBy (rs : List Reading) (column : String) : Prop where
  | own (h : OwnKey rs column)
  | body (h : BodyKey rs column)
  | later (h : LaterKey rs column)

theorem exists_split_concat {α : Type} {P : List α → α → Prop} (xs : List α) (x : α) :
    (∃ before y after, xs ++ [x] = before ++ y :: after ∧ P before y) ↔
      (∃ before y after, xs = before ++ y :: after ∧ P before y) ∨ P xs x := by
  constructor
  · rintro ⟨before, y, after, hsplit, hP⟩
    rcases List.eq_nil_or_concat after with rfl | ⟨after, z, rfl⟩
    · obtain ⟨rfl, hlast⟩ := List.append_inj' hsplit rfl
      cases hlast
      exact Or.inr hP
    · rw [List.concat_eq_append, ← List.cons_append, ← List.append_assoc] at hsplit
      obtain ⟨rfl, -⟩ := List.append_inj' hsplit rfl
      exact Or.inl ⟨before, y, after, rfl, hP⟩
  · rintro (⟨before, y, after, rfl, hP⟩ | hP)
    · exact ⟨before, y, after ++ [x], by simp, hP⟩
    · exact ⟨xs, x, [], rfl, hP⟩

section
variable {rs : List Reading} {r : Reading} {column : String}

theorem ownKey_concat :
    OwnKey (rs ++ [r]) column ↔ OwnKey rs column ∨
      ∃ c, outcome (rs.map (·.clause)) r.clause = .column c ∧ c.name = column ∧
        c.primaryKey = true :=
  exists_split_concat rs r

theorem laterKey_concat (hplace : r.place = none) :
    LaterKey (rs ++ [r]) column ↔ LaterKey rs column ∨
      column ∈ listedKeys r.clause ∧ ∃ p ∈ rs, definesColumn column p.clause = true := by
  refine (exists_split_concat rs r).trans (or_congr_right ?_)
  exact and_iff_right hplace

theorem bodyKey_concat (hplace : r.place = none) :
    BodyKey (rs ++ [r]) column ↔ BodyKey rs column := by
  simp [BodyKey, hplace, or_and_right, exists_or]

end

theorem markedBy_iff {rs : List Reading} {column : String} :
    MarkedBy rs column ↔ OwnKey rs column ∨ BodyKey rs column ∨ LaterKey rs column := by
  constructor
  · rintro (h | h | h)
    · exact Or.inl h
    · exact Or.inr (Or.inl h)
    · exact Or.inr (Or.inr h)
  · rintro (h | h | h)
    · exact .own h
    · exact .body h
    · exact .later h

/-! ## Marks of one table -/

/-- The column of the table is marked as part of the primary key. -/
def DeclaredTable.Marks (t : DeclaredTable) (column : String) : Prop :=
  ∃ c ∈ t.columns, c.name = column ∧ c.primaryKey = true

section
variable {t : DeclaredTable} {column : String}

theorem marks_marked (names : List String) :
    (t.marked names).Marks column ↔
      t.Marks column ∨ t.hasColumn column = true ∧ column ∈ names := by
  constructor
  · rintro ⟨k, hk, hname, hkey⟩
    obtain ⟨c, hc, rfl⟩ := List.mem_map.1 hk
    by_cases hlisted : c.name ∈ names
    · rw [if_pos hlisted] at hname
      exact Or.inr ⟨hasColumn_iff.2 (List.mem_map.2 ⟨c, hc, hname⟩), hname ▸ hlisted⟩
    · rw [if_neg hlisted] at hname hkey
      exact Or.inl ⟨c, hc, hname, hkey⟩
  · rintro (⟨c, hc, hname, hkey⟩ | ⟨hcolumn, hlisted⟩)
    · refine ⟨_, List.mem_map_of_mem hc, ?_⟩
      split
      · exact ⟨hname, rfl⟩
      · exact ⟨hname, hkey⟩
    · obtain ⟨c, hc, rfl⟩ := List.mem_map.1 (hasColumn_iff.1 hcolumn)
      refine ⟨_, List.mem_map_of_mem hc, ?_⟩
      rw [if_pos hlisted]
      exact ⟨rfl, rfl⟩

theorem marks_addColumn (i : Option Nat) (c : ColumnClause) :
    (t.addColumn i c).Marks column ↔
      t.Marks column ∨ c.name = column ∧ c.primaryKey = true := by
  simp [Marks, addColumn, or_and_right, exists_or]

/-- The clause defines the column, which the table does not have yet, and as part of the primary
key. -/
def NewKey (t : DeclaredTable) (clause : List Token) (column : String) : Prop :=
  ∃ c, readClause clause = .ok (.column c) ∧ t.hasColumn c.name = false ∧ c.name = column ∧
    c.primaryKey = true

theorem marks_extended (clause : List Token) :
    (t.extended clause).Marks column ↔ t.Marks column ∨ NewKey t clause column ∨
      column ∈ listedKeys clause ∧ t.hasColumn column = true := by
  unfold extended NewKey listedKeys
  cases readClause clause with
  | error p => simp
  | ok k =>
    cases k with
    | skipped => simp
    | primaryKey columns => simp [marks_marked, and_comm]
    | foreignKey columns target => simp [Marks, addKey]
    | column c =>
      dsimp only
      split
      · rename_i hcolumn
        simp [hcolumn]
      · rename_i hcolumn
        simp [marks_addColumn, hcolumn]

theorem marks_body_add (b : Body) (i : Nat) (clause : List Token) :
    (b.add i clause).table.Marks column ↔ b.table.Marks column ∨ NewKey b.table clause column := by
  unfold Body.add NewKey
  cases readClause clause with
  | error p => simp [Body.report]
  | ok k =>
    cases k with
    | skipped => simp
    | primaryKey columns => simp
    | foreignKey columns target => simp [Marks, addKey]
    | column c =>
      dsimp only
      split
      · rename_i hcolumn
        simp [Body.report, hcolumn]
      · rename_i hcolumn
        simp [marks_addColumn, hcolumn]

/-- Whether a definition is accepted is seen from the table that the clauses before it make up. -/
theorem Follows.newKey_iff {rs : List Reading} (h : Follows rs t) (clause : List Token) :
    NewKey t clause column ↔
      ∃ c, outcome (rs.map (·.clause)) clause = .column c ∧ c.name = column ∧
        c.primaryKey = true := by
  have hcolumns : ∀ name, (rs.map (·.clause)).any (definesColumn name) = t.hasColumn name := by
    intro name
    rw [h.columns, List.any_map]
    rfl
  unfold NewKey outcome
  cases readClause clause with
  | error p => simp
  | ok k =>
    cases k with
    | column c =>
      simp only [hcolumns]
      by_cases hcolumn : t.hasColumn c.name = true <;> simp [hcolumn]
    | _ => simp

theorem Follows.hasColumn_iff {rs : List Reading} (h : Follows rs t) :
    t.hasColumn column = true ↔ ∃ p ∈ rs, definesColumn column p.clause = true := by
  rw [h.columns, List.any_eq_true]

end

/-! ## Bodies -/

/-- The primary keys that are kept for the end of a body are those that its clauses list. -/
theorem Body.marks_addAll_eq (b : Body) (i : Nat) (clauses : List (List Token)) :
    (b.addAll i clauses).marks = b.marks ++ clauses.flatMap listedKeys := by
  induction clauses generalizing b i with
  | nil => simp [addAll]
  | cons clause clauses ih =>
    have hstep : (b.add i clause).marks = b.marks ++ listedKeys clause := by
      unfold listedKeys
      split
      · rename_i columns hread
        exact (add_primaryKey hread b i).2
      · rename_i hother
        rw [(add_other hother b i).2, List.append_nil]
    rw [addAll, ih, hstep, List.flatMap_cons, List.append_assoc]

/-- Before its primary keys are applied, a body marks the columns whose definitions say so. -/
theorem marks_body_addAll {rs : List Reading} {b : Body} (h : Follows rs b.table)
    (hmarks : ∀ column, b.table.Marks column ↔ OwnKey rs column) (name : String) (kept : Bool)
    (i : Nat) (clauses : List (List Token)) (column : String) :
    (b.addAll i clauses).table.Marks column ↔
      OwnKey (rs ++ clauseReadings name kept i clauses) column := by
  induction clauses generalizing rs b i with
  | nil => simpa [clauseReadings, Body.addAll] using hmarks column
  | cons clause clauses ih =>
    have hstep : ∀ column, (b.add i clause).table.Marks column ↔
        OwnKey (rs ++ [⟨name, some i, clause, clause, kept⟩]) column := by
      intro column
      rw [marks_body_add, ownKey_concat, hmarks, h.newKey_iff]
    have hrest := ih (h.body_add ⟨name, some i, clause, clause, kept⟩ rfl) hstep (i + 1)
    rwa [List.append_assoc] at hrest

theorem clauses_bodyReadings (name : String) (body : List Token) :
    (bodyReadings name body).map (·.clause) = splitClauses body := by
  rw [bodyReadings, clauseReadings, List.map_map]
  exact List.zipIdx_map_fst 0 _

theorem exists_bodyReading_iff (name : String) (body : List Token) (P : List Token → Prop) :
    (∃ r ∈ bodyReadings name body, r.place.isSome = true ∧ P r.clause) ↔
      ∃ clause ∈ splitClauses body, P clause := by
  rw [← clauses_bodyReadings name body]
  constructor
  · rintro ⟨r, hr, -, hP⟩
    exact ⟨r.clause, List.mem_map_of_mem hr, hP⟩
  · rintro ⟨clause, hclause, hP⟩
    obtain ⟨r, hr, rfl⟩ := List.mem_map.1 hclause
    exact ⟨r, hr, (mem_clauseReadings hr).2.2, hP⟩

/-- The table of a body is marked for the reasons that its clauses give. -/
theorem marks_declareBody (name : String) (body : List Token) (column : String) :
    (declareBody name body).1.Marks column ↔ MarkedBy (bodyReadings name body) column := by
  have hempty : Follows [] (⟨⟨name, [], []⟩, [], []⟩ : Body).table := ⟨rfl, fun _ => rfl⟩
  have hnone : ∀ column, (⟨⟨name, [], []⟩, [], []⟩ : Body).table.Marks column ↔
      OwnKey [] column := fun column => by simp [Marks, OwnKey]
  have hown : (Body.addAll ⟨⟨name, [], []⟩, [], []⟩ 0 (splitClauses body)).table.Marks column ↔
      OwnKey (bodyReadings name body) column :=
    marks_body_addAll hempty hnone name (makesTable body) 0 (splitClauses body) column
  have hlater : ¬ LaterKey (bodyReadings name body) column := by
    rintro ⟨before, r, after, hsplit, hplace, -⟩
    have hr : r ∈ bodyReadings name body := hsplit ▸ List.mem_append_right _ (List.mem_cons_self ..)
    have hsome := (mem_clauseReadings hr).2.2
    rw [hplace] at hsome
    cases hsome
  have hbody : BodyKey (bodyReadings name body) column ↔
      (∃ clause ∈ splitClauses body, column ∈ listedKeys clause) ∧
        ∃ clause ∈ splitClauses body, definesColumn column clause = true :=
    and_congr (exists_bodyReading_iff name body fun clause => column ∈ listedKeys clause)
      (exists_bodyReading_iff name body fun clause => definesColumn column clause = true)
  rw [declareBody_eq, Body.result, marks_marked, hown, markedBy_iff, or_iff_left hlater, hbody,
    Body.marks_addAll_eq, Body.hasColumn_addAll]
  simp [Body.marks, DeclaredTable.hasColumn, and_comm]

/-! ## Additions -/

/-- A table that is marked for the reasons that its clauses give stays so when it is extended. -/
theorem marks_extended_iff {rs : List Reading} {t : DeclaredTable} (h : Follows rs t)
    (hmarks : ∀ column, t.Marks column ↔ MarkedBy rs column) {r : Reading}
    (hplace : r.place = none) (column : String) :
    (t.extended r.clause).Marks column ↔ MarkedBy (rs ++ [r]) column := by
  rw [marks_extended, hmarks, markedBy_iff, markedBy_iff, ownKey_concat, bodyKey_concat hplace,
    laterKey_concat hplace, h.newKey_iff, h.hasColumn_iff]
  simp only [or_assoc, or_left_comm]

theorem marks_foldl_extended {rs : List Reading} {t : DeclaredTable} (h : Follows rs t)
    (hmarks : ∀ column, t.Marks column ↔ MarkedBy rs column) {more : List Reading}
    (hplace : ∀ r ∈ more, r.place = none) (column : String) :
    ((more.map (·.clause)).foldl extended t).Marks column ↔ MarkedBy (rs ++ more) column := by
  induction more generalizing rs t with
  | nil => simpa using hmarks column
  | cons r more ih =>
    rw [List.forall_mem_cons] at hplace
    have hstep := ih (h.extended hplace.1) (marks_extended_iff h hmarks hplace.1) hplace.2
    rwa [List.append_assoc] at hstep

/-- A table is marked for the reasons that its clauses give, and for no other ones. -/
theorem Built.marks_iff {rs : List Reading} {t : DeclaredTable} (h : Built rs t)
    (column : String) : t.Marks column ↔ MarkedBy rs column := by
  obtain ⟨body, added, -, hreadings, hadded, htable⟩ := h
  rw [hreadings]
  have hmarks := marks_foldl_extended (follows_declareBody t.name body)
    (marks_declareBody t.name body) hadded column
  rwa [← htable] at hmarks

end SchemaGraph.Sql
