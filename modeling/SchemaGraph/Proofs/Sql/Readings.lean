import SchemaGraph.Proofs.Sql.ClauseOrder

/-!
# The clauses that tables are made of

Of all clauses of a script some are never read: those of a table whose name is in use, and additions
to a table that is not there yet. The others are the readings of the script (`readings`). A table is
built from its own ones, first those of the statement that creates it and then the additions
(`builtFrom_ofStatements`).
-/

namespace SchemaGraph.Sql

open DeclaredTable

/-! ## Readings -/

/-- A clause where it is read. -/
structure Reading where
  /-- The table that the statement names. -/
  table : String
  /-- The position in the body; none for an addition. -/
  place : Option Nat
  /-- The tokens that are quoted in a report. -/
  quoted : List Token
  clause : List Token
  /-- The table comes to be, since its body defines a column. -/
  kept : Bool

/-- The clause defines a column. -/
def isColumn (clause : List Token) : Bool :=
  match readClause clause with
  | .ok (.column _) => true
  | _ => false

/-- The body defines a column. -/
def makesTable (body : List Token) : Bool := (splitClauses body).any isColumn

/-- The clauses of a body, from position `i` on. -/
def clauseReadings (name : String) (kept : Bool) (i : Nat) (clauses : List (List Token)) :
    List Reading :=
  (clauses.zipIdx i).map fun p => ⟨name, some p.2, p.1, p.1, kept⟩

/-- The clauses of a body. -/
def bodyReadings (name : String) (body : List Token) : List Reading :=
  clauseReadings name (makesTable body) 0 (splitClauses body)

/-- What the actions add to a table that is there. -/
def additions (name : String) (actions : List (List Token)) : List Reading :=
  actions.filterMap fun action =>
    (addition? action).map fun clause => ⟨name, none, action, clause, true⟩

namespace Statement

/-- The clauses of a statement that are read, when there are tables of the names `known`. -/
def readings (known : List String) : Statement → List Reading
  | createTable name body _ => if name ∈ known then [] else bodyReadings name body
  | alterTable name actions => if name ∈ known then additions name actions else []
  | _ => []

/-- The names of tables after the statement. -/
def namesAfter (known : List String) : Statement → List String
  | createTable name body _ =>
    if name ∉ known ∧ makesTable body = true then known ++ [name] else known
  | _ => known

end Statement

/-- The clauses of a script that are read, when there are tables of the names `known`. -/
def readings (known : List String) : List Statement → List Reading
  | [] => []
  | s :: ss => s.readings known ++ readings (s.namesAfter known) ss

/-- The clauses that a table is made of. -/
def readingsOf (table : String) (rs : List Reading) : List Reading :=
  rs.filter fun r => r.kept && r.table == table

theorem readingsOf_append (table : String) (rs more : List Reading) :
    readingsOf table (rs ++ more) = readingsOf table rs ++ readingsOf table more :=
  List.filter_append ..

theorem readingsOf_eq_self {table : String} {rs : List Reading}
    (h : ∀ r ∈ rs, r.kept = true ∧ r.table = table) : readingsOf table rs = rs :=
  List.filter_eq_self.2 fun r hr => by simp [h r hr]

theorem readingsOf_eq_nil {table : String} {rs : List Reading}
    (h : ∀ r ∈ rs, r.kept = true → r.table ≠ table) : readingsOf table rs = [] :=
  List.filter_eq_nil_iff.2 fun r hr => by simpa using h r hr

theorem mem_clauseReadings {name : String} {kept : Bool} {i : Nat} {clauses : List (List Token)}
    {r : Reading} (h : r ∈ clauseReadings name kept i clauses) :
    r.table = name ∧ r.kept = kept ∧ r.place.isSome = true := by
  obtain ⟨p, -, rfl⟩ := List.mem_map.1 h
  exact ⟨rfl, rfl, rfl⟩

theorem mem_additions {name : String} {actions : List (List Token)} {r : Reading}
    (h : r ∈ additions name actions) : r.table = name ∧ r.kept = true ∧ r.place = none := by
  obtain ⟨action, -, hr⟩ := List.mem_filterMap.1 h
  obtain ⟨clause, -, rfl⟩ := Option.map_eq_some_iff.1 hr
  exact ⟨rfl, rfl, rfl⟩

/-! ## How a table is built -/

/-- The table is declared by a body, and extended by additions. -/
inductive Built (rs : List Reading) (t : DeclaredTable) : Prop where
  | intro (body : List Token) (added : List Reading) (hmakes : makesTable body = true)
    (hreadings : rs = bodyReadings t.name body ++ added) (hadded : ∀ r ∈ added, r.place = none)
    (htable : t = (added.map (·.clause)).foldl extended (declareBody t.name body).1)

theorem isEmpty_declareBody (name : String) (body : List Token) :
    (declareBody name body).1.columns.isEmpty = !makesTable body := by
  have hcolumn : ∀ column, (declareBody name body).1.hasColumn column
      = (splitClauses body).any (definesColumn column) := by
    intro column
    rw [declareBody_eq, Body.hasColumn_result, Body.hasColumn_addAll]
    rfl
  generalize (declareBody name body).1 = t at hcolumn
  rw [Bool.eq_iff_iff, List.isEmpty_iff, Bool.not_eq_true', makesTable, List.any_eq_false]
  constructor
  · intro hnil clause hclause hdefines
    unfold isColumn at hdefines
    split at hdefines
    · rename_i c hread
      have hhas := hcolumn c.name
      rw [List.any_eq_true.2 ⟨clause, hclause, by simp [definesColumn, hread]⟩,
        DeclaredTable.hasColumn, hnil] at hhas
      cases hhas
    · cases hdefines
  · intro hnone
    rw [List.eq_nil_iff_forall_not_mem]
    intro c hc
    have hhas := hcolumn c.name
    rw [DeclaredTable.hasColumn, List.any_eq_true.2 ⟨c, hc, by simp⟩] at hhas
    obtain ⟨clause, hclause, hdefines⟩ := List.any_eq_true.1 hhas.symm
    refine hnone clause hclause ?_
    unfold definesColumn at hdefines
    split at hdefines
    · rename_i hread
      simp [isColumn, hread]
    · cases hdefines

theorem createdTable?_eq (name : String) (body : List Token) :
    createdTable? name body
      = if makesTable body = true then some (declareBody name body).1 else none := by
  unfold createdTable?
  dsimp only
  rw [isEmpty_declareBody]
  cases makesTable body <;> rfl

theorem names_effect (s : Statement) (ts : List DeclaredTable) :
    (s.effect ts).map (·.name) = s.namesAfter (ts.map (·.name)) := by
  cases s with
  | createTable name body closed =>
    rw [Statement.effect, Statement.namesAfter, createdTable?_eq]
    by_cases hname : name ∈ ts.map (·.name)
    · rw [if_pos hname, if_neg (not_and.2 fun hnot => absurd hname hnot)]
    · rw [if_neg hname]
      cases makesTable body with
      | true => simp [hname, (declareBody_sound name (List.Subset.refl _)).1]
      | false => simp
  | nameless found => rfl
  | bodiless name => rfl
  | alterTable name actions =>
    exact Declarations.names_map_atName _ fun t => name_foldl_altered t actions

theorem foldl_altered_eq (name : String) (actions : List (List Token)) (t : DeclaredTable) :
    actions.foldl altered t = ((additions name actions).map (·.clause)).foldl extended t := by
  induction actions generalizing t with
  | nil => rfl
  | cons action actions ih =>
    rw [List.foldl_cons, ih, additions, additions, List.filterMap_cons, altered]
    cases addition? action <;> rfl

/-- The tables are built from the readings, and all readings that are kept belong to them. -/
structure BuiltFrom (rs : List Reading) (ts : List DeclaredTable) : Prop where
  built : ∀ t ∈ ts, Built (readingsOf t.name rs) t
  known : ∀ r ∈ rs, r.kept = true → r.table ∈ ts.map (·.name)

/-- A table of a new name is built from the clauses of its body. -/
theorem BuiltFrom.create {rs : List Reading} {ts : List DeclaredTable} (h : BuiltFrom rs ts)
    {name : String} (hname : name ∉ ts.map (·.name)) (body : List Token) :
    BuiltFrom (rs ++ bodyReadings name body) (ts ++ (createdTable? name body).toList) := by
  have hbody : ∀ r ∈ bodyReadings name body, r.table = name ∧ r.kept = makesTable body :=
    fun r hr => ⟨(mem_clauseReadings hr).1, (mem_clauseReadings hr).2.1⟩
  have hold : ∀ t ∈ ts, Built (readingsOf t.name (rs ++ bodyReadings name body)) t := by
    intro t ht
    have hnone : readingsOf t.name (bodyReadings name body) = [] := by
      refine readingsOf_eq_nil fun r hr _ heq => hname ?_
      rw [← (hbody r hr).1, heq]
      exact List.mem_map_of_mem ht
    rw [readingsOf_append, hnone, List.append_nil]
    exact h.built t ht
  rw [createdTable?_eq]
  cases hmakes : makesTable body with
  | false =>
    rw [if_neg Bool.false_ne_true, Option.toList_none, List.append_nil]
    refine ⟨hold, fun r hr hkept => ?_⟩
    rcases List.mem_append.1 hr with hr | hr
    · exact h.known r hr hkept
    · rw [(hbody r hr).2, hmakes] at hkept
      cases hkept
  | true =>
    have htable : (declareBody name body).1.name = name :=
      (declareBody_sound name (List.Subset.refl _)).1
    have hfresh : ∀ r ∈ rs, r.kept = true → r.table ≠ name := by
      rintro r hr hkept rfl
      exact hname (h.known r hr hkept)
    rw [if_pos rfl, Option.toList_some]
    refine ⟨fun t ht => ?_, fun r hr hkept => ?_⟩
    · rcases List.mem_append.1 ht with ht | ht
      · exact hold t ht
      · rw [List.mem_singleton.1 ht, htable, readingsOf_append, readingsOf_eq_nil hfresh,
          readingsOf_eq_self fun r hr => ⟨(hbody r hr).2.trans hmakes, (hbody r hr).1⟩]
        exact .intro body [] hmakes (by simp [htable]) (by simp) (by simp [htable])
    · rw [List.map_append, List.mem_append]
      rcases List.mem_append.1 hr with hr | hr
      · exact Or.inl (h.known r hr hkept)
      · exact Or.inr (by simp [(hbody r hr).1, htable])

/-- Additions go on with the table that they name, if it is there. -/
theorem BuiltFrom.alter {rs : List Reading} {ts : List DeclaredTable} (h : BuiltFrom rs ts)
    (name : String) (actions : List (List Token)) :
    BuiltFrom (rs ++ if name ∈ ts.map (·.name) then additions name actions else [])
      (ts.map (atName name fun t => actions.foldl altered t)) := by
  have hnames := @Declarations.names_map_atName ts name _ fun t => name_foldl_altered t actions
  refine ⟨fun t ht => ?_, fun r hr hkept => ?_⟩
  · obtain ⟨u, hu, rfl⟩ := List.mem_map.1 ht
    rw [name_atName fun u => name_foldl_altered u actions]
    by_cases hname : u.name = name
    · have hadditions : readingsOf u.name (additions name actions) = additions name actions :=
        readingsOf_eq_self fun r hr =>
          ⟨(mem_additions hr).2.1, (mem_additions hr).1.trans hname.symm⟩
      rw [atName_of_eq _ hname, if_pos (hname ▸ List.mem_map_of_mem hu), readingsOf_append,
        hadditions]
      obtain ⟨body, added, hmakes, hreadings, hadded, htable⟩ := h.built u hu
      refine .intro body (added ++ additions name actions) hmakes ?_ ?_ ?_
      · rw [hreadings, List.append_assoc, name_foldl_altered]
      · intro r hr
        rcases List.mem_append.1 hr with hr | hr
        · exact hadded r hr
        · exact (mem_additions hr).2.2
      · rw [name_foldl_altered, List.map_append, List.foldl_append, ← htable,
          foldl_altered_eq name]
    · have hadditions : readingsOf u.name
          (if name ∈ ts.map (·.name) then additions name actions else []) = [] := by
        refine readingsOf_eq_nil fun r hr _ heq => hname ?_
        split at hr
        · rw [← heq, (mem_additions hr).1]
        · cases hr
      rw [atName_of_ne _ hname, readingsOf_append, hadditions, List.append_nil]
      exact h.built u hu
  · rw [hnames]
    rcases List.mem_append.1 hr with hr | hr
    · exact h.known r hr hkept
    · split at hr
      · rename_i hname
        rwa [(mem_additions hr).1]
      · cases hr

/-- A statement builds tables from what is read of it. -/
theorem BuiltFrom.effect {rs : List Reading} {ts : List DeclaredTable} (h : BuiltFrom rs ts)
    (s : Statement) : BuiltFrom (rs ++ s.readings (ts.map (·.name))) (s.effect ts) := by
  cases s with
  | createTable name body closed =>
    rw [Statement.effect, Statement.readings]
    by_cases hname : name ∈ ts.map (·.name)
    · rw [if_pos hname, if_pos hname, List.append_nil]
      exact h
    · rw [if_neg hname, if_neg hname]
      exact h.create hname body
  | nameless found => simpa [Statement.readings, Statement.effect] using h
  | bodiless name => simpa [Statement.readings, Statement.effect] using h
  | alterTable name actions => exact h.alter name actions

/-- The tables of a script are built from its readings. -/
theorem builtFrom_ofStatements (ss : List Statement) :
    BuiltFrom (readings [] ss) (Declarations.ofStatements ss).tables := by
  have hrun : ∀ (rs : List Reading) (ts : List DeclaredTable), BuiltFrom rs ts →
      BuiltFrom (rs ++ readings (ts.map (·.name)) ss) (ss.foldl (fun ts s => s.effect ts) ts) := by
    induction ss with
    | nil =>
      intro rs ts h
      rw [readings, List.append_nil]
      exact h
    | cons s ss ih =>
      intro rs ts h
      have hstep := ih _ _ (h.effect s)
      rwa [names_effect, List.append_assoc] at hstep
  have hempty : BuiltFrom [] [] := ⟨by simp, by simp⟩
  rw [Declarations.tables_ofStatements]
  exact hrun [] [] hempty

end SchemaGraph.Sql
