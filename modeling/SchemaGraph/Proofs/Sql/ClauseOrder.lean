import SchemaGraph.Proofs.Sql.KeyOrder

/-!
# The place of a key in a body

Primary keys of a body are kept until its end, and foreign keys are added where they stand. Either
way a key on one column may stand anywhere in the body, also before its column, or be part of the
column itself: the table is what it would be if the key were added to it when the body is complete
(`alike_declareBody_clause`, `alike_declareBody_inlined`).
-/

namespace SchemaGraph.Sql

open DeclaredTable

namespace Body

/-- The columns of the primary keys that are kept for the end. -/
def marks (b : Body) : List String := b.primaryKeys.flatMap (·.2)

/-- The table that the body declares if it ends here. -/
def result (b : Body) : DeclaredTable := b.table.marked b.marks

/-- The bodies declare tables that are alike, wherever they end. -/
structure Alike (b b' : Body) : Prop where
  result : Sql.Alike b.result b'.result
  /-- Columns that are still to come are marked by both or by neither. -/
  marks : ∀ name, b.table.hasColumn name = false → (name ∈ b.marks ↔ name ∈ b'.marks)

variable {b b' : Body} {column : String} {key clause : List Token}

/-! ## One clause -/

/-- A primary key is kept for the end. -/
theorem add_primaryKey {columns : List String} (h : readClause clause = .ok (.primaryKey columns))
    (b : Body) (i : Nat) :
    (b.add i clause).table = b.table ∧ (b.add i clause).marks = b.marks ++ columns := by
  simp [add, h, marks]

/-- Anything else is added to the table. -/
theorem add_other (h : ∀ columns, readClause clause ≠ .ok (.primaryKey columns)) (b : Body)
    (i : Nat) :
    Sql.Alike (b.add i clause).table (b.table.extended clause) ∧
      (b.add i clause).marks = b.marks := by
  unfold add extended
  cases hread : readClause clause with
  | error p => exact ⟨.refl _, rfl⟩
  | ok k =>
    cases k with
    | skipped => exact ⟨.refl _, rfl⟩
    | primaryKey columns => exact absurd hread (h columns)
    | foreignKey columns target => exact ⟨(Sql.Alike.refl _).addKey _ _ _ _, rfl⟩
    | column c =>
      dsimp only
      split
      · exact ⟨.refl _, rfl⟩
      · exact ⟨(Sql.Alike.refl _).addColumn _ _ _, rfl⟩

theorem hasColumn_result (b : Body) : b.result.hasColumn = b.table.hasColumn :=
  hasColumn_marked _ _

/-- The marks that count are those of the columns, so they may be made before an addition. -/
theorem alike_marked_extended {t u : DeclaredTable} {names names' : List String}
    (h : Sql.Alike (t.marked names) (u.marked names'))
    (hm : ∀ name, t.hasColumn name = false → (name ∈ names ↔ name ∈ names'))
    (clause : List Token) :
    Sql.Alike ((t.extended clause).marked names) ((u.extended clause).marked names') := by
  have hcolumns : t.hasColumn = u.hasColumn := by
    rw [← hasColumn_marked t names, ← hasColumn_marked u names', h.hasColumn]
  have hcomm : ∀ (v : DeclaredTable) (more marks : List String),
      (v.marked more).marked marks = (v.marked marks).marked more := by
    intro v more marks
    rw [← marked_append, ← marked_append]
    exact marked_congr fun name _ => by simp [or_comm]
  unfold extended
  split
  · rw [hcomm, hcomm u]
    exact h.marked _
  · exact h.addKey none none _ _
  · rename_i c _
    rw [hcolumns]
    split
    · exact h
    · rename_i hnew
      have hmark : names.contains c.name = names'.contains c.name := by
        rw [Bool.eq_iff_iff, List.contains_iff_mem, List.contains_iff_mem]
        exact hm c.name (by rw [hcolumns]; simpa using hnew)
      rw [marked_addColumn, marked_addColumn, hmark]
      exact h.addColumn none none _
  · exact h

namespace Alike

theorem refl (b : Body) : b.Alike b := ⟨.refl _, fun _ _ => Iff.rfl⟩

theorem hasColumn (h : b.Alike b') : b.table.hasColumn = b'.table.hasColumn := by
  rw [← hasColumn_result, ← hasColumn_result, h.result.hasColumn]

theorem trans {b'' : Body} (h : b.Alike b') (h' : b'.Alike b'') : b.Alike b'' := by
  refine ⟨h.result.trans h'.result, fun name hname => (h.marks name hname).trans ?_⟩
  exact h'.marks name (by rw [← h.hasColumn]; exact hname)

/-- It is enough that the tables are alike and the marks are the same. -/
theorem of_table (ht : Sql.Alike b.table b'.table)
    (hm : ∀ name, name ∈ b.marks ↔ name ∈ b'.marks) : b.Alike b' := by
  refine ⟨?_, fun name _ => hm name⟩
  have hmarks : b'.table.marked b'.marks = b'.table.marked b.marks :=
    marked_congr fun name _ => (hm name).symm
  rw [Body.result, Body.result, hmarks]
  exact ht.marked _

theorem add (h : b.Alike b') (i j : Nat) (clause : List Token) :
    (b.add i clause).Alike (b'.add j clause) := by
  by_cases hread : ∃ columns, readClause clause = .ok (.primaryKey columns)
  · obtain ⟨columns, hread⟩ := hread
    obtain ⟨ht, hm⟩ := add_primaryKey hread b i
    obtain ⟨ht', hm'⟩ := add_primaryKey hread b' j
    refine ⟨?_, fun name hname => ?_⟩
    · rw [Body.result, Body.result, ht, ht', hm, hm', marked_append, marked_append]
      exact h.result.marked _
    · rw [hm, hm', List.mem_append, List.mem_append, h.marks name (by rwa [ht] at hname)]
  · rw [not_exists] at hread
    obtain ⟨ht, hm⟩ := add_other hread b i
    obtain ⟨ht', hm'⟩ := add_other hread b' j
    refine ⟨?_, fun name hname => ?_⟩
    · rw [Body.result, Body.result, hm, hm']
      refine (ht.marked _).trans (Sql.Alike.trans ?_ (ht'.marked _).symm)
      exact alike_marked_extended h.result h.marks clause
    · rw [hm, hm']
      refine h.marks name ?_
      rw [ht.hasColumn] at hname
      exact eq_false_of_ne_true fun hcol => by simp [hasColumn_extended hcol] at hname

theorem addAll (h : b.Alike b') (i j : Nat) (clauses : List (List Token)) :
    (b.addAll i clauses).Alike (b'.addAll j clauses) := by
  induction clauses generalizing b b' i j with
  | nil => exact h
  | cons clause clauses ih => exact ih (h.add i j clause) (i + 1) (j + 1)

end Alike

/-! ## A key and other clauses -/

/-- A primary key may stand before or after any clause. -/
theorem alike_add_primaryKey (hkey : readClause key = .ok (.primaryKey [column]))
    (b : Body) (i i' j j' : Nat) (clause : List Token) :
    ((b.add i key).add j clause).Alike ((b.add j' clause).add i' key) := by
  obtain ⟨ht, hm⟩ := add_primaryKey hkey b i
  obtain ⟨ht', hm'⟩ := add_primaryKey hkey (b.add j' clause) i'
  by_cases hread : ∃ columns, readClause clause = .ok (.primaryKey columns)
  · obtain ⟨columns, hread⟩ := hread
    obtain ⟨hu, hn⟩ := add_primaryKey hread (b.add i key) j
    obtain ⟨hu', hn'⟩ := add_primaryKey hread b j'
    refine Alike.of_table ?_ fun name => ?_
    · rw [hu, ht, ht', hu']
      exact .refl _
    · simp [hn, hm, hm', hn', or_comm]
  · rw [not_exists] at hread
    obtain ⟨hu, hn⟩ := add_other hread (b.add i key) j
    obtain ⟨hu', hn'⟩ := add_other hread b j'
    refine Alike.of_table ?_ fun name => by rw [hn, hm, hm', hn']
    rw [ht']
    rw [ht] at hu
    exact hu.trans hu'.symm

/-- A foreign key may stand before or after a clause that declares no other one on its column. -/
theorem alike_add_foreignKey {target : Reference}
    (hkey : readClause key = .ok (.foreignKey [column] target))
    (hfree : declaresKeyOn column clause = false) (b : Body) (i i' j j' : Nat) :
    ((b.add i key).add j clause).Alike ((b.add j' clause).add i' key) := by
  have hnot : ∀ columns, readClause key ≠ .ok (.primaryKey columns) := by simp [hkey]
  obtain ⟨ht, hm⟩ := add_other hnot b i
  obtain ⟨ht', hm'⟩ := add_other hnot (b.add j' clause) i'
  by_cases hread : ∃ columns, readClause clause = .ok (.primaryKey columns)
  · obtain ⟨columns, hread⟩ := hread
    obtain ⟨hu, hn⟩ := add_primaryKey hread (b.add i key) j
    obtain ⟨hu', hn'⟩ := add_primaryKey hread b j'
    refine Alike.of_table ?_ fun name => by rw [hn, hm, hm', hn']
    rw [hu]
    rw [hu'] at ht'
    exact ht.trans ht'.symm
  · rw [not_exists] at hread
    obtain ⟨hu, hn⟩ := add_other hread (b.add i key) j
    obtain ⟨hu', hn'⟩ := add_other hread b j'
    refine Alike.of_table ?_ fun name => by rw [hn, hm, hm', hn']
    have hfirst := hu.trans (ht.extended clause)
    have hlast := ht'.trans (hu'.extended key)
    exact hfirst.trans ((alike_addKey_swap hkey hfree).trans hlast.symm)

/-- A key may stand before or after a clause that declares no other foreign key on its column. -/
theorem alike_add_swap (hkey : IsKeyOn column key)
    (hfree : declaresKeyOn column key = true → declaresKeyOn column clause = false)
    (b : Body) (i i' j j' : Nat) :
    ((b.add i key).add j clause).Alike ((b.add j' clause).add i' key) := by
  rcases hkey with hkey | ⟨target, hkey⟩
  · exact alike_add_primaryKey hkey b i i' j j' clause
  · exact alike_add_foreignKey hkey (hfree (by simp [declaresKeyOn, hkey])) b i i' j j'

theorem addAll_append (b : Body) (i : Nat) (clauses more : List (List Token)) :
    b.addAll i (clauses ++ more) = (b.addAll i clauses).addAll (i + clauses.length) more := by
  induction clauses generalizing b i with
  | nil => rfl
  | cons clause clauses ih =>
    rw [List.cons_append, addAll, addAll, ih, List.length_cons, Nat.add_assoc,
      Nat.add_comm clauses.length]

/-- A key may as well stand at the end. -/
theorem alike_addAll_key (hkey : IsKeyOn column key) {clauses : List (List Token)}
    (hfree : declaresKeyOn column key = true →
      ∀ clause ∈ clauses, declaresKeyOn column clause = false)
    (b : Body) (i j k : Nat) :
    ((b.add i key).addAll j clauses).Alike ((b.addAll j clauses).add k key) := by
  induction clauses generalizing b i j with
  | nil => exact (Alike.refl b).add i k key
  | cons clause clauses ih =>
    have hswap := alike_add_swap hkey (fun hk => hfree hk clause (List.mem_cons_self ..))
      b i j j j
    have hrest := ih (fun hk other ho => hfree hk other (List.mem_cons_of_mem _ ho))
      (b.add j clause) j (j + 1)
    exact (hswap.addAll (j + 1) (j + 1) clauses).trans hrest

theorem alike_result_add (hkey : IsKeyOn column key) (b : Body) (i : Nat) :
    Sql.Alike (b.add i key).result (b.result.extended key) := by
  rcases hkey with hkey | ⟨target, hkey⟩
  · obtain ⟨ht, hm⟩ := add_primaryKey hkey b i
    have hext : b.result.extended key = b.result.marked [column] := by simp [extended, hkey]
    rw [hext, result, ht, hm, marked_append]
    exact .refl _
  · have hnot : ∀ columns, readClause key ≠ .ok (.primaryKey columns) := by simp [hkey]
    obtain ⟨ht, hm⟩ := add_other hnot b i
    have hext : b.result.extended key = (b.table.extended key).marked b.marks := by
      simp [extended, hkey, addKey, marked, result]
    rw [hext, result, hm]
    exact ht.marked _

end Body

/-! ## A key as part of its column -/

/-- The clause `inlined` defines the same column as `plain`, and declares the key besides. -/
inductive IsInlined (column : String) (key plain inlined : List Token) : Prop where
  | primaryKey {c : ColumnClause} (hc : c.name = column)
    (hkey : readClause key = .ok (.primaryKey [column]))
    (hplain : readClause plain = .ok (.column c))
    (hinlined : readClause inlined = .ok (.column { c with primaryKey := true }))
  | foreignKey {c : ColumnClause} {target : Reference} (hc : c.name = column)
    (hkey : readClause key = .ok (.foreignKey [column] target))
    (hplain : readClause plain = .ok (.column c)) (hnone : c.reference = none)
    (hinlined : readClause inlined = .ok (.column { c with reference := some target }))

/-- The clause defines the column. -/
def definesColumn (column : String) (clause : List Token) : Bool :=
  match readClause clause with
  | .ok (.column c) => c.name == column
  | _ => false

section
variable {column : String} {key plain inlined clause : List Token}

theorem IsInlined.isKeyOn (h : IsInlined column key plain inlined) : IsKeyOn column key := by
  cases h with
  | primaryKey _ hkey => exact Or.inl hkey
  | foreignKey _ hkey => exact Or.inr ⟨_, hkey⟩

namespace Body

variable {b : Body}

theorem hasColumn_add (b : Body) (i : Nat) (clause : List Token) (column : String) :
    (b.add i clause).table.hasColumn column
      = (b.table.hasColumn column || definesColumn column clause) := by
  unfold add definesColumn
  cases hread : readClause clause with
  | error p => simp [report]
  | ok k =>
    cases k with
    | skipped => simp
    | primaryKey columns => simp
    | foreignKey columns target => simp [addKey, DeclaredTable.hasColumn]
    | column c =>
      dsimp only
      split
      · rename_i hcolumn
        by_cases heq : c.name = column
        · simp [report, ← heq, hcolumn]
        · simp [report, heq]
      · simp [addColumn, DeclaredTable.hasColumn]

theorem hasColumn_addAll (b : Body) (i : Nat) (clauses : List (List Token)) (column : String) :
    (b.addAll i clauses).table.hasColumn column
      = (b.table.hasColumn column || clauses.any (definesColumn column)) := by
  induction clauses generalizing b i with
  | nil => simp [addAll]
  | cons clause clauses ih => rw [addAll, ih, hasColumn_add, List.any_cons, Bool.or_assoc]

/-- A primary key that is part of its column is kept with the column, and not for the end. -/
theorem alike_add_markedColumn {c : ColumnClause}
    (hkey : readClause key = .ok (.primaryKey [c.name]))
    (hplain : readClause plain = .ok (.column c))
    (hinlined : readClause inlined = .ok (.column { c with primaryKey := true }))
    (hnew : b.table.hasColumn c.name = false) (i j k : Nat) :
    (b.add i inlined).Alike ((b.add j plain).add k key) := by
  have hin : b.add i inlined
      = { b with table := b.table.addColumn (some i) { c with primaryKey := true } } := by
    simp [add, hinlined, hnew]
  have hout : b.add j plain = { b with table := b.table.addColumn (some j) c } := by
    simp [add, hplain, hnew]
  obtain ⟨ht, hm⟩ := add_primaryKey hkey (b.add j plain) k
  rw [hout] at ht hm ⊢
  -- There is no column of the name yet, so its mark makes no difference to the other ones.
  have hsame : b.table.marked (b.marks ++ [c.name]) = b.table.marked b.marks := by
    refine marked_congr fun name hname => ?_
    have hne : name ≠ c.name := by
      rintro rfl
      rw [hnew] at hname
      cases hname
    simp [hne]
  refine ⟨?_, fun name hname => ?_⟩
  · rw [hin, result, result, ht, hm]
    show Sql.Alike ((b.table.addColumn (some i) _).marked b.marks)
      ((b.table.addColumn (some j) c).marked (b.marks ++ [c.name]))
    rw [marked_addColumn, marked_addColumn, hsame]
    simpa using (Sql.Alike.refl _).addColumn _ _ _
  · rw [hm, hin]
    show name ∈ b.marks ↔ name ∈ b.marks ++ [c.name]
    have hne : name ≠ c.name := by
      rintro rfl
      rw [hasColumn_add] at hname
      simp [definesColumn, hinlined] at hname
    simp [hne]

/-- A reference that is part of its column is a foreign key on the column. -/
theorem alike_add_referringColumn {c : ColumnClause} {target : Reference}
    (hkey : readClause key = .ok (.foreignKey [c.name] target))
    (hplain : readClause plain = .ok (.column c)) (hnone : c.reference = none)
    (hinlined : readClause inlined = .ok (.column { c with reference := some target }))
    (hnew : b.table.hasColumn c.name = false) (i j k : Nat) :
    (b.add i inlined).Alike ((b.add j plain).add k key) := by
  have hin : b.add i inlined
      = { b with table := b.table.addColumn (some i) { c with reference := some target } } := by
    simp [add, hinlined, hnew]
  have hout : (b.add j plain).add k key
      = { b with table := (b.table.addColumn (some j) c).addKey (some k) [c.name] target } := by
    simp [add, hplain, hkey, hnew]
  rw [hin, hout]
  refine Alike.of_table ⟨rfl, rfl, fun other => ?_⟩ fun name => Iff.rfl
  simp only [addColumn, addKey, hnone, keysOn_append, Option.map_some, Option.map_none,
    Option.toList_some, Option.toList_none, keysOn_singleton, List.append_nil]

/-- A key that is part of its column may as well stand after it. -/
theorem alike_add_inlined (h : IsInlined column key plain inlined)
    (hnew : b.table.hasColumn column = false) (i j k : Nat) :
    (b.add i inlined).Alike ((b.add j plain).add k key) := by
  cases h with
  | primaryKey hc hkey hplain hinlined =>
    cases hc
    exact alike_add_markedColumn hkey hplain hinlined hnew i j k
  | foreignKey hc hkey hplain hnone hinlined =>
    cases hc
    exact alike_add_referringColumn hkey hplain hnone hinlined hnew i j k

end Body

/-! ## Whole bodies -/

theorem declareBody_eq (name : String) (body : List Token) :
    (declareBody name body).1
      = (Body.addAll ⟨⟨name, [], []⟩, [], []⟩ 0 (splitClauses body)).result :=
  applyPrimaryKeys_eq _ _

variable {body body' : List Token} {before after : List (List Token)}

/-- A key may stand anywhere in a body, as if it were declared when the body is complete. -/
theorem alike_declareBody_clause (hkey : IsKeyOn column key)
    (hbody : splitClauses body = before ++ after)
    (hbody' : splitClauses body' = before ++ key :: after)
    (hfree : declaresKeyOn column key = true →
      ∀ clause ∈ after, declaresKeyOn column clause = false) (name : String) :
    Alike (declareBody name body').1 ((declareBody name body).1.extended key) := by
  rw [declareBody_eq, declareBody_eq, hbody, hbody', Body.addAll_append, Body.addAll_append]
  generalize Body.addAll ⟨⟨name, [], []⟩, [], []⟩ 0 before = b
  have hmove := Body.alike_addAll_key hkey hfree b (0 + before.length) (0 + before.length + 1) 0
  have hindex := (Body.Alike.refl b).addAll (0 + before.length + 1) (0 + before.length) after
  exact (hmove.trans (hindex.add 0 0 key)).result.trans (Body.alike_result_add hkey _ 0)

/-- A key may be part of its column, as if it were declared when the body is complete. -/
theorem alike_declareBody_inlined (h : IsInlined column key plain inlined)
    (hbody : splitClauses body = before ++ plain :: after)
    (hbody' : splitClauses body' = before ++ inlined :: after)
    (hnew : ∀ clause ∈ before, definesColumn column clause = false)
    (hfree : declaresKeyOn column key = true →
      ∀ clause ∈ after, declaresKeyOn column clause = false) (name : String) :
    Alike (declareBody name body').1 ((declareBody name body).1.extended key) := by
  rw [declareBody_eq, declareBody_eq, hbody, hbody', Body.addAll_append, Body.addAll_append]
  have hcolumn := Body.hasColumn_addAll ⟨⟨name, [], []⟩, [], []⟩ 0 before column
  rw [List.any_eq_false.2 fun clause hclause => by simp [hnew clause hclause]] at hcolumn
  generalize Body.addAll ⟨⟨name, [], []⟩, [], []⟩ 0 before = b at hcolumn ⊢
  generalize 0 + before.length = i
  have hinlined := (Body.alike_add_inlined h hcolumn i i 0).addAll (i + 1) (i + 1) after
  have hmove := Body.alike_addAll_key h.isKeyOn hfree (b.add i plain) 0 (i + 1) 0
  exact (hinlined.trans hmove).result.trans (Body.alike_result_add h.isKeyOn _ 0)

/-- The body of a table whose clauses define the column has the column. -/
theorem hasColumn_declareBody (hbody : splitClauses body = before ++ plain :: after)
    (hplain : definesColumn column plain = true) (name : String) :
    (declareBody name body).1.hasColumn column = true := by
  rw [declareBody_eq, Body.hasColumn_result, Body.hasColumn_addAll, hbody]
  simp [hplain]

/-! ## Statements that create tables -/

theorem isEmpty_extended (hkey : IsKeyOn column key) (t : DeclaredTable) :
    (t.extended key).columns.isEmpty = t.columns.isEmpty := by
  rcases hkey with hkey | ⟨target, hkey⟩
  · simp [extended, hkey, marked]
  · simp [extended, hkey, addKey]

/-- A key that is declared when a body is complete may as well be declared by a statement of its
own. -/
theorem alike_effect_createTable (hkey : IsKeyOn column key) {name : String}
    (h : Alike (declareBody name body').1 ((declareBody name body).1.extended key))
    {ts : List DeclaredTable} (hnew : name ∉ ts.map (·.name)) (closed : Bool) :
    List.Forall₂ Alike ((Statement.createTable name body' closed).effect ts)
      (((Statement.createTable name body closed).effect ts).map
        (atName name fun t => t.extended key)) := by
  have hkeep : ts.map (atName name fun t => t.extended key) = ts := by
    refine (List.map_congr_left fun t ht => atName_of_ne _ ?_).trans (List.map_id _)
    rintro rfl
    exact hnew (List.mem_map_of_mem ht)
  have hname : (declareBody name body).1.name = name :=
    (declareBody_sound name (List.Subset.refl _)).1
  rw [Statement.effect, Statement.effect, if_neg hnew, if_neg hnew, List.map_append, hkeep]
  refine List.rel_append (alike_refl ts) ?_
  have hempty : (declareBody name body').1.columns.isEmpty
      = (declareBody name body).1.columns.isEmpty := by
    rw [h.columns, isEmpty_extended hkey]
  simp only [createdTable?, hempty]
  split
  · exact .nil
  · rw [Option.toList_some, Option.toList_some, List.map_singleton, atName_of_eq _ hname]
    exact .cons h .nil

theorem hasColumn_effect_createTable {name : String}
    (hcolumn : (declareBody name body).1.hasColumn column = true) {ts : List DeclaredTable}
    (hnew : name ∉ ts.map (·.name)) (closed : Bool) :
    HasColumn name column ((Statement.createTable name body closed).effect ts) := by
  have hcreated : createdTable? name body = some (declareBody name body).1 := by
    unfold createdTable?
    dsimp only
    rw [if_neg]
    intro hempty
    rw [List.isEmpty_iff] at hempty
    simp [DeclaredTable.hasColumn, hempty] at hcolumn
  rw [Statement.effect, if_neg hnew, hcreated, Option.toList_some]
  refine ⟨?_, fun t ht hname => ?_⟩
  · rw [List.map_append, List.map_singleton, name_createdTable? hcreated]
    simp
  · rcases List.mem_append.1 ht with ht | ht
    · exact absurd (hname ▸ List.mem_map_of_mem ht) hnew
    · rw [List.mem_singleton.1 ht]
      exact hcolumn

end

end SchemaGraph.Sql
