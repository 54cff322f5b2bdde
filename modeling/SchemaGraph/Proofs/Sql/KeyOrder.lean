import Mathlib.Data.List.Forall2
import SchemaGraph.Proofs.Sql.Attaching
import SchemaGraph.Proofs.Sql.StatementEffect

/-!
# The order in which keys are declared

The reference of a column depends on the foreign keys that name this column, and on their order, but
neither on the other keys of the table nor on the positions of the clauses. Tables that agree in
this (`Alike`) are the same in the end (`definitions_of_alike`), and statements keep them so
(`alike_effect`). A key may therefore be declared before or after any statement that declares no
other foreign key on the same column (`alike_effect_extended`).
-/

namespace SchemaGraph.Sql

/-- The foreign keys that name the column, in order and without their positions. -/
def keysOn (column : String) (keys : List KeyDeclaration) : List (List String × Reference) :=
  (keys.filter fun key => key.columns.contains column).map fun key => (key.columns, key.target)

theorem keysOn_append (column : String) (keys more : List KeyDeclaration) :
    keysOn column (keys ++ more) = keysOn column keys ++ keysOn column more := by
  rw [keysOn, List.filter_append, List.map_append]
  rfl

theorem keysOn_singleton (column : String) (columns : List String) (target : Reference)
    (i : Option Nat) :
    keysOn column [⟨columns, target, i⟩]
      = if column ∈ columns then [(columns, target)] else [] := by
  by_cases hmem : column ∈ columns <;> simp [keysOn, hmem]

open DeclaredTable

/-- The tables differ at most in the order of keys on different columns, and in the positions of
clauses. -/
structure Alike (t u : DeclaredTable) : Prop where
  name : t.name = u.name
  columns : t.columns = u.columns
  keys : ∀ column, keysOn column t.keys = keysOn column u.keys

namespace Alike

variable {t u v : DeclaredTable}

theorem refl (t : DeclaredTable) : Alike t t := ⟨rfl, rfl, fun _ => rfl⟩

theorem symm (h : Alike t u) : Alike u t :=
  ⟨h.name.symm, h.columns.symm, fun column => (h.keys column).symm⟩

theorem trans (h : Alike t u) (h' : Alike u v) : Alike t v :=
  ⟨h.name.trans h'.name, h.columns.trans h'.columns,
    fun column => (h.keys column).trans (h'.keys column)⟩

theorem hasColumn (h : Alike t u) : t.hasColumn = u.hasColumn := by
  funext name
  rw [DeclaredTable.hasColumn, DeclaredTable.hasColumn, h.columns]

theorem primaryKey (h : Alike t u) : t.primaryKey = u.primaryKey := by
  rw [DeclaredTable.primaryKey, DeclaredTable.primaryKey, h.columns]

end Alike

/-! ## Resolution -/

namespace Attachment

variable {t u target target' : DeclaredTable} {ts us : List DeclaredTable}

/-- The reference of a column is decided by the pairs for this column. -/
theorem referenceOf_congr {a b : Attachment} {column : String}
    (h : a.pairs.filter (fun p => p.1 == column) = b.pairs.filter fun p => p.1 == column) :
    a.referenceOf column = b.referenceOf column := by
  rw [referenceOf, referenceOf, ← List.head?_filter, ← List.head?_filter, List.filter_reverse,
    List.filter_reverse, h]

theorem pairs_ofKeyTo (t target : DeclaredTable) (key : KeyDeclaration) :
    (ofKeyTo t target key).pairs
      = if (targetColumns key target).length = key.columns.length
        then (key.columns.zip (targetColumns key target)).flatMap
          fun p => (ofPair t target p.1 p.2).pairs
        else [] := by
  unfold ofKeyTo
  dsimp only
  split
  · rw [pairs_foldr, List.flatMap_map]
  · rfl

/-- What a key leads to depends on the names of the columns of both tables, and on those that it
refers to, but not on its position. -/
theorem pairs_ofKeyTo_congr (ht : t.hasColumn = u.hasColumn) (hname : target.name = target'.name)
    (htarget : target.hasColumn = target'.hasColumn) {key key' : KeyDeclaration}
    (hcolumns : key.columns = key'.columns)
    (htargets : targetColumns key target = targetColumns key' target') :
    (ofKeyTo t target key).pairs = (ofKeyTo u target' key').pairs := by
  rw [pairs_ofKeyTo, pairs_ofKeyTo, hcolumns, htargets]
  simp only [pairs_ofPair, ht, hname, htarget]

/-- Of two lists of tables with the same names, the tables found under a name belong together. -/
theorem find?_of_forall₂ {R : DeclaredTable → DeclaredTable → Prop}
    (hR : ∀ t u, R t u → t.name = u.name) (h : List.Forall₂ R ts us) (name : String) :
    (ts.find? (fun t => t.name == name) = none ∧ us.find? (fun t => t.name == name) = none) ∨
      ∃ t u, ts.find? (fun t => t.name == name) = some t ∧
        us.find? (fun t => t.name == name) = some u ∧ R t u := by
  induction h with
  | nil => exact Or.inl ⟨rfl, rfl⟩
  | @cons t u ts us hhead _ ih =>
    rw [List.find?_cons, List.find?_cons, hR t u hhead]
    cases u.name == name with
    | true => exact Or.inr ⟨t, u, rfl, rfl, hhead⟩
    | false => exact ih

theorem pairs_ofKey_congr (h : List.Forall₂ Alike ts us) (ht : Alike t u)
    {key key' : KeyDeclaration} (hcolumns : key.columns = key'.columns)
    (hkey : key.target = key'.target) :
    (ofKey ts t key).pairs = (ofKey us u key').pairs := by
  rw [ofKey, ofKey, hkey]
  rcases find?_of_forall₂ (fun _ _ => Alike.name) h key'.target.table with ⟨hnone, hnone'⟩ |
    ⟨target, target', hsome, hsome', htarget⟩
  · rw [hnone, hnone']
  · rw [hsome, hsome']
    refine pairs_ofKeyTo_congr ht.hasColumn htarget.name htarget.hasColumn hcolumns ?_
    rw [targetColumns, targetColumns, hkey, htarget.primaryKey]

/-- A key leads to pairs only for the columns that it names. -/
theorem pairs_ofKey_filter {key : KeyDeclaration} {column : String} (h : column ∉ key.columns) :
    (ofKey ts t key).pairs.filter (fun p => p.1 == column) = [] := by
  rw [List.filter_eq_nil_iff]
  intro p hp hname
  unfold ofKey at hp
  split at hp
  · cases hp
  · rw [pairs_ofKeyTo] at hp
    split at hp
    · obtain ⟨q, hq, hpair⟩ := List.mem_flatMap.1 hp
      rw [pairs_ofPair] at hpair
      split at hpair
      · rw [List.mem_singleton] at hpair
        rw [hpair, beq_iff_eq] at hname
        exact h (hname ▸ (List.of_mem_zip hq).1)
      · cases hpair
    · cases hp

/-- The pairs for a column are those of the keys that name it. -/
theorem pairs_filter (ts : List DeclaredTable) (t : DeclaredTable) (column : String) :
    (ofTable ts t).pairs.filter (fun p => p.1 == column)
      = (keysOn column t.keys).flatMap fun key =>
          (ofKey ts t ⟨key.1, key.2, none⟩).pairs.filter fun p => p.1 == column := by
  rw [pairs_ofTable, keysOn, List.flatMap_map, List.filter_flatMap]
  have hpairs : ∀ key : KeyDeclaration, (ofKey ts t ⟨key.columns, key.target, none⟩).pairs
      = (ofKey ts t key).pairs := fun key =>
    pairs_ofKey_congr (List.forall₂_same.2 fun t _ => .refl t) (.refl t) rfl rfl
  simp only [hpairs]
  induction t.keys with
  | nil => rfl
  | cons key keys ih =>
    rw [List.flatMap_cons, ih]
    by_cases hmem : column ∈ key.columns
    · rw [List.filter_cons_of_pos (by simpa using hmem), List.flatMap_cons]
    · rw [List.filter_cons_of_neg (by simpa using hmem), pairs_ofKey_filter hmem, List.nil_append]

end Attachment

theorem resolveTable_of_alike (d : Dialect) {ts us : List DeclaredTable}
    (h : List.Forall₂ Alike ts us) {t u : DeclaredTable} (ht : Alike t u) :
    resolveTable d ts t = resolveTable d us u := by
  have hreference : ∀ column, (Attachment.ofTable ts t).referenceOf column
      = (Attachment.ofTable us u).referenceOf column := by
    intro column
    refine Attachment.referenceOf_congr ?_
    rw [Attachment.pairs_filter, Attachment.pairs_filter, ht.keys]
    simp only [Attachment.pairs_ofKey_congr h ht rfl rfl]
  rw [resolveTable, resolveTable, ht.name, ht.columns]
  refine congrArg _ (List.map_congr_left fun c _ => ?_)
  rw [resolveColumn, resolveColumn, hreference]

/-- Tables that are alike are the same in the end. -/
theorem definitions_of_alike (d : Dialect) {ts us : List DeclaredTable}
    (h : List.Forall₂ Alike ts us) :
    ts.map (resolveTable d ts) = us.map (resolveTable d us) := by
  rw [← List.forall₂_eq_eq_eq, List.forall₂_map_left_iff, List.forall₂_map_right_iff]
  exact h.imp fun _ _ ht => resolveTable_of_alike d h ht

/-! ## Clauses -/

/-- The clause declares a foreign key on the column, as its reference or on its own. -/
def declaresKeyOn (column : String) (clause : List Token) : Bool :=
  match readClause clause with
  | .ok (.column c) => c.name == column && c.reference.isSome
  | .ok (.foreignKey columns _) => columns.contains column
  | _ => false

/-- The clause declares a key on the column alone: the primary key, or a foreign key. -/
def IsKeyOn (column : String) (clause : List Token) : Prop :=
  readClause clause = .ok (.primaryKey [column]) ∨
    ∃ target, readClause clause = .ok (.foreignKey [column] target)

section
variable {t u : DeclaredTable} {column : String} {key clause : List Token}

theorem Alike.marked (h : Alike t u) (names : List String) :
    Alike (t.marked names) (u.marked names) :=
  ⟨h.name, by rw [DeclaredTable.marked, h.columns]; rfl, h.keys⟩

theorem Alike.addKey (h : Alike t u) (i j : Option Nat) (columns : List String)
    (target : Reference) : Alike (t.addKey i columns target) (u.addKey j columns target) := by
  refine ⟨h.name, h.columns, fun column => ?_⟩
  simp only [DeclaredTable.addKey, keysOn_append, h.keys, keysOn_singleton]

theorem Alike.addColumn (h : Alike t u) (i j : Option Nat) (c : ColumnClause) :
    Alike (t.addColumn i c) (u.addColumn j c) := by
  refine ⟨h.name, by simp [DeclaredTable.addColumn, h.columns], fun column => ?_⟩
  simp only [DeclaredTable.addColumn, keysOn_append, h.keys]
  cases c.reference with
  | none => rfl
  | some target => simp only [Option.map_some, Option.toList_some, keysOn_singleton]

theorem Alike.extended (h : Alike t u) (clause : List Token) :
    Alike (t.extended clause) (u.extended clause) := by
  unfold DeclaredTable.extended
  split
  · exact h.marked _
  · exact h.addKey none none _ _
  · rw [h.hasColumn]
    split
    · exact h
    · exact h.addColumn none none _
  · exact h

theorem Alike.altered (h : Alike t u) (action : List Token) :
    Alike (t.altered action) (u.altered action) := by
  unfold DeclaredTable.altered
  cases addition? action with
  | none => exact h
  | some clause => exact h.extended clause

theorem Alike.foldl_altered (h : Alike t u) (actions : List (List Token)) :
    Alike (actions.foldl DeclaredTable.altered t) (actions.foldl DeclaredTable.altered u) := by
  induction actions generalizing t u with
  | nil => exact h
  | cons action actions ih => exact ih (h.altered action)

theorem Alike.atName (h : Alike t u) (name : String) {f : DeclaredTable → DeclaredTable}
    (hf : Alike (f t) (f u)) : Alike (atName name f t) (atName name f u) := by
  unfold DeclaredTable.atName
  rw [h.name]
  split
  · exact hf
  · exact h

/-- Keys on different columns may change places. -/
theorem Alike.of_swap {name : String} {columns : List DeclaredColumn}
    {keys first second : List KeyDeclaration}
    (h : ∀ column, keysOn column first = [] ∨ keysOn column second = []) :
    Alike ⟨name, columns, keys ++ first ++ second⟩ ⟨name, columns, keys ++ second ++ first⟩ := by
  refine ⟨rfl, rfl, fun column => ?_⟩
  simp only [keysOn_append]
  rcases h column with hnil | hnil <;> simp [hnil]

theorem marked_addColumn (t : DeclaredTable) (i : Option Nat) (c : ColumnClause)
    (names : List String) :
    (t.addColumn i c).marked names
      = (t.marked names).addColumn i
          { c with primaryKey := c.primaryKey || names.contains c.name } := by
  simp only [DeclaredTable.addColumn, DeclaredTable.marked, List.map_append, List.map_singleton]
  by_cases hmem : c.name ∈ names <;> simp [hmem]

/-- A foreign key may be declared before or after any clause, but for another one on the column. -/
theorem alike_addKey_swap {target : Reference}
    (hread : readClause key = .ok (.foreignKey [column] target))
    (hfree : declaresKeyOn column clause = false) :
    Alike ((t.extended key).extended clause) ((t.extended clause).extended key) := by
  have hext : ∀ u : DeclaredTable, u.extended key = u.addKey none [column] target := by
    intro u
    simp [extended, hread]
  unfold declaresKeyOn at hfree
  rw [hext, hext]
  unfold extended
  split
  · exact .refl _
  · rename_i columns more hclause
    rw [hclause] at hfree
    refine Alike.of_swap fun other => ?_
    rw [keysOn_singleton, keysOn_singleton]
    by_cases heq : other = column <;> simp_all
  · rename_i c hclause
    rw [hclause] at hfree
    have hsame : (t.addKey none [column] target).hasColumn c.name = t.hasColumn c.name := rfl
    rw [hsame]
    split
    · exact .refl _
    · refine Alike.of_swap fun other => ?_
      cases hreference : c.reference with
      | none => exact Or.inr rfl
      | some more =>
        have hne : c.name ≠ column := by simpa [hreference] using hfree
        rw [Option.map_some, Option.toList_some, keysOn_singleton, keysOn_singleton]
        by_cases heq : other = column
        · refine Or.inr (if_neg ?_)
          rw [heq, List.mem_singleton]
          exact hne.symm
        · exact Or.inl (if_neg (by simpa using heq))
  · exact .refl _

/-- A column that is there may be marked before or after any clause. -/
theorem marked_extended_swap (hcolumn : t.hasColumn column = true) (clause : List Token) :
    (t.marked [column]).extended clause = (t.extended clause).marked [column] := by
  unfold extended
  split
  · rw [← marked_append, ← marked_append]
    exact marked_congr fun name _ => by simp [or_comm]
  · rfl
  · rename_i c _
    rw [hasColumn_marked]
    split
    · rfl
    · rename_i hnew
      have hne : c.name ≠ column := fun heq => hnew (heq ▸ hcolumn)
      simp [marked_addColumn, hne]
  · rfl

/-- A key on a column that is there may be declared before or after any clause, but for another
foreign key on this column. -/
theorem alike_extended_swap (hkey : IsKeyOn column key) (hcolumn : t.hasColumn column = true)
    (hfree : declaresKeyOn column key = true → declaresKeyOn column clause = false) :
    Alike ((t.extended key).extended clause) ((t.extended clause).extended key) := by
  rcases hkey with hread | ⟨target, hread⟩
  · have hext : ∀ u : DeclaredTable, u.extended key = u.marked [column] := by
      intro u
      simp [extended, hread]
    rw [hext, hext, marked_extended_swap hcolumn]
    exact .refl _
  · exact alike_addKey_swap hread (hfree (by simp [declaresKeyOn, hread]))

/-! ## Statements -/

theorem hasColumn_extended (h : t.hasColumn column = true) (clause : List Token) :
    (t.extended clause).hasColumn column = true := by
  unfold extended
  split
  · rw [hasColumn_marked]
    exact h
  · exact h
  · split
    · exact h
    · rw [hasColumn_iff, DeclaredTable.addColumn, List.map_append, List.mem_append]
      exact Or.inl (hasColumn_iff.1 h)
  · exact h

theorem hasColumn_altered (h : t.hasColumn column = true) (action : List Token) :
    (t.altered action).hasColumn column = true := by
  unfold altered
  cases addition? action with
  | none => exact h
  | some clause => exact hasColumn_extended h clause

theorem hasColumn_foldl_altered (h : t.hasColumn column = true) (actions : List (List Token)) :
    (actions.foldl altered t).hasColumn column = true := by
  induction actions generalizing t with
  | nil => exact h
  | cons action actions ih => exact ih (hasColumn_altered h action)

/-- The key may be declared before or after the actions of an `ALTER TABLE`. -/
theorem alike_foldl_altered_swap (hkey : IsKeyOn column key) (hcolumn : t.hasColumn column = true)
    {actions : List (List Token)}
    (hfree : declaresKeyOn column key = true →
      ∀ action ∈ actions, ∀ clause, addition? action = some clause →
        declaresKeyOn column clause = false) :
    Alike (actions.foldl altered (t.extended key)) ((actions.foldl altered t).extended key) := by
  induction actions generalizing t with
  | nil => exact .refl _
  | cons action actions ih =>
    have hstep : Alike ((t.extended key).altered action) ((t.altered action).extended key) := by
      unfold altered
      cases hadd : addition? action with
      | none => exact .refl _
      | some clause =>
        exact alike_extended_swap hkey hcolumn fun hk =>
          hfree hk action (List.mem_cons_self ..) clause hadd
    have hrest := ih (hasColumn_altered hcolumn action) fun hk a ha =>
      hfree hk a (List.mem_cons_of_mem _ ha)
    exact (hstep.foldl_altered actions).trans hrest

end

/-- The statement declares a foreign key on the column of a table that is declared already. -/
def Statement.declaresKeyOn (table column : String) : Statement → Bool
  | alterTable name actions =>
    name == table && actions.any fun action => (addition? action).any (Sql.declaresKeyOn column)
  | _ => false

/-- There is a table of the name, and it has the column. -/
structure HasColumn (table column : String) (ts : List DeclaredTable) : Prop where
  mem : table ∈ ts.map (·.name)
  column : ∀ t ∈ ts, t.name = table → t.hasColumn column = true

variable {table column : String} {key : List Token} {ts us : List DeclaredTable}

theorem names_of_forall₂ {R : DeclaredTable → DeclaredTable → Prop}
    (hR : ∀ t u, R t u → t.name = u.name) (h : List.Forall₂ R ts us) :
    ts.map (·.name) = us.map (·.name) := by
  rw [← List.forall₂_eq_eq_eq, List.forall₂_map_left_iff, List.forall₂_map_right_iff]
  exact h.imp hR

theorem names_of_alike (h : List.Forall₂ Alike ts us) : ts.map (·.name) = us.map (·.name) :=
  names_of_forall₂ (fun _ _ => Alike.name) h

theorem alike_refl (ts : List DeclaredTable) : List.Forall₂ Alike ts ts :=
  List.forall₂_same.2 fun t _ => .refl t

theorem alike_trans {vs : List DeclaredTable} (h : List.Forall₂ Alike ts us)
    (h' : List.Forall₂ Alike us vs) : List.Forall₂ Alike ts vs := by
  induction h generalizing vs with
  | nil => exact h'
  | cons hhead _ ih =>
    cases h' with
    | cons hhead' htail' => exact .cons (hhead.trans hhead') (ih htail')

/-- Statements keep tables alike. -/
theorem alike_effect (h : List.Forall₂ Alike ts us) (s : Statement) :
    List.Forall₂ Alike (s.effect ts) (s.effect us) := by
  cases s with
  | createTable name body closed =>
    rw [Statement.effect, Statement.effect, names_of_alike h]
    split
    · exact h
    · exact List.rel_append h (alike_refl _)
  | nameless found => exact h
  | bodiless name => exact h
  | alterTable name actions =>
    rw [Statement.effect, Statement.effect, List.forall₂_map_left_iff, List.forall₂_map_right_iff]
    exact h.imp fun t u ht => ht.atName name (ht.foldl_altered actions)

theorem alike_foldl_effect (h : List.Forall₂ Alike ts us) (ss : List Statement) :
    List.Forall₂ Alike (ss.foldl (fun ts s => s.effect ts) ts)
      (ss.foldl (fun ts s => s.effect ts) us) := by
  induction ss generalizing ts us with
  | nil => exact h
  | cons s ss ih => exact ih (alike_effect h s)

/-- A column that is there stays there. -/
theorem HasColumn.effect (h : HasColumn table column ts) (s : Statement) :
    HasColumn table column (s.effect ts) := by
  cases s with
  | createTable name body closed =>
    rw [Statement.effect]
    split
    · exact h
    · rename_i hnew
      refine ⟨by simpa using Or.inl h.mem, fun t ht hname => ?_⟩
      rcases List.mem_append.1 ht with ht | ht
      · exact h.column t ht hname
      · rw [Option.mem_toList] at ht
        exact absurd h.mem (hname ▸ name_createdTable? ht ▸ hnew)
  | nameless found => exact h
  | bodiless name => exact h
  | alterTable name actions =>
    have hname : ∀ t : DeclaredTable, (actions.foldl altered t).name = t.name := fun t =>
      name_foldl_altered t actions
    rw [Statement.effect]
    refine ⟨by rw [Declarations.names_map_atName _ hname]; exact h.mem, fun t ht heq => ?_⟩
    obtain ⟨u, hu, rfl⟩ := List.mem_map.1 ht
    rw [name_atName hname] at heq
    have hcolumn := h.column u hu heq
    unfold atName
    split
    · exact hasColumn_foldl_altered hcolumn actions
    · exact hcolumn

/-- A key on a column that is there may be declared before or after a statement, unless that
declares another foreign key on the column. -/
theorem alike_effect_extended (h : HasColumn table column ts) (hkey : IsKeyOn column key)
    {s : Statement}
    (hfree : declaresKeyOn column key = true → s.declaresKeyOn table column = false) :
    List.Forall₂ Alike (s.effect (ts.map (atName table fun t => t.extended key)))
      ((s.effect ts).map (atName table fun t => t.extended key)) := by
  have hnames : (ts.map (atName table fun t => t.extended key)).map (·.name) = ts.map (·.name) :=
    Declarations.names_map_atName ts fun t => t.name_extended key
  cases s with
  | createTable name body closed =>
    rw [Statement.effect, Statement.effect, hnames]
    split
    · exact alike_refl _
    · rename_i hnew
      have hkeep : (createdTable? name body).toList.map (atName table fun t => t.extended key)
          = (createdTable? name body).toList := by
        refine (List.map_congr_left fun t ht => atName_of_ne _ ?_).trans (List.map_id _)
        rw [name_createdTable? (Option.mem_toList.1 ht)]
        rintro rfl
        exact hnew h.mem
      rw [List.map_append, hkeep]
      exact alike_refl _
  | nameless found => exact alike_refl _
  | bodiless name => exact alike_refl _
  | alterTable name actions =>
    rw [Statement.effect, Statement.effect, List.map_map, List.map_map,
      List.forall₂_map_left_iff, List.forall₂_map_right_iff, List.forall₂_same]
    intro t ht
    simp only [Function.comp_apply]
    by_cases htable : t.name = table
    · have hext : (t.extended key).name = t.name := t.name_extended key
      have hfold := name_foldl_altered t actions
      rw [atName_of_eq _ htable]
      by_cases hname : t.name = name
      · rw [atName_of_eq _ (hext.trans hname), atName_of_eq _ hname,
          atName_of_eq _ (hfold.trans htable)]
        refine alike_foldl_altered_swap hkey (h.column t ht htable) fun hk action ha clause hc => ?_
        have hnone := hfree hk
        rw [Statement.declaresKeyOn, ← htable, hname] at hnone
        simp only [beq_self_eq_true, Bool.true_and, List.any_eq_false] at hnone
        simpa [hc] using hnone action ha
      · rw [atName_of_ne _ (hext ▸ hname), atName_of_ne _ hname, atName_of_eq _ htable]
        exact .refl _
    · have hother : (atName name (fun u => actions.foldl altered u) t).name ≠ table := by
        rw [name_atName fun u => name_foldl_altered u actions]
        exact htable
      rw [atName_of_ne _ htable, atName_of_ne _ hother]
      exact .refl _

/-- A key on a column that is there may be declared before or after any statements that declare no
other foreign key on the column. -/
theorem alike_foldl_extended (h : HasColumn table column ts) (hkey : IsKeyOn column key)
    {ss : List Statement}
    (hfree : declaresKeyOn column key = true →
      ∀ s ∈ ss, s.declaresKeyOn table column = false) :
    List.Forall₂ Alike
      (ss.foldl (fun ts s => s.effect ts) (ts.map (atName table fun t => t.extended key)))
      ((ss.foldl (fun ts s => s.effect ts) ts).map (atName table fun t => t.extended key)) := by
  induction ss generalizing ts with
  | nil => exact alike_refl _
  | cons s ss ih =>
    have hstep := alike_effect_extended h hkey fun hk => hfree hk s (List.mem_cons_self ..)
    have hrest := ih (h.effect s) fun hk u hu => hfree hk u (List.mem_cons_of_mem _ hu)
    exact alike_trans (alike_foldl_effect hstep ss) hrest

end SchemaGraph.Sql
