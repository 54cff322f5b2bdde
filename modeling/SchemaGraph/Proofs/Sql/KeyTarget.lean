import Mathlib.Data.List.Forall2
import Mathlib.Data.List.Perm.Subperm
import SchemaGraph.Proofs.Sql.ExactReferences

/-!
# References to a primary key

A foreign key that names no columns of its target refers to the columns of the primary key, in the
order of the table. In which order the clause of the primary key names them is not kept. So it makes
no difference if the foreign key names them itself in the order of the table, and in any other order
it does (`readScript_keyTarget`).
-/

namespace SchemaGraph.Sql

open DeclaredTable

/-! ## The columns of a target, named or not -/

/-- The clauses are the same, or the second one names the columns `ks` of the table where the first
one names none. -/
inductive NamesTarget (table : String) (ks : ColumnList) : List Token → List Token → Prop where
  | same (clause : List Token) : NamesTarget table ks clause clause
  | named (f : ForeignKeyForm) (htable : f.table.name = table)
    (hlength : f.columns.names.length = ks.names.length) :
    NamesTarget table ks (f.tokens none) (f.tokens (some ks))

/-- The statements are the same, but for clauses that name the columns of the table. -/
inductive Statement.NamesTarget (table : String) (ks : ColumnList) :
    Statement → Statement → Prop where
  | same (s : Statement) : NamesTarget table ks s s
  | createTable (name : String) (closed : Bool) {body body' : List Token}
    (h : List.Forall₂ (Sql.NamesTarget table ks) (splitClauses body) (splitClauses body')) :
    NamesTarget table ks (.createTable name body closed) (.createTable name body' closed)
  | alterTable (name : String) {actions actions' : List (List Token)}
    (h : List.Forall₂ (fun action action' =>
      Option.Rel (Sql.NamesTarget table ks) (addition? action) (addition? action'))
      actions actions') :
    NamesTarget table ks (.alterTable name actions) (.alterTable name actions')

section
variable {table : String} {ks : ColumnList} {clause clause' : List Token}

/-- The clauses say the same, but for the columns of the target. -/
theorem NamesTarget.readClause (h : NamesTarget table ks clause clause') :
    readClause clause' = readClause clause ∨
      ∃ columns, Sql.readClause clause = .ok (.foreignKey columns ⟨table, []⟩) ∧
        Sql.readClause clause' = .ok (.foreignKey columns ⟨table, ks.names⟩) := by
  cases h with
  | same => exact Or.inl rfl
  | named f htable hlength =>
    refine Or.inr ⟨f.columns.names, ?_, ?_⟩
    · rw [f.readClause_tokens, ForeignKeyForm.said, htable]
    · rw [f.readClause_tokens, ForeignKeyForm.said, if_pos hlength.symm, htable]

end

/-! ## What two such scripts declare -/

/-- The keys are on the same columns, and have the same target unless the second one names its
columns. -/
structure KeyNamed (table : String) (names : List String) (key key' : KeyDeclaration) : Prop where
  columns : key.columns = key'.columns
  target : key.target = key'.target ∨ key.target = ⟨table, []⟩ ∧ key'.target = ⟨table, names⟩

/-- The tables are the same, but for keys that name the columns of their target. -/
structure KeysNamed (table : String) (names : List String) (t u : DeclaredTable) : Prop where
  name : t.name = u.name
  columns : t.columns = u.columns
  keys : List.Forall₂ (KeyNamed table names) t.keys u.keys

namespace KeysNamed

variable {table : String} {ks : ColumnList} {names : List String} {t u : DeclaredTable}
  {clause clause' : List Token}

theorem refl (t : DeclaredTable) : KeysNamed table names t t :=
  ⟨rfl, rfl, List.forall₂_same.2 fun _ _ => ⟨rfl, Or.inl rfl⟩⟩

theorem hasColumn (h : KeysNamed table names t u) : t.hasColumn = u.hasColumn := by
  funext name
  rw [DeclaredTable.hasColumn, DeclaredTable.hasColumn, h.columns]

theorem primaryKey (h : KeysNamed table names t u) : t.primaryKey = u.primaryKey := by
  rw [DeclaredTable.primaryKey, DeclaredTable.primaryKey, h.columns]

theorem marked (h : KeysNamed table names t u) (more : List String) :
    KeysNamed table names (t.marked more) (u.marked more) :=
  ⟨h.name, by rw [DeclaredTable.marked, h.columns]; rfl, h.keys⟩

theorem addKey (h : KeysNamed table names t u) {key key' : KeyDeclaration}
    (hkey : KeyNamed table names key key') :
    KeysNamed table names (t.addKey key.clause key.columns key.target)
      (u.addKey key'.clause key'.columns key'.target) :=
  ⟨h.name, h.columns, List.rel_append h.keys (.cons hkey .nil)⟩

theorem addColumn (h : KeysNamed table names t u) (i : Option Nat) (c : ColumnClause) :
    KeysNamed table names (t.addColumn i c) (u.addColumn i c) := by
  refine ⟨h.name, by simp [DeclaredTable.addColumn, h.columns], List.rel_append h.keys ?_⟩
  exact List.forall₂_same.2 fun _ _ => ⟨rfl, Or.inl rfl⟩

theorem extended (h : KeysNamed table ks.names t u) (hc : NamesTarget table ks clause clause') :
    KeysNamed table ks.names (t.extended clause) (u.extended clause') := by
  unfold DeclaredTable.extended
  rcases hc.readClause with hsame | ⟨columns, hread, hread'⟩
  · rw [hsame]
    split
    · exact h.marked _
    · rename_i columns target _
      exact @addKey _ _ _ _ h ⟨columns, target, none⟩ ⟨columns, target, none⟩ ⟨rfl, Or.inl rfl⟩
    · rw [h.hasColumn]
      split
      · exact h
      · exact h.addColumn none _
    · exact h
  · rw [hread, hread']
    exact @addKey _ _ _ _ h ⟨columns, ⟨table, []⟩, none⟩ ⟨columns, ⟨table, ks.names⟩, none⟩
      ⟨rfl, Or.inr ⟨rfl, rfl⟩⟩

theorem foldl_altered (h : KeysNamed table ks.names t u) {actions actions' : List (List Token)}
    (ha : List.Forall₂ (fun action action' =>
      Option.Rel (NamesTarget table ks) (addition? action) (addition? action')) actions actions') :
    KeysNamed table ks.names (actions.foldl altered t) (actions'.foldl altered u) := by
  induction ha generalizing t u with
  | nil => exact h
  | @cons action action' _ _ haction _ ih =>
    refine ih ?_
    unfold altered
    cases hadd : addition? action <;> cases hadd' : addition? action' <;>
      rw [hadd, hadd'] at haction
    · exact h
    · cases haction
    · cases haction
    · cases haction with
      | some hclause => exact h.extended hclause

end KeysNamed

/-- The bodies have read the same, but for keys that name the columns of their target. -/
structure Body.KeysNamed (table : String) (names : List String) (b b' : Body) : Prop where
  table : Sql.KeysNamed table names b.table b'.table
  primaryKeys : b.primaryKeys = b'.primaryKeys

namespace Body.KeysNamed

variable {table : String} {ks : ColumnList} {b b' : Body} {clause clause' : List Token}

theorem add (h : b.KeysNamed table ks.names b') (i : Nat)
    (hc : NamesTarget table ks clause clause') :
    (b.add i clause).KeysNamed table ks.names (b'.add i clause') := by
  unfold Body.add
  rcases hc.readClause with hsame | ⟨columns, hread, hread'⟩
  · rw [hsame]
    split
    · exact ⟨h.table, h.primaryKeys⟩
    · exact h
    · exact ⟨h.table, by rw [h.primaryKeys]⟩
    · rename_i columns target _
      exact ⟨@Sql.KeysNamed.addKey _ _ _ _ h.table ⟨columns, target, some i⟩
        ⟨columns, target, some i⟩ ⟨rfl, Or.inl rfl⟩, h.primaryKeys⟩
    · rw [h.table.hasColumn]
      split
      · exact ⟨h.table, h.primaryKeys⟩
      · exact ⟨h.table.addColumn (some i) _, h.primaryKeys⟩
  · rw [hread, hread']
    exact ⟨@Sql.KeysNamed.addKey _ _ _ _ h.table ⟨columns, ⟨table, []⟩, some i⟩
      ⟨columns, ⟨table, ks.names⟩, some i⟩ ⟨rfl, Or.inr ⟨rfl, rfl⟩⟩, h.primaryKeys⟩

theorem addAll (h : b.KeysNamed table ks.names b') (i : Nat) {clauses clauses' : List (List Token)}
    (hc : List.Forall₂ (NamesTarget table ks) clauses clauses') :
    (b.addAll i clauses).KeysNamed table ks.names (b'.addAll i clauses') := by
  induction hc generalizing b b' i with
  | nil => exact h
  | cons hclause _ ih => exact ih (h.add i hclause) (i + 1)

end Body.KeysNamed

section
variable {table : String} {ks : ColumnList} {ts us : List DeclaredTable} {ss ss' : List Statement}

theorem keysNamed_declareBody (name : String) {body body' : List Token}
    (h : List.Forall₂ (NamesTarget table ks) (splitClauses body) (splitClauses body')) :
    KeysNamed table ks.names (declareBody name body).1 (declareBody name body').1 := by
  have hempty : Body.KeysNamed table ks.names ⟨⟨name, [], []⟩, [], []⟩ ⟨⟨name, [], []⟩, [], []⟩ :=
    ⟨.refl _, rfl⟩
  have hbody := hempty.addAll 0 h
  rw [declareBody_eq, declareBody_eq, Body.result, Body.result, Body.marks, Body.marks,
    hbody.primaryKeys]
  exact hbody.table.marked _

/-- Statements keep the tables the same, but for keys that name the columns of their target. -/
theorem keysNamed_effect (h : List.Forall₂ (KeysNamed table ks.names) ts us) {s s' : Statement}
    (hs : Statement.NamesTarget table ks s s') :
    List.Forall₂ (KeysNamed table ks.names) (s.effect ts) (s'.effect us) := by
  have hcreate : ∀ (name : String) (closed : Bool) {body body' : List Token},
      List.Forall₂ (NamesTarget table ks) (splitClauses body) (splitClauses body') →
      List.Forall₂ (KeysNamed table ks.names) ((Statement.createTable name body closed).effect ts)
        ((Statement.createTable name body' closed).effect us) := by
    intro name closed body body' hbody
    rw [Statement.effect, Statement.effect, names_of_forall₂ (fun _ _ => KeysNamed.name) h]
    have hdeclared := keysNamed_declareBody name hbody
    split
    · exact h
    · refine List.rel_append h ?_
      simp only [createdTable?, hdeclared.columns]
      split
      · exact .nil
      · exact .cons hdeclared .nil
  have halter : ∀ (name : String) {actions actions' : List (List Token)},
      List.Forall₂ (fun action action' =>
        Option.Rel (NamesTarget table ks) (addition? action) (addition? action'))
        actions actions' →
      List.Forall₂ (KeysNamed table ks.names) ((Statement.alterTable name actions).effect ts)
        ((Statement.alterTable name actions').effect us) := by
    intro name actions actions' hactions
    rw [Statement.effect, Statement.effect, List.forall₂_map_left_iff, List.forall₂_map_right_iff]
    refine h.imp fun t u ht => ?_
    unfold atName
    rw [ht.name]
    split
    · exact ht.foldl_altered hactions
    · exact ht
  cases hs with
  | createTable name closed hbody => exact hcreate name closed hbody
  | alterTable name hactions => exact halter name hactions
  | same =>
    cases s with
    | createTable name body closed =>
      exact hcreate name closed (List.forall₂_same.2 fun clause _ => .same clause)
    | nameless found => exact h
    | bodiless name => exact h
    | alterTable name actions =>
      refine halter name (List.forall₂_same.2 fun action _ => ?_)
      cases addition? action with
      | none => exact .none
      | some clause => exact .some (.same clause)

theorem keysNamed_ofStatements (h : List.Forall₂ (Statement.NamesTarget table ks) ss ss') :
    List.Forall₂ (KeysNamed table ks.names) (Declarations.ofStatements ss).tables
      (Declarations.ofStatements ss').tables := by
  have hrun : ∀ {ts us : List DeclaredTable}, List.Forall₂ (KeysNamed table ks.names) ts us →
      List.Forall₂ (KeysNamed table ks.names) (ss.foldl (fun ts s => s.effect ts) ts)
        (ss'.foldl (fun ts s => s.effect ts) us) := by
    induction h with
    | nil => exact fun hts => hts
    | cons hs _ ih => exact fun hts => ih (keysNamed_effect hts hs)
  rw [Declarations.tables_ofStatements, Declarations.tables_ofStatements]
  exact hrun .nil

/-- It makes no difference to name the columns of the primary key in the order of the table. -/
theorem pairs_ofKey_of_keyNamed {names : List String}
    (h : List.Forall₂ (KeysNamed table names) ts us)
    (hprimary : ∀ t ∈ ts, t.name = table → t.primaryKey = names) {t u : DeclaredTable}
    (ht : KeysNamed table names t u) {key key' : KeyDeclaration}
    (hkey : KeyNamed table names key key') :
    (Attachment.ofKey ts t key).pairs = (Attachment.ofKey us u key').pairs := by
  have htable : key.target.table = key'.target.table := by
    rcases hkey.target with heq | ⟨heq, heq'⟩
    · rw [heq]
    · rw [heq, heq']
  rw [Attachment.ofKey, Attachment.ofKey, htable]
  rcases Attachment.find?_of_forall₂ (fun _ _ => KeysNamed.name) h key'.target.table with
    ⟨hnone, hnone'⟩ | ⟨target, target', hsome, hsome', htarget⟩
  · rw [hnone, hnone']
  · rw [hsome, hsome']
    refine Attachment.pairs_ofKeyTo_congr ht.hasColumn htarget.name htarget.hasColumn
      hkey.columns ?_
    rcases hkey.target with heq | ⟨heq, heq'⟩
    · rw [Attachment.targetColumns, Attachment.targetColumns, heq, htarget.primaryKey]
    · have hname : target.name = table := by
        have hfound := List.find?_some hsome
        rw [heq'] at hfound
        simpa using hfound
      have hnames := hprimary target (List.mem_of_find?_eq_some hsome) hname
      rw [Attachment.targetColumns, Attachment.targetColumns, heq, heq', ← htarget.primaryKey,
        hnames]
      simp

theorem definitions_of_keysNamed (d : Dialect) {names : List String}
    (h : List.Forall₂ (KeysNamed table names) ts us)
    (hprimary : ∀ t ∈ ts, t.name = table → t.primaryKey = names) :
    ts.map (resolveTable d ts) = us.map (resolveTable d us) := by
  rw [← List.forall₂_eq_eq_eq, List.forall₂_map_left_iff, List.forall₂_map_right_iff]
  refine h.imp fun t u ht => ?_
  have hpairs : (Attachment.ofTable ts t).pairs = (Attachment.ofTable us u).pairs := by
    rw [Attachment.pairs_ofTable, Attachment.pairs_ofTable]
    have hkeys := ht.keys
    generalize t.keys = keys at hkeys ⊢
    generalize u.keys = keys' at hkeys ⊢
    induction hkeys with
    | nil => rfl
    | cons hkey _ ih =>
      rw [List.flatMap_cons, List.flatMap_cons, ih, pairs_ofKey_of_keyNamed h hprimary ht hkey]
  rw [resolveTable, resolveTable, ht.name, ht.columns]
  refine congrArg _ (List.map_congr_left fun c _ => ?_)
  rw [resolveColumn, resolveColumn, Attachment.referenceOf_congr (congrArg _ hpairs)]

end

/-! ## The primary key of a table -/

/-- The primary keys that are declared by clauses of their own, with their positions. -/
def keyClauses (rs : List Reading) : List (Option Nat × List String) :=
  rs.filterMap fun r =>
    match readClause r.clause with
    | .ok (.primaryKey columns) => some (r.place, columns)
    | _ => none

/-- The clause defines a column that is marked as a primary key. -/
def isKeyColumn (clause : List Token) : Bool :=
  match readClause clause with
  | .ok (.column c) => c.primaryKey
  | _ => false

/-- The primary key of the table is given by one clause of its body, on the columns `names`, which
are columns of the body. -/
structure KeyGiven (names : List String) (rs : List Reading) : Prop where
  distinct : names.Nodup
  clause : ∃ i, keyClauses rs = [(some i, names)]
  columns : ∀ name ∈ names, ∃ r ∈ rs, r.place.isSome = true ∧ definesColumn name r.clause = true
  plain : ∀ r ∈ rs, isKeyColumn r.clause = false

/-- The columns `names` are columns of the table, and make up its primary key. -/
structure Keyed (names : List String) (t : DeclaredTable) : Prop where
  primaryKey : ∀ c ∈ t.columns, c.primaryKey = true ↔ c.name ∈ names
  columns : ∀ name ∈ names, t.hasColumn name = true

section
variable {names : List String} {rs : List Reading} {t : DeclaredTable}

theorem primaryKey_of_plain {clause : List Token} (h : isKeyColumn clause = false)
    {c : ColumnClause} (hread : readClause clause = .ok (.column c)) : c.primaryKey = false := by
  simpa [isKeyColumn, hread] using h

theorem marks_addAll (b : Body) (name : String) (kept : Bool) (i : Nat)
    (clauses : List (List Token)) :
    (b.addAll i clauses).marks
      = b.marks ++ (keyClauses (clauseReadings name kept i clauses)).flatMap (·.2) := by
  induction clauses generalizing b i with
  | nil => simp [Body.addAll, clauseReadings, keyClauses]
  | cons clause clauses ih =>
    have hreadings : clauseReadings name kept i (clause :: clauses)
        = ⟨name, some i, clause, clause, kept⟩ :: clauseReadings name kept (i + 1) clauses := rfl
    rw [Body.addAll, ih, hreadings, keyClauses, keyClauses, List.filterMap_cons]
    by_cases hread : ∃ columns, readClause clause = .ok (.primaryKey columns)
    · obtain ⟨columns, hread⟩ := hread
      rw [(Body.add_primaryKey hread b i).2]
      simp [hread]
    · rw [not_exists] at hread
      rw [(Body.add_other hread b i).2]
      split
      · rfl
      · rename_i hsome
        split at hsome
        · rename_i hkey
          exact absurd hkey (hread _)
        · cases hsome

/-- Without marks of their own, the columns of a body are not marked before it ends. -/
theorem plain_addAll {b : Body} (hb : ∀ c ∈ b.table.columns, c.primaryKey = false) (i : Nat)
    {clauses : List (List Token)} (h : ∀ clause ∈ clauses, isKeyColumn clause = false) :
    ∀ c ∈ (b.addAll i clauses).table.columns, c.primaryKey = false := by
  induction clauses generalizing b i with
  | nil => exact hb
  | cons clause clauses ih =>
    rw [List.forall_mem_cons] at h
    refine ih ?_ (i + 1) h.2
    unfold Body.add
    split
    · exact hb
    · exact hb
    · exact hb
    · exact hb
    · rename_i c hread
      split
      · exact hb
      · intro c' hc'
        rcases List.mem_append.1 hc' with hc' | hc'
        · exact hb c' hc'
        · rw [List.mem_singleton.1 hc']
          exact primaryKey_of_plain h.1 hread

theorem keyed_marked (hplain : ∀ c ∈ t.columns, c.primaryKey = false)
    (hcolumns : ∀ name ∈ names, t.hasColumn name = true) : Keyed names (t.marked names) := by
  refine ⟨fun c hc => ?_, fun name hname => ?_⟩
  · obtain ⟨c', hc', rfl⟩ := List.mem_map.1 hc
    split
    · rename_i hmem
      exact iff_of_true rfl hmem
    · rename_i hmem
      exact iff_of_false (by simp [hplain c' hc']) hmem
  · rw [hasColumn_marked]
    exact hcolumns name hname

/-- An addition without a mark leaves the primary key as it is: a column that it adds is new. -/
theorem Keyed.extended (h : Keyed names t) {clause : List Token}
    (hkey : ∀ columns, readClause clause ≠ .ok (.primaryKey columns))
    (hplain : isKeyColumn clause = false) : Keyed names (t.extended clause) := by
  refine ⟨?_, fun name hname => hasColumn_extended (h.columns name hname) clause⟩
  unfold DeclaredTable.extended
  split
  · rename_i hread
    exact absurd hread (hkey _)
  · exact h.primaryKey
  · rename_i c hread
    split
    · exact h.primaryKey
    · rename_i hnew
      intro c' hc'
      rcases List.mem_append.1 hc' with hc' | hc'
      · exact h.primaryKey c' hc'
      · rw [List.mem_singleton.1 hc']
        exact iff_of_false (by simp [primaryKey_of_plain hplain hread])
          fun hmem => hnew (h.columns _ hmem)
  · exact h.primaryKey

theorem Keyed.foldl_extended (h : Keyed names t) {added : List Reading}
    (hkey : keyClauses added = []) (hplain : ∀ r ∈ added, isKeyColumn r.clause = false) :
    Keyed names ((added.map (·.clause)).foldl DeclaredTable.extended t) := by
  induction added generalizing t with
  | nil => exact h
  | cons r added ih =>
    rw [List.forall_mem_cons] at hplain
    rw [keyClauses, List.filterMap_eq_nil_iff, List.forall_mem_cons,
      ← List.filterMap_eq_nil_iff] at hkey
    refine ih (h.extended (fun columns hread => ?_) hplain.1) hkey.2 hplain.2
    have hnone := hkey.1
    rw [hread] at hnone
    cases hnone

/-- The one clause stands in the body, so no addition has another. -/
theorem keyClauses_split {body added : List Reading} {i : Nat}
    (h : keyClauses (body ++ added) = [(some i, names)]) (hadded : ∀ r ∈ added, r.place = none) :
    keyClauses body = [(some i, names)] ∧ keyClauses added = [] := by
  have happend : keyClauses body ++ keyClauses added = [(some i, names)] := by
    rw [← h, keyClauses, keyClauses, keyClauses, List.filterMap_append]
  rcases List.append_eq_singleton_iff.1 happend with ⟨hbody, hrest⟩ | hsplit
  · have hmem : (some i, names) ∈ keyClauses added := by rw [hrest]; simp
    obtain ⟨r, hr, hread⟩ := List.mem_filterMap.1 hmem
    split at hread
    · rw [Option.some.injEq, Prod.mk.injEq, hadded r hr] at hread
      cases hread.1
    · cases hread
  · exact hsplit

theorem exists_bodyReading (name : String) {body clause : List Token}
    (h : clause ∈ splitClauses body) : ∃ r ∈ bodyReadings name body, r.clause = clause := by
  obtain ⟨j, hj, hget⟩ := List.mem_iff_getElem.1 h
  refine ⟨⟨name, some j, clause, clause, makesTable body⟩,
    List.mem_map.2 ⟨(clause, j), ?_, rfl⟩, rfl⟩
  rw [List.mk_mem_zipIdx_iff_getElem?]
  exact List.getElem?_eq_some_iff.2 ⟨hj, hget⟩

/-- A body with one clause about the primary key declares a table with that primary key. -/
theorem keyed_declareBody {name : String} {body : List Token} {i : Nat}
    (hkey : keyClauses (bodyReadings name body) = [(some i, names)])
    (hplain : ∀ r ∈ bodyReadings name body, isKeyColumn r.clause = false)
    (hcolumns : ∀ column ∈ names, (declareBody name body).1.hasColumn column = true) :
    Keyed names (declareBody name body).1 := by
  have hclauses : ∀ clause ∈ splitClauses body, isKeyColumn clause = false := by
    intro clause hclause
    obtain ⟨r, hr, rfl⟩ := exists_bodyReading name hclause
    exact hplain r hr
  have hmarks : (Body.addAll ⟨⟨name, [], []⟩, [], []⟩ 0 (splitClauses body)).marks = names := by
    rw [marks_addAll _ name (makesTable body), ← bodyReadings, hkey]
    simp [Body.marks]
  have hall := plain_addAll (b := ⟨⟨name, [], []⟩, [], []⟩) (by simp) 0 hclauses
  rw [declareBody_eq, Body.hasColumn_result] at hcolumns
  rw [declareBody_eq, Body.result, hmarks]
  exact keyed_marked hall hcolumns

/-- The table that is built from such clauses has that primary key. -/
theorem Built.keyed (hbuilt : Built rs t) (h : KeyGiven names rs) : Keyed names t := by
  obtain ⟨body, added, -, hreadings, hadded, htable⟩ := hbuilt
  obtain ⟨hdistinct, ⟨i, hclause⟩, hcolumns, hplain⟩ := h
  rw [hreadings] at hclause hplain hcolumns
  obtain ⟨hbody, hrest⟩ := keyClauses_split hclause hadded
  have hdeclared : Keyed names (declareBody t.name body).1 := by
    refine keyed_declareBody hbody (fun r hr => hplain r (List.mem_append_left _ hr)) ?_
    intro name hname
    obtain ⟨r, hr, hplace, hdefines⟩ := hcolumns name hname
    rw [(follows_declareBody t.name body).columns, List.any_eq_true]
    rcases List.mem_append.1 hr with hr | hr
    · exact ⟨r, hr, hdefines⟩
    · rw [hadded r hr] at hplace
      cases hplace
  rw [htable]
  exact hdeclared.foldl_extended hrest fun r hr => hplain r (List.mem_append_right _ hr)

/-- The columns of the primary key come in the order of the table. -/
theorem Keyed.primaryKey_eq (h : Keyed names t) :
    t.primaryKey = (t.columns.map (·.name)).filter fun name => decide (name ∈ names) := by
  rw [DeclaredTable.primaryKey, List.filter_map]
  refine congrArg _ (List.filter_congr fun c hc => ?_)
  rw [Bool.eq_iff_iff, h.primaryKey c hc]
  simp

theorem Keyed.perm (h : Keyed names t) (ht : (t.columns.map (·.name)).Nodup)
    (hnames : names.Nodup) : t.primaryKey.Perm names := by
  rw [h.primaryKey_eq, List.perm_ext_iff_of_nodup (ht.filter _) hnames]
  intro name
  rw [List.mem_filter, decide_eq_true_eq, and_iff_right_iff_imp]
  exact fun hname => hasColumn_iff.1 (h.columns name hname)

/-- They are named in the order of the table only if they are named as they come there. -/
theorem Keyed.eq_primaryKey_iff (h : Keyed names t) (ht : (t.columns.map (·.name)).Nodup)
    (hnames : names.Nodup) {ks : List String} (hks : ks.Perm names) :
    ks = t.primaryKey ↔ ks.Sublist (t.columns.map (·.name)) := by
  constructor
  · intro heq
    rw [heq, h.primaryKey_eq]
    exact List.filter_sublist
  · intro hsub
    have hfilter := hsub.filter fun name => decide (name ∈ names)
    have hall : ks.filter (fun name => decide (name ∈ names)) = ks :=
      List.filter_eq_self.2 fun k hk => decide_eq_true (hks.subset hk)
    rw [← h.primaryKey_eq, hall] at hfilter
    exact hfilter.eq_of_length (hks.trans (h.perm ht hnames).symm).length_eq

end

/-! ## Whole texts -/

section
variable {table : String} {ks : ColumnList} {names : List String} {ss ss' : List Statement}

/-- Nothing is read of a script that creates no tables. -/
theorem readings_eq_nil (h : ss.countP (·.creates) = 0) : readings [] ss = [] := by
  induction ss with
  | nil => rfl
  | cons s ss ih =>
    rw [List.countP_eq_zero, List.forall_mem_cons, ← List.countP_eq_zero] at h
    cases s with
    | alterTable name actions => exact ih h.2
    | _ => exact absurd rfl h.1

theorem countP_creates_eq (h : List.Forall₂ (Statement.NamesTarget table ks) ss ss') :
    ss.countP (·.creates) = ss'.countP (·.creates) := by
  induction h with
  | nil => rfl
  | cons hs _ ih =>
    rw [List.countP_cons, List.countP_cons, ih]
    cases hs <;> rfl

/-- The table whose primary key is given is one of the script. -/
theorem exists_keyed (h : KeyGiven names (readingsOf table (readings [] ss))) :
    ∃ t ∈ (Declarations.ofStatements ss).tables, t.name = table ∧ Keyed names t := by
  have hbuilt := builtFrom_ofStatements ss
  obtain ⟨i, hclause⟩ := h.clause
  have hmem : (some i, names) ∈ keyClauses (readingsOf table (readings [] ss)) := by
    rw [hclause]
    simp
  obtain ⟨r, hr, -⟩ := List.mem_filterMap.1 hmem
  obtain ⟨hr, hkept⟩ := List.mem_filter.1 hr
  rw [Bool.and_eq_true, beq_iff_eq] at hkept
  obtain ⟨t, ht, hname⟩ := List.mem_map.1 (hbuilt.known r hr hkept.1)
  rw [hkept.2] at hname
  refine ⟨t, ht, hname, (hbuilt.built t ht).keyed ?_⟩
  rwa [hname]

end

/-- **A reference without columns means the primary key in the order of its table.** Two texts are
the same but for foreign keys that refer to a table without columns in the first one, and name the
columns `ks` in the second; these are the columns of its primary key, which is given by one clause
of its body. Both are read. If `ks` comes in the order of the table, the tables are the same. In
any other order they are not, as long as one of the foreign keys is the last one on its columns. -/
theorem readScript_keyTarget {d : Dialect} {text text' : String} {ss ss' : List Statement}
    (hread : statements (tokens d.backslashEscapes text.toList) = ss)
    (hread' : statements (tokens d.backslashEscapes text'.toList) = ss')
    {table : String} {names : List String} {ks : ColumnList}
    (hkey : KeyGiven names (readingsOf table (readings [] ss))) (hks : ks.names.Perm names)
    (h : List.Forall₂ (Statement.NamesTarget table ks) ss ss') :
    ∃ script script' r, readScript d text = .ok script ∧ readScript d text' = .ok script' ∧
      r ∈ script.definitions ∧ r.name = table ∧ (keyColumns r).Perm names ∧
      (ks.names.Sublist (r.columns.map (·.name)) → script.definitions = script'.definitions) ∧
      ∀ s ∈ script.definitions, ∀ columns : List String, columns.Nodup →
        columns ⊆ s.columns.map (·.name) → columns.length = ks.names.length →
        DeclaresLast (readings [] ss) s.name columns ⟨table, []⟩ →
        DeclaresLast (readings [] ss') s.name columns ⟨table, ks.names⟩ →
        (script.definitions = script'.definitions ↔
          ks.names.Sublist (r.columns.map (·.name))) := by
  have hcount : ss.countP (·.creates) ≠ 0 := by
    intro hzero
    obtain ⟨i, hclause⟩ := hkey.clause
    rw [readings_eq_nil hzero] at hclause
    cases hclause
  have hcount' : ss'.countP (·.creates) ≠ 0 := countP_creates_eq h ▸ hcount
  obtain ⟨t, ht, hname, hkeyed⟩ := exists_keyed hkey
  have hproper := proper_declarations d text
  rw [hread] at hproper
  have hnodup := (hproper.table t ht).distinct
  have honly : ∀ u ∈ (Declarations.ofStatements ss).tables, u.name = table → u = t :=
    fun u hu htable => List.inj_on_of_nodup_map hproper.distinct hu ht (htable.trans hname.symm)
  have hperm := hkeyed.perm hnodup hkey.distinct
  have hiff := hkeyed.eq_primaryKey_iff hnodup hkey.distinct hks
  have hsame : ks.names = t.primaryKey →
      (Script.ofStatements d ss).definitions = (Script.ofStatements d ss').definitions := by
    intro horder
    refine definitions_of_keysNamed d (keysNamed_ofStatements h) fun u hu htable => ?_
    rw [honly u hu htable, horder]
  have hmem : ∀ name ∈ names, name ∈
      (resolveTable d (Declarations.ofStatements ss).tables t).columns.map (·.name) := by
    intro name hn
    rw [names_resolveTable]
    exact hasColumn_iff.1 (hkeyed.columns name hn)
  have hr : (Script.ofStatements d ss).definitions.find? (fun u => u.name == table)
      = some (resolveTable d (Declarations.ofStatements ss).tables t) := by
    have hfind := (find?_key_eq_some DeclaredTable.name hproper.distinct).2 ⟨ht, hname⟩
    exact List.find?_map.trans (congrArg (Option.map _) hfind)
  refine ⟨_, _, resolveTable d (Declarations.ofStatements ss).tables t,
    readScript_of_countP hread hcount, readScript_of_countP hread' hcount',
    List.mem_map_of_mem ht, hname, ?_, ?_, ?_⟩
  · rw [keyColumns_resolve]
    exact hperm
  · rw [names_resolveTable, ← hiff]
    exact hsame
  · intro s hs columns hcolumns hsub hlength hlast hlast'
    rw [names_resolveTable, ← hiff]
    refine ⟨fun heq => ?_, hsame⟩
    have hlength' : t.primaryKey.length = columns.length := by
      rw [hperm.length_eq, ← hks.length_eq, hlength]
    have hexact := exactReferences_ofStatements d ss
    exact (hexact.targets_eq (exactReferences_ofStatements d ss') heq hs hlast hlast' hcolumns
      hsub hr hr (keyColumns_resolve d _ t) rfl hlength' hlength.symm
      (fun x hx => hmem x (hperm.subset hx)) fun x hx => hmem x (hks.subset hx)).symm

/-! ## A key that is not in the order of its table -/

/-- The key `(x, y)` of the table `pairs`, which refers to `plane.points`. -/
def pairsKey : ForeignKeyForm where
  constraint := none
  columns := ⟨⟨.word "x", "x", rfl⟩, [⟨.word "y", "y", rfl⟩]⟩
  table := ⟨[.word "plane"], .word "points", "points", by decide, rfl⟩
  rest := [.keyword .on, .word "DELETE", .word "CASCADE"]
  rest_noDot := by simp
  rest_noParen := by simp

/-- A table whose primary key is declared in another order than its columns, and a table that refers
to it. -/
def pairsStatements (target : Option ColumnList) : List Statement :=
  [.createTable "points" [.word "a", .word "INT", .comma, .word "b", .word "INT", .comma,
      .keyword .primary, .keyword .key, .leftParen, .word "b", .comma, .word "a", .rightParen] true,
    .createTable "pairs" ([.word "x", .word "INT", .comma, .word "y", .word "INT", .comma]
      ++ pairsKey.tokens target) true]

/-- The columns in the order of the clause. -/
def clauseOrder : ColumnList := ⟨⟨.word "b", "b", rfl⟩, [⟨.word "a", "a", rfl⟩]⟩

/-- The columns in the order of the table. -/
def tableOrder : ColumnList := ⟨⟨.word "a", "a", rfl⟩, [⟨.word "b", "b", rfl⟩]⟩

def bareText : String :=
  "CREATE TABLE points (a INT, b INT, PRIMARY KEY (b, a));
  CREATE TABLE pairs (x INT, y INT,
    FOREIGN KEY (x, y) REFERENCES plane.points ON DELETE CASCADE)"

def clauseOrderText : String :=
  "CREATE TABLE points (a INT, b INT, PRIMARY KEY (b, a));
  CREATE TABLE pairs (x INT, y INT,
    FOREIGN KEY (x, y) REFERENCES plane.points (b, a) ON DELETE CASCADE)"

def tableOrderText : String :=
  "CREATE TABLE points (a INT, b INT, PRIMARY KEY (b, a));
  CREATE TABLE pairs (x INT, y INT,
    FOREIGN KEY (x, y) REFERENCES plane.points (a, b) ON DELETE CASCADE)"

theorem keyGiven_points :
    KeyGiven ["b", "a"] (readingsOf "points" (readings [] (pairsStatements none))) where
  distinct := by decide
  clause := ⟨2, by decide +kernel⟩
  columns := by decide +kernel
  plain := by decide +kernel

theorem namesTarget_pairs {ks : ColumnList} (hlength : 2 = ks.names.length)
    (hsplit : splitClauses ([.word "x", .word "INT", .comma, .word "y", .word "INT", .comma]
        ++ pairsKey.tokens (some ks))
      = [[.word "x", .word "INT"], [.word "y", .word "INT"], pairsKey.tokens (some ks)]) :
    List.Forall₂ (Statement.NamesTarget "points" ks) (pairsStatements none)
      (pairsStatements (some ks)) := by
  refine .cons (.same _) (.cons (.createTable _ _ ?_) .nil)
  have hbare : splitClauses ([.word "x", .word "INT", .comma, .word "y", .word "INT", .comma]
        ++ pairsKey.tokens none)
      = [[.word "x", .word "INT"], [.word "y", .word "INT"], pairsKey.tokens none] := by decide
  rw [hsplit, hbare]
  exact .cons (.same _) (.cons (.same _) (.cons (.named pairsKey rfl hlength) .nil))

/-- The tables are those of a key that names the columns in the order of the table, and not those of
a key that names them as the clause does. -/
theorem readScript_keyTarget_pairs :
    ∃ bare named other, readScript .standard bareText = .ok bare ∧
      readScript .standard clauseOrderText = .ok named ∧
      readScript .standard tableOrderText = .ok other ∧
      bare.definitions = other.definitions ∧ bare.definitions ≠ named.definitions := by
  have hbare : statements (tokens Dialect.standard.backslashEscapes bareText.toList)
      = pairsStatements none := by
    rw [bareText, String.toList_ofList]
    decide +kernel
  have hnamed : statements (tokens Dialect.standard.backslashEscapes clauseOrderText.toList)
      = pairsStatements (some clauseOrder) := by
    rw [clauseOrderText, String.toList_ofList]
    decide +kernel
  have hother : statements (tokens Dialect.standard.backslashEscapes tableOrderText.toList)
      = pairsStatements (some tableOrder) := by
    rw [tableOrderText, String.toList_ofList]
    decide +kernel
  have hread := @readScript_of_countP _ .standard bareText hbare (by decide)
  have hdefs : (Script.ofStatements .standard (pairsStatements none)).definitions
      = [⟨"points", [⟨"a", "INT", true, false, none⟩, ⟨"b", "INT", true, false, none⟩]⟩,
        ⟨"pairs", [⟨"x", "INT", false, false, some ⟨"points", "a"⟩⟩,
          ⟨"y", "INT", false, false, some ⟨"points", "b"⟩⟩]⟩] := by decide +kernel
  have hpoints : ∀ r ∈ (Script.ofStatements .standard (pairsStatements none)).definitions,
      r.name = "points" → r.columns.map (·.name) = ["a", "b"] := by
    rw [hdefs]
    decide
  have hpairs : DeclaresLast (readings [] (pairsStatements none)) "pairs" ["x", "y"]
      ⟨"points", []⟩ := ⟨[], some 2, [], by decide +kernel, by simp⟩
  have hpairs' : DeclaresLast (readings [] (pairsStatements (some clauseOrder))) "pairs" ["x", "y"]
      ⟨"points", ["b", "a"]⟩ := ⟨[], some 2, [], by decide +kernel, by simp⟩
  have hperm : tableOrder.names.Perm ["b", "a"] := .swap ..
  obtain ⟨bare, other, r, hbareRead, hotherRead, hr, hrname, -, hsame, -⟩ :=
    readScript_keyTarget hbare hother keyGiven_points hperm (namesTarget_pairs rfl (by decide))
  obtain ⟨bare', named, r', hbareRead', hnamedRead, hr', hrname', -, -, hiff⟩ :=
    @readScript_keyTarget _ _ _ _ _ hbare hnamed _ _ clauseOrder keyGiven_points (.refl _)
      (namesTarget_pairs rfl (by decide))
  rw [hread] at hbareRead hbareRead'
  cases hbareRead
  cases hbareRead'
  refine ⟨_, named, other, hread, hnamedRead, hotherRead, hsame ?_, fun heq => ?_⟩
  · rw [hpoints r hr hrname]
    exact .refl _
  · have hmem : (⟨"pairs", [⟨"x", "INT", false, false, some ⟨"points", "a"⟩⟩,
          ⟨"y", "INT", false, false, some ⟨"points", "b"⟩⟩]⟩ : TableDefinition)
        ∈ (Script.ofStatements .standard (pairsStatements none)).definitions := by
      rw [hdefs]
      decide
    have hsub := (hiff _ hmem ["x", "y"] (by decide) (by simp) rfl hpairs hpairs').1 heq
    rw [hpoints r' hr' hrname'] at hsub
    exact absurd hsub (by decide)

end SchemaGraph.Sql
