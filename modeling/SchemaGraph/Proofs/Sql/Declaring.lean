import Mathlib.Data.List.Nodup
import SchemaGraph.Proofs.Sql.Provenance
import SchemaGraph.Sql.Declared
import SchemaGraph.Sql.Dialect

/-!
# Declared tables are proper

Carrying out a statement keeps the tables proper: each has a name and at least one column, each
column stems from a clause of the script, no two columns of a table share a name, and no two tables
do (`Declarations.Proper`). Tables and columns are only ever added, and each addition is made only
after a look at what is there.
-/

namespace SchemaGraph.Sql

/-! ## Clauses -/

/-- The clause that an action of an `ALTER TABLE` adds. -/
def addition? : List Token → Option (List Token)
  | .keyword .add :: rest => some (Declarations.addedClause rest)
  | _ => none

theorem addition?_eq_none {action : List Token} (h : ∀ rest, action ≠ .keyword .add :: rest) :
    addition? action = none := by
  unfold addition?
  split
  · exact absurd rfl (h _)
  · rfl

/-- The clauses of a statement, which may define columns. -/
def Statement.clauses : Statement → List (List Token)
  | createTable _ body _ => splitClauses body
  | alterTable _ actions => actions.filterMap addition?
  | _ => []

/-- Some clause defines the column. -/
def DeclaredColumn.StemsFrom (clauses : List (List Token)) (c : DeclaredColumn) : Prop :=
  ∃ clause ∈ clauses, ∃ k, readClause clause = .ok (.column k) ∧ k.name = c.name ∧
    k.declared = c.declared

/-! ## Tables -/

namespace DeclaredTable

variable {clauses : List (List Token)}

/-- The columns stem from clauses, and no two share a name. -/
structure Sound (clauses : List (List Token)) (t : DeclaredTable) : Prop where
  origin : ∀ c ∈ t.columns, c.StemsFrom clauses
  distinct : (t.columns.map (·.name)).Nodup

/-- The table has a name and at least one column, and its columns are sound. -/
structure Proper (clauses : List (List Token)) (t : DeclaredTable) : Prop
    extends Sound clauses t where
  name : Text.allBlank t.name = false
  nonempty : t.columns ≠ []

variable {t u : DeclaredTable}

theorem not_mem_of_hasColumn {name : String} (h : t.hasColumn name = false) :
    name ∉ t.columns.map (·.name) := by
  rw [hasColumn, List.any_eq_false] at h
  intro hmem
  obtain ⟨c, hc, hname⟩ := List.mem_map.1 hmem
  exact h c hc (by simp [hname])

/-- The names of the columns, each with the declared type. -/
def labels (t : DeclaredTable) : List (String × String) :=
  t.columns.map fun c => (c.name, c.declared)

theorem names_eq (t : DeclaredTable) : t.columns.map (·.name) = t.labels.map Prod.fst := by
  rw [labels, List.map_map]
  rfl

/-- What matters is the names and the types of the columns. -/
theorem Sound.of_labels (h : t.Sound clauses) (heq : u.labels = t.labels) : u.Sound clauses := by
  refine ⟨fun c hc => ?_, by rw [names_eq, heq, ← names_eq]; exact h.distinct⟩
  have hmem : (c.name, c.declared) ∈ u.labels := List.mem_map.2 ⟨c, hc, rfl⟩
  rw [heq] at hmem
  obtain ⟨d, hd, hlabel⟩ := List.mem_map.1 hmem
  obtain ⟨hname, hdeclared⟩ := Prod.mk.inj hlabel
  obtain ⟨clause, hclause, k, hread, hk, hk'⟩ := h.origin d hd
  exact ⟨clause, hclause, k, hread, hk.trans hname, hk'.trans hdeclared⟩

theorem Proper.of_labels (h : t.Proper clauses) (hname : u.name = t.name)
    (heq : u.labels = t.labels) : u.Proper clauses := by
  refine ⟨h.toSound.of_labels heq, by rw [hname]; exact h.name, ?_⟩
  intro hnil
  rw [labels, hnil, List.map_nil] at heq
  exact h.nonempty (List.map_eq_nil_iff.1 heq.symm)

/-- A column of a new name may be added. -/
theorem Sound.addColumn (h : t.Sound clauses) (i : Option Nat) {clause : List Token}
    (hclause : clause ∈ clauses) {c : ColumnClause} (hread : readClause clause = .ok (.column c))
    (hnew : t.hasColumn c.name = false) : (t.addColumn i c).Sound clauses := by
  refine ⟨fun d hd => ?_, ?_⟩
  · rcases List.mem_append.1 hd with hd | hd
    · exact h.origin d hd
    · rw [List.mem_singleton.1 hd]
      exact ⟨clause, hclause, c, hread, rfl, rfl⟩
  · rw [DeclaredTable.addColumn, List.map_append, List.map_singleton, ← List.concat_eq_append]
    exact h.distinct.concat (not_mem_of_hasColumn hnew)

theorem Proper.addColumn (h : t.Proper clauses) (i : Option Nat) {clause : List Token}
    (hclause : clause ∈ clauses) {c : ColumnClause} (hread : readClause clause = .ok (.column c))
    (hnew : t.hasColumn c.name = false) : (t.addColumn i c).Proper clauses :=
  ⟨h.toSound.addColumn i hclause hread hnew, h.name, by simp [DeclaredTable.addColumn]⟩

theorem labels_markPrimaryKey (t : DeclaredTable) (name : String) :
    (t.markPrimaryKey name).labels = t.labels := by
  rw [labels, markPrimaryKey, List.map_map]
  refine List.map_congr_left fun c _ => ?_
  rw [Function.comp_apply]
  split <;> rfl

end DeclaredTable

/-- A primary key changes neither names nor types. -/
theorem applyPrimaryKey_spec (clause : Option Nat) (t : DeclaredTable) (columns : List String) :
    (applyPrimaryKey clause t columns).1.name = t.name ∧
      (applyPrimaryKey clause t columns).1.labels = t.labels := by
  induction columns generalizing t with
  | nil => exact ⟨rfl, rfl⟩
  | cons name columns ih =>
    rw [applyPrimaryKey]
    split
    · obtain ⟨hname, hlabels⟩ := ih (t.markPrimaryKey name)
      exact ⟨hname, hlabels.trans (t.labels_markPrimaryKey name)⟩
    · exact ih t

theorem applyPrimaryKeys_spec (t : DeclaredTable) (keys : List (Nat × List String)) :
    (applyPrimaryKeys t keys).1.name = t.name ∧
      (applyPrimaryKeys t keys).1.labels = t.labels := by
  induction keys generalizing t with
  | nil => exact ⟨rfl, rfl⟩
  | cons key keys ih =>
    obtain ⟨i, columns⟩ := key
    obtain ⟨hname, hlabels⟩ := ih (applyPrimaryKey (some i) t columns).1
    obtain ⟨hname', hlabels'⟩ := applyPrimaryKey_spec (some i) t columns
    exact ⟨hname.trans hname', hlabels.trans hlabels'⟩

/-! ## Bodies -/

section
variable {clauses : List (List Token)}

/-- A clause adds at most a column of a new name. -/
theorem Body.add_sound {b : Body} (hb : b.table.Sound clauses) (i : Nat) {clause : List Token}
    (h : clause ∈ clauses) :
    (b.add i clause).table.name = b.table.name ∧ (b.add i clause).table.Sound clauses := by
  unfold Body.add
  split
  · exact ⟨rfl, hb⟩
  · exact ⟨rfl, hb⟩
  · exact ⟨rfl, hb⟩
  · exact ⟨rfl, hb.of_labels rfl⟩
  · rename_i c hread
    split
    · exact ⟨rfl, hb⟩
    · rename_i hnew
      exact ⟨rfl, hb.addColumn _ h hread (by simpa using hnew)⟩

theorem Body.addAll_sound {b : Body} (hb : b.table.Sound clauses) (i : Nat)
    {body : List (List Token)} (h : body ⊆ clauses) :
    (b.addAll i body).table.name = b.table.name ∧ (b.addAll i body).table.Sound clauses := by
  induction body generalizing b i with
  | nil => exact ⟨rfl, hb⟩
  | cons clause body ih =>
    rw [List.cons_subset] at h
    obtain ⟨hname, hsound⟩ := Body.add_sound hb i h.1
    obtain ⟨hname', hsound'⟩ := ih hsound (i + 1) h.2
    exact ⟨hname'.trans hname, hsound'⟩

/-- The table of a body has the name of the statement, and sound columns. -/
theorem declareBody_sound (name : String) {body : List Token} (h : splitClauses body ⊆ clauses) :
    (declareBody name body).1.name = name ∧ (declareBody name body).1.Sound clauses := by
  have hempty : DeclaredTable.Sound clauses ⟨name, [], []⟩ := ⟨by simp, by simp⟩
  obtain ⟨hname, hsound⟩ := Body.addAll_sound (b := ⟨⟨name, [], []⟩, [], []⟩) hempty 0 h
  unfold declareBody
  dsimp only
  obtain ⟨hname', hlabels⟩ := applyPrimaryKeys_spec
    (Body.addAll ⟨⟨name, [], []⟩, [], []⟩ 0 (splitClauses body)).table
    (Body.addAll ⟨⟨name, [], []⟩, [], []⟩ 0 (splitClauses body)).primaryKeys
  exact ⟨hname'.trans hname, hsound.of_labels hlabels⟩

end

/-! ## Statements -/

namespace Declarations

/-- The tables are proper, and no two share a name. -/
structure Proper (clauses : List (List Token)) (d : Declarations) : Prop where
  table : ∀ t ∈ d.tables, t.Proper clauses
  distinct : (d.tables.map (·.name)).Nodup

variable {clauses : List (List Token)} {d : Declarations}

theorem proper_empty : Proper clauses empty := ⟨by simp [empty], by simp [empty]⟩

/-- Reports change no tables. -/
theorem Proper.report (h : d.Proper clauses) (reports : List Diagnostic) :
    (d.report reports).Proper clauses :=
  ⟨h.table, h.distinct⟩

theorem names_put (d : Declarations) (t : DeclaredTable) :
    (d.put t).tables.map (·.name) = d.tables.map (·.name) := by
  rw [put, List.map_map]
  refine List.map_congr_left fun u _ => ?_
  rw [Function.comp_apply]
  split
  · rename_i hname
    exact hname.symm
  · rfl

theorem Proper.put (h : d.Proper clauses) {t : DeclaredTable} (ht : t.Proper clauses) :
    (d.put t).Proper clauses := by
  refine ⟨fun u hu => ?_, by rw [names_put]; exact h.distinct⟩
  obtain ⟨v, hv, rfl⟩ := List.mem_map.1 hu
  split
  · exact ht
  · exact h.table v hv

theorem mem_of_table? {name : String} {t : DeclaredTable} (h : d.table? name = some t) :
    t ∈ d.tables := List.mem_of_find?_eq_some h

theorem not_mem_of_table? {name : String} (h : d.table? name = none) :
    name ∉ d.tables.map (·.name) := by
  rw [table?, List.find?_eq_none] at h
  intro hmem
  obtain ⟨t, ht, hname⟩ := List.mem_map.1 hmem
  exact h t ht (by simp [hname])

/-- Only a table of a new name with at least one column is added. -/
theorem Proper.create (h : d.Proper clauses) {name : String}
    (hname : Text.allBlank name = false) {body : List Token}
    (hbody : splitClauses body ⊆ clauses) (closed : Bool) :
    (d.create name body closed).Proper clauses := by
  obtain ⟨htable, hsound⟩ := declareBody_sound name hbody
  unfold Declarations.create
  extract_lets d'
  have hd' : d'.Proper clauses := by
    unfold d'
    split
    · exact h
    · exact h.report _
  split
  · exact hd'.report _
  · rename_i hnone
    dsimp only
    split
    · exact (hd'.report _).report _
    · rename_i hcolumns
      refine ⟨fun t ht => ?_, ?_⟩
      · rcases List.mem_append.1 ht with ht | ht
        · exact hd'.table t ht
        · rw [List.mem_singleton.1 ht]
          exact ⟨hsound, by rw [htable]; exact hname, by simpa using hcolumns⟩
      · rw [List.map_append, List.map_singleton, htable, ← List.concat_eq_append]
        exact hd'.distinct.concat (not_mem_of_table? hnone)

theorem Proper.extend (h : d.Proper clauses) {t : DeclaredTable} (ht : t ∈ d.tables)
    (action : List Token) {clause : List Token} (hclause : clause ∈ clauses) :
    (d.extend t action clause).Proper clauses := by
  have hproper := h.table t ht
  unfold Declarations.extend
  split
  · exact h.report _
  · exact h
  · rename_i columns _
    obtain ⟨hname, hlabels⟩ := applyPrimaryKey_spec none t columns
    exact (h.put (hproper.of_labels hname hlabels)).report _
  · exact h.put (hproper.of_labels rfl rfl)
  · rename_i c hread
    split
    · exact h.report _
    · rename_i hnew
      exact h.put (hproper.addColumn none hclause hread (by simpa using hnew))

theorem Proper.alter (h : d.Proper clauses) (name : String) {action : List Token}
    (haction : ∀ clause, addition? action = some clause → clause ∈ clauses) :
    (d.alter name action).Proper clauses := by
  unfold Declarations.alter
  split
  · split
    · exact h.report _
    · rename_i t htable
      exact h.extend (mem_of_table? htable) _ (haction _ rfl)
  · exact h

/-- Every statement keeps the tables proper. -/
theorem Proper.carryOut (h : d.Proper clauses) {s : Statement} (hs : s.MadeOf Token.Lexed)
    (hclauses : s.clauses ⊆ clauses) : (d.carryOut s).Proper clauses := by
  cases s with
  | createTable name body closed =>
    obtain ⟨⟨t, ht, hname⟩, -⟩ := hs
    exact h.create (allBlank_of_name? ht hname) hclauses closed
  | nameless found => exact h.report _
  | bodiless name => exact h.report _
  | alterTable name actions =>
    have hactions : ∀ action ∈ actions, ∀ clause, addition? action = some clause →
        clause ∈ clauses := fun action haction clause hclause =>
      hclauses (List.mem_filterMap.2 ⟨action, haction, hclause⟩)
    clear hs hclauses
    rw [Declarations.carryOut]
    induction actions generalizing d with
    | nil => exact h
    | cons action actions ih =>
      rw [List.forall_mem_cons] at hactions
      rw [List.foldl_cons]
      exact ih (h.alter name hactions.1) hactions.2

/-- What statements declare is proper, in whatever order they come. -/
theorem proper_ofStatements {ss : List Statement} (h : ∀ s ∈ ss, s.MadeOf Token.Lexed) :
    (ofStatements ss).Proper (ss.flatMap (·.clauses)) := by
  have hfold : ∀ {us : List Statement} {d : Declarations}, us ⊆ ss →
      d.Proper (ss.flatMap (·.clauses)) →
      (us.foldl carryOut d).Proper (ss.flatMap (·.clauses)) := by
    intro us
    induction us with
    | nil => exact fun _ hd => hd
    | cons s us ih =>
      intro d hsub hd
      rw [List.cons_subset] at hsub
      have hclauses : s.clauses ⊆ ss.flatMap (·.clauses) := fun clause hclause =>
        List.mem_flatMap.2 ⟨s, hsub.1, hclause⟩
      exact ih hsub.2 (hd.carryOut (h s hsub.1) hclauses)
  exact hfold (List.Subset.refl _) proper_empty

end Declarations

/-! ## The clauses of a text -/

/-- The clauses of a text that may define columns. -/
def columnClauses (d : Dialect) (text : String) : List (List Token) :=
  (statements (tokens d.backslashEscapes text.toList)).flatMap (·.clauses)

theorem addedClause_subset (ts : List Token) : Declarations.addedClause ts ⊆ ts := by
  unfold Declarations.addedClause
  split
  · split
    · exact List.subset_cons_self ..
    · exact List.Subset.refl _
  · exact List.Subset.refl _

theorem lexed_of_mem_clauses {s : Statement} (hs : s.MadeOf Token.Lexed) :
    ∀ clause ∈ s.clauses, ∀ t ∈ clause, t.Lexed := by
  intro clause hclause t ht
  cases s with
  | createTable name body closed => exact hs.2 t (splitClauses_subset body clause hclause ht)
  | nameless found => cases hclause
  | bodiless name => cases hclause
  | alterTable name actions =>
    obtain ⟨action, haction, hadd⟩ := List.mem_filterMap.1 hclause
    unfold addition? at hadd
    split at hadd
    · rename_i rest
      cases hadd
      exact hs.2 _ haction t (List.mem_cons_of_mem _ (addedClause_subset rest ht))
    · cases hadd

/-- The clauses of a text are made of what the lexer makes. -/
theorem lexed_of_mem_columnClauses {d : Dialect} {text : String} {clause : List Token}
    (h : clause ∈ columnClauses d text) : ∀ t ∈ clause, t.Lexed := by
  obtain ⟨s, hs, hclause⟩ := List.mem_flatMap.1 h
  exact lexed_of_mem_clauses (statements_lexed _ _ s hs) clause hclause

/-- The name that a clause gives to a column is not blank. -/
theorem allBlank_of_readClause {d : Dialect} {text : String} {clause : List Token}
    (h : clause ∈ columnClauses d text) {c : ColumnClause}
    (hread : readClause clause = .ok (.column c)) : Text.allBlank c.name = false := by
  obtain ⟨t, u, w, rest, rfl, hname, -, -⟩ := readClause_column hread
  exact allBlank_of_columnName? (lexed_of_mem_columnClauses h t (List.mem_cons_self ..)) hname

end SchemaGraph.Sql
