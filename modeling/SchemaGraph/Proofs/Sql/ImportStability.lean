import SchemaGraph.Proofs.Sql.CanonicalName
import SchemaGraph.Proofs.Sql.RoundTrip
import SchemaGraph.Proofs.Sql.Validity

/-!
# Writing and reading what was imported

Whatever was read from a script can be written again. It is read back unchanged exactly if its
types are canonical (`stable_iff_of_readScript`), and this is not always so: an alias is searched
for before the arguments of a type are dropped, and without them another one may occur.
-/

namespace SchemaGraph.Sql

/-! ## Types of clauses -/

/-- The clause, as that of a column, has a type that begins with a bare ASCII word. -/
def HasWordType (clause : List Token) : Prop :=
  ∃ name w rest, clause = name :: .word w :: rest ∧ ∀ c ∈ w.toList, c.toNat < 128

/-- No argument of the type hides a parenthesis. -/
def HasPlainArguments (clause : List Token) : Prop :=
  ∀ t ∈ argumentTokens 0 (clause.drop 2), t.hidesParen = false

/-- The property holds of all clauses of the text that are read as columns. -/
def EveryColumnClause (d : Dialect) (text : String) (P : List Token → Prop) : Prop :=
  ∀ clause ∈ columnClauses d text, ∀ k, readClause clause = .ok (.column k) → P clause

section
variable {d : Dialect} {text : String}

/-- The declared type of such a clause is a word with what follows it. -/
theorem declared_of_hasWordType {clause : List Token} (h : clause ∈ columnClauses d text)
    {k : ColumnClause} (hread : readClause clause = .ok (.column k)) (hword : HasWordType clause) :
    ∃ w, TypeWord w ∧ k.declared = w ++ (declaredTail 0 (clause.drop 2)).1 := by
  obtain ⟨name, w, rest, rfl, hascii⟩ := hword
  obtain ⟨t, u, v, more, heq, -, hv, hdeclared⟩ := readClause_column hread
  simp only [List.cons.injEq] at heq
  obtain ⟨-, rfl, rfl⟩ := heq
  cases hv
  have hlexed := lexed_of_mem_columnClauses h (.word w) (by simp) w rfl
  exact ⟨w, ⟨hlexed.1, hlexed.2, hascii⟩, hdeclared⟩

variable {script : Script}

theorem allBlank_typeName (h : readScript d text = .ok script)
    (hwords : EveryColumnClause d text HasWordType) {t : TableDefinition}
    (ht : t ∈ script.definitions) {c : Column} (hc : c ∈ t.columns) :
    Text.allBlank c.typeName = false := by
  obtain ⟨clause, hclause, k, hread, -, htype⟩ := clause_of_column h ht hc
  obtain ⟨w, hw, hdeclared⟩ := declared_of_hasWordType hclause hread (hwords clause hclause k hread)
  rw [htype, hdeclared]
  exact allBlank_normalizeType d hw _

/-- With plain arguments, the type of a clause can be read back, and it is canonical if the clause
keeps its name. -/
theorem typeName_of_clause (hwords : EveryColumnClause d text HasWordType)
    (hplain : EveryColumnClause d text HasPlainArguments) {clause : List Token}
    (hclause : clause ∈ columnClauses d text) {k : ColumnClause}
    (hread : readClause clause = .ok (.column k)) :
    IsTypeText (normalizeType d k.declared) ∧
      (isCanonical d (normalizeType d k.declared) = true ↔ KeepsName d k.declared) := by
  obtain ⟨w, hw, hdeclared⟩ := declared_of_hasWordType hclause hread (hwords clause hclause k hread)
  have harguments := hplain clause hclause k hread
  rw [hdeclared]
  exact ⟨isTypeText_normalizeType d hw harguments, isCanonical_normalizeType_iff d _⟩

theorem isTypeText_typeName (h : readScript d text = .ok script)
    (hwords : EveryColumnClause d text HasWordType)
    (hplain : EveryColumnClause d text HasPlainArguments) {t : TableDefinition}
    (ht : t ∈ script.definitions) {c : Column} (hc : c ∈ t.columns) : IsTypeText c.typeName := by
  obtain ⟨clause, hclause, k, hread, -, htype⟩ := clause_of_column h ht hc
  rw [htype]
  exact (typeName_of_clause hwords hplain hclause hread).1

/-- Some clause of the text defines the column, by a type that keeps its name. -/
def KeptByClause (d : Dialect) (text : String) (c : Column) : Prop :=
  ∃ clause ∈ columnClauses d text, ∃ k, readClause clause = .ok (.column k) ∧ k.name = c.name ∧
    c.typeName = normalizeType d k.declared ∧ KeepsName d k.declared

theorem isCanonical_typeName_iff (h : readScript d text = .ok script)
    (hwords : EveryColumnClause d text HasWordType)
    (hplain : EveryColumnClause d text HasPlainArguments) {t : TableDefinition}
    (ht : t ∈ script.definitions) {c : Column} (hc : c ∈ t.columns) :
    isCanonical d c.typeName = true ↔ KeptByClause d text c := by
  constructor
  · intro hcanonical
    obtain ⟨clause, hclause, k, hread, hname, htype⟩ := clause_of_column h ht hc
    rw [htype] at hcanonical
    exact ⟨clause, hclause, k, hread, hname, htype,
      (typeName_of_clause hwords hplain hclause hread).2.1 hcanonical⟩
  · rintro ⟨clause, hclause, k, hread, -, htype, hkeeps⟩
    rw [htype]
    exact (typeName_of_clause hwords hplain hclause hread).2.2 hkeeps

end

/-! ## Closed lists of tables -/

section
variable {ts : List TableDefinition}

/-- Closed tables can be read back if their types can. -/
theorem writable_of_closed (h : Closed ts)
    (htypes : ∀ t ∈ ts, ∀ c ∈ t.columns, IsTypeText c.typeName) : ∀ t ∈ ts, Writable t := by
  intro t ht
  have hproper := h.proper t ht
  refine ⟨hproper.name, hproper.columnName, htypes t ht, hproper.distinct, ?_⟩
  intro c hc r hr
  obtain ⟨u, hu, hname, k, hk, hcolumn⟩ := hasTarget_iff.1 (h.target t ht c hc r hr)
  exact ⟨hname ▸ (h.proper u hu).name, hcolumn ▸ (h.proper u hu).columnName k hk⟩

/-- A table with other types for its columns. -/
def retype (e : Dialect) (t : TableDefinition) : TableDefinition :=
  { t with columns := t.columns.map fun c => { c with typeName := normalizeType e c.typeName } }

/-- References of closed tables are kept, so only the types may change. -/
theorem reread_of_closed (e : Dialect) (h : Closed ts) {t : TableDefinition} (ht : t ∈ ts) :
    reread e ts t = retype e t := by
  rw [reread, retype]
  congr 1
  refine List.map_congr_left fun c hc => ?_
  have hkept : c.foreignKey.filter (hasTarget ts) = c.foreignKey := by
    cases hr : c.foreignKey with
    | none => rfl
    | some r => rw [Option.filter_some, if_pos (h.target t ht c hc r hr)]
  rw [rereadColumn, hkept]

theorem retype_eq_self_iff (e : Dialect) (t : TableDefinition) :
    retype e t = t ↔ ∀ c ∈ t.columns, isCanonical e c.typeName = true := by
  have hcolumn : ∀ c : Column,
      { c with typeName := normalizeType e c.typeName } = c ↔ isCanonical e c.typeName = true := by
    intro c
    rw [isCanonical, beq_iff_eq]
    constructor
    · exact fun h => congrArg Column.typeName h
    · intro h
      rw [h]
  have hlist : ∀ cs : List Column,
      (cs.map fun c => { c with typeName := normalizeType e c.typeName }) = cs ↔
        ∀ c ∈ cs, isCanonical e c.typeName = true := by
    intro cs
    induction cs with
    | nil => simp
    | cons c cs ih =>
      rw [List.map_cons, List.cons.injEq, hcolumn, ih, List.forall_mem_cons]
  rw [← hlist t.columns]
  constructor
  · exact fun h => congrArg TableDefinition.columns h
  · intro h
    rw [retype, h]

/-- The tables are written, and read back without reports as the same tables in some order. -/
def Stable (d : Dialect) (now : Instant) (ts : List TableDefinition) : Prop :=
  ∃ text script, writeScript d now ts = .ok text ∧ readScript d text = .ok script ∧
    script.diagnostics = [] ∧ script.definitions.Perm ts

/-- Closed tables with types that can be read back are stable exactly if the types are canonical. -/
theorem stable_iff_of_closed (d : Dialect) (now : Instant) (hne : ts ≠ []) (h : Closed ts)
    (htypes : ∀ t ∈ ts, ∀ c ∈ t.columns, IsTypeText c.typeName) :
    Stable d now ts ↔ ∀ t ∈ ts, ∀ c ∈ t.columns, isCanonical d c.typeName = true := by
  obtain ⟨text, script, hwrite, hread, hdefs, hreports⟩ :=
    readScript_writeScript d d now hne (writable_of_closed h htypes) h.distinct
  have hperm := perm_writingOrder ts
  have hcolumns : ∀ t ∈ writingOrder ts, t.columns.isEmpty = false := by
    intro t ht
    have hnonempty := h.nonempty t (hperm.mem_iff.1 ht)
    simpa using hnonempty
  have hall : (writingOrder ts).filter (fun t => !t.columns.isEmpty) = writingOrder ts := by
    rw [List.filter_eq_self]
    intro t ht
    rw [hcolumns t ht]
    rfl
  have hnone : (writingOrder ts).filter (fun t => t.columns.isEmpty) = [] := by
    rw [List.filter_eq_nil_iff]
    intro t ht
    rw [hcolumns t ht]
    exact Bool.false_ne_true
  have hdefs' : script.definitions = (writingOrder ts).map (retype d) := by
    rw [hdefs, hall]
    exact List.map_congr_left fun t ht => reread_of_closed d h (hperm.mem_iff.1 ht)
  constructor
  · rintro ⟨text', script', hwrite', hread', -, hsame⟩ t ht
    rw [hwrite, Except.ok.injEq] at hwrite'
    subst hwrite'
    rw [hread, Except.ok.injEq] at hread'
    subst hread'
    have hmem := hsame.mem_iff.2 ht
    rw [hdefs', List.mem_map] at hmem
    obtain ⟨u, hu, heq⟩ := hmem
    -- tables are told apart by their names, which do not change
    have hname : u.name = t.name := by
      rw [← heq]
      rfl
    have hut := List.inj_on_of_nodup_map h.distinct (hperm.mem_iff.1 hu) ht hname
    rw [hut] at heq
    exact (retype_eq_self_iff d t).1 heq
  · intro hcanonical
    refine ⟨text, script, hwrite, hread, ?_, ?_⟩
    · rw [hreports, hnone, List.map_nil]
    · have hself : (writingOrder ts).map (retype d) = writingOrder ts := by
        refine (List.map_congr_left fun t ht => ?_).trans (List.map_id _)
        exact (retype_eq_self_iff d t).2 (hcanonical t (hperm.mem_iff.1 ht))
      rw [hdefs', hself]
      exact hperm

end

/-! ## Imported tables -/

/-- **Import stability.** Let a text be read in which every type begins with a bare ASCII word, and
let it have tables. Then these can be written. If their types can be read back, the tables are read
back unchanged exactly if all types are canonical. If no argument hides a parenthesis, the types can
be read back, and the tables are read back unchanged exactly if each column is defined by a type in
which no alias comes to light when its arguments are dropped. -/
theorem stable_iff_of_readScript (d : Dialect) (now : Instant) {text : String} {script : Script}
    (h : readScript d text = .ok script) (hne : script.definitions ≠ [])
    (hwords : EveryColumnClause d text HasWordType) :
    (∃ again, writeScript d now script.definitions = .ok again) ∧
      ((∀ t ∈ script.definitions, ∀ c ∈ t.columns, IsTypeText c.typeName) →
        (Stable d now script.definitions ↔
          ∀ t ∈ script.definitions, ∀ c ∈ t.columns, isCanonical d c.typeName = true)) ∧
      (EveryColumnClause d text HasPlainArguments →
        (∀ t ∈ script.definitions, ∀ c ∈ t.columns, IsTypeText c.typeName) ∧
        (Stable d now script.definitions ↔
          ∀ t ∈ script.definitions, ∀ c ∈ t.columns, KeptByClause d text c)) := by
  have hclosed := closed_definitions h
  have hstable := stable_iff_of_closed d now hne hclosed
  refine ⟨?_, hstable, fun hplain => ?_⟩
  · refine ⟨_, writeScript_of_printable d now fun t ht => ⟨(hclosed.proper t ht).name, ?_⟩⟩
    exact fun c hc => ⟨(hclosed.proper t ht).columnName c hc, allBlank_typeName h hwords ht hc⟩
  · have htypes : ∀ t ∈ script.definitions, ∀ c ∈ t.columns, IsTypeText c.typeName :=
      fun t ht c hc => isTypeText_typeName h hwords hplain ht hc
    refine ⟨htypes, (hstable htypes).trans ?_⟩
    constructor
    · intro hcanonical t ht c hc
      exact (isCanonical_typeName_iff h hwords hplain ht hc).1 (hcanonical t ht c hc)
    · intro hkept t ht c hc
      exact (isCanonical_typeName_iff h hwords hplain ht hc).2 (hkept t ht c hc)

/-- A type in which an alias occurs only when its arguments are dropped. -/
def splitAliasText : String := "CREATE TABLE t (c TIMESTAMP(6) WITH TIME ZONE);"

/-- The type keeps its words when it is read first, and loses them when it is read again. -/
theorem not_stable_splitAliasText :
    ∃ script, readScript .postgresql splitAliasText = .ok script ∧
      script.definitions = [⟨"t", [⟨"c", "TIMESTAMP WITH TIME ZONE", false, false, none⟩]⟩] ∧
      ¬ Stable .postgresql ⟨0, 0⟩ script.definitions := by
  obtain ⟨script, hread, hdefs⟩ := @exists_script .postgresql splitAliasText
    [⟨"t", [⟨"c", "TIMESTAMP WITH TIME ZONE", false, false, none⟩]⟩] (by decide +kernel)
  have hclauses : columnClauses .postgresql splitAliasText =
      [[.word "c", .word "TIMESTAMP", .leftParen, .number "6", .rightParen, .word "WITH",
        .word "TIME", .word "ZONE"]] := by decide +kernel
  have hne : script.definitions ≠ [] := by simp [hdefs]
  have hwords : EveryColumnClause .postgresql splitAliasText HasWordType := by
    unfold EveryColumnClause
    rw [hclauses]
    intro clause hclause _ _
    rw [List.mem_singleton] at hclause
    exact ⟨_, _, _, hclause, ascii_of_all (by decide)⟩
  have hplain : EveryColumnClause .postgresql splitAliasText HasPlainArguments := by
    unfold EveryColumnClause
    rw [hclauses]
    intro clause hclause _ _
    rw [List.mem_singleton.1 hclause]
    unfold HasPlainArguments
    decide
  obtain ⟨-, hstable, hreadable⟩ := stable_iff_of_readScript .postgresql ⟨0, 0⟩ hread hne hwords
  refine ⟨script, hread, hdefs, fun h => ?_⟩
  have hcanonical := (hstable (hreadable hplain).1).1 h
  rw [hdefs] at hcanonical
  exact absurd (hcanonical _ (List.mem_singleton_self _) _ (List.mem_singleton_self _))
    (by decide +kernel)

end SchemaGraph.Sql
