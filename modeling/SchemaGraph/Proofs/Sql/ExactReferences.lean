import SchemaGraph.Proofs.Sql.DeclaredKeys
import SchemaGraph.Proofs.Sql.ForeignKeyForm
import SchemaGraph.Proofs.Sql.Validity

/-!
# The references of a script are exact

Which reference a column has can be told from the tables of the script and from its clauses alone
(`exact_of_readScript`): of all pairs that the foreign keys of its table make for the column, the
last one counts. Whatever makes no pair takes no reference away, and each foreign key whose two
lists of columns differ in length is reported once.
-/

namespace SchemaGraph.Sql

/-! ## What foreign keys lead to among tables -/

/-- The table that a foreign key refers to. -/
def targetTable? (tables : List TableDefinition) (key : KeyDeclaration) :
    Option TableDefinition :=
  tables.find? fun t => t.name == key.target.table

/-- The columns of the primary key, in the order of the table. -/
def keyColumns (t : TableDefinition) : List String :=
  (t.columns.filter (·.primaryKey)).map (·.name)

/-- The columns of the table that a foreign key stands for: those that it names, or else those of
the primary key. -/
def targetNames (key : KeyDeclaration) (target : TableDefinition) : List String :=
  if key.target.columns.isEmpty then keyColumns target else key.target.columns

/-- The pairs of a foreign key: its columns, each with the column of the target in the same place,
if that is there. -/
def pairsAmong (tables : List TableDefinition) (key : KeyDeclaration) :
    List (String × ForeignKey) :=
  match targetTable? tables key with
  | none => []
  | some target =>
    if (targetNames key target).length = key.columns.length then
      (key.columns.zip (targetNames key target)).filterMap fun p =>
        if p.2 ∈ target.columns.map (·.name) then some (p.1, ⟨target.name, p.2⟩) else none
    else []

/-- The report on a foreign key that stands for more or fewer columns than it has. -/
def mismatchAmong? (tables : List TableDefinition) (table : String) (key : KeyDeclaration) :
    Option Diagnostic :=
  match targetTable? tables key with
  | none => none
  | some target =>
    if (targetNames key target).length = key.columns.length then none
    else some ⟨table, key.clause, "",
      .columnCountMismatch key.columns.length (targetNames key target).length⟩

/-- The foreign keys that the clauses of a script declare for a table. -/
def keysOf (rs : List Reading) (table : String) : List KeyDeclaration :=
  declaredKeys [] (readingsOf table rs)

/-- The references and the reports of a script are what its clauses `rs` lead to. -/
structure ExactReferences (rs : List Reading) (script : Script) : Prop where
  /-- A column has the reference of the last pair for it. -/
  attached : ∀ t ∈ script.definitions, ∀ c ∈ t.columns,
    c.foreignKey = (((keysOf rs t.name).flatMap (pairsAmong script.definitions)).filter
      fun p => p.1 == c.name).getLast?.map (·.2)
  /-- Lists of columns that differ in length are reported once, those that a clause names when it is
  read, and the others when all tables are known. -/
  reported : mismatches script.diagnostics
    = rs.filterMap Reading.mismatch? ++ script.definitions.flatMap fun t =>
        (keysOf rs t.name).filterMap (mismatchAmong? script.definitions t.name)

/-! ## Resolution -/

section
variable (d : Dialect) (ts : List DeclaredTable)

theorem targetTable?_resolve (key : KeyDeclaration) :
    targetTable? (ts.map (resolveTable d ts)) key
      = (ts.find? fun t => t.name == key.target.table).map (resolveTable d ts) :=
  List.find?_map ..

theorem keyColumns_resolve (t : DeclaredTable) :
    keyColumns (resolveTable d ts t) = t.primaryKey := by
  rw [keyColumns, DeclaredTable.primaryKey, resolveTable, List.filter_map, List.map_map]
  rfl

theorem targetNames_resolve (key : KeyDeclaration) (target : DeclaredTable) :
    targetNames key (resolveTable d ts target) = Attachment.targetColumns key target := by
  rw [targetNames, keyColumns_resolve]
  rfl

/-- The pairs for a column of the table are those that can be told from the tables in the end. -/
theorem pairs_ofKey_resolve {t : DeclaredTable} {column : String}
    (hcolumn : t.hasColumn column = true) (key : KeyDeclaration) :
    (Attachment.ofKey ts t key).pairs.filter (fun p => p.1 == column)
      = (pairsAmong (ts.map (resolveTable d ts)) key).filter fun p => p.1 == column := by
  rw [Attachment.ofKey, pairsAmong, targetTable?_resolve]
  cases ts.find? fun t => t.name == key.target.table with
  | none => rfl
  | some target =>
    simp only [Option.map_some, Attachment.pairs_ofKeyTo, targetNames_resolve]
    split
    · rw [List.filter_flatMap, List.filterMap_eq_flatMap_toList, List.filter_flatMap]
      refine List.flatMap_congr fun p _ => ?_
      simp only [Attachment.pairs_ofPair, names_resolveTable, ← DeclaredTable.hasColumn_iff]
      by_cases hname : p.1 = column
      · rw [hname, hcolumn, Bool.true_and]
        split <;> rfl
      · split <;> split <;> simp [hname]
    · rfl

theorem attached_resolve {t : DeclaredTable} {c : Column}
    (hc : c ∈ (resolveTable d ts t).columns) :
    c.foreignKey = ((t.keys.flatMap (pairsAmong (ts.map (resolveTable d ts)))).filter
      fun p => p.1 == c.name).getLast?.map (·.2) := by
  obtain ⟨u, hu, rfl⟩ := List.mem_map.1 hc
  have hcolumn : t.hasColumn u.name = true := List.any_eq_true.2 ⟨u, hu, by simp⟩
  have hpairs : (Attachment.ofTable ts t).pairs.filter (fun p => p.1 == u.name)
      = (t.keys.flatMap (pairsAmong (ts.map (resolveTable d ts)))).filter
        fun p => p.1 == u.name := by
    rw [Attachment.pairs_ofTable, List.filter_flatMap, List.filter_flatMap]
    exact List.flatMap_congr fun key _ => pairs_ofKey_resolve d ts hcolumn key
  show (Attachment.ofTable ts t).referenceOf u.name = _
  rw [Attachment.referenceOf, ← List.head?_filter, List.filter_reverse, List.head?_reverse, hpairs]
  rfl

theorem diagnostics_ofKey_resolve (t : DeclaredTable) (key : KeyDeclaration) :
    (Attachment.ofKey ts t key).diagnostics
      = (mismatchAmong? (ts.map (resolveTable d ts)) t.name key).toList := by
  rw [Attachment.ofKey, mismatchAmong?, targetTable?_resolve]
  cases ts.find? fun t => t.name == key.target.table with
  | none => rfl
  | some target =>
    simp only [Option.map_some, targetNames_resolve, Attachment.ofKeyTo]
    split
    · rw [Attachment.diagnostics_foldr, List.flatMap_map]
      simp [Attachment.diagnostics_ofPair]
    · rfl

theorem diagnostics_attachAll_resolve :
    (attachAll ts).diagnostics = ts.flatMap fun t =>
      t.keys.filterMap (mismatchAmong? (ts.map (resolveTable d ts)) t.name) := by
  rw [attachAll, Attachment.diagnostics_foldr, List.flatMap_map]
  refine List.flatMap_congr fun t _ => ?_
  rw [Attachment.diagnostics_ofTable, List.filterMap_eq_flatMap_toList]
  exact List.flatMap_congr fun key _ => diagnostics_ofKey_resolve d ts t key

/-- All reports of the resolution are about lists that differ in length. -/
theorem mismatches_attachAll :
    mismatches (attachAll ts).diagnostics = (attachAll ts).diagnostics := by
  refine List.filter_eq_self.2 fun r hr => ?_
  rw [diagnostics_attachAll_resolve .standard ts] at hr
  obtain ⟨t, -, hr⟩ := List.mem_flatMap.1 hr
  obtain ⟨key, -, hr⟩ := List.mem_filterMap.1 hr
  unfold mismatchAmong? at hr
  split at hr
  · cases hr
  · split at hr
    · cases hr
    · cases hr
      rfl

theorem isMismatch_of_mem_attachAll {r : Diagnostic} (h : r ∈ (attachAll ts).diagnostics) :
    r.problem.isMismatch = true := by
  rw [← mismatches_attachAll] at h
  exact (List.mem_filter.1 h).2

end

/-- The references of a script are exact. -/
theorem exactReferences_ofStatements (d : Dialect) (ss : List Statement) :
    ExactReferences (readings [] ss) (Script.ofStatements d ss) := by
  have hkeys : ∀ t ∈ (Declarations.ofStatements ss).tables,
      t.keys = keysOf (readings [] ss) t.name := fun t ht =>
    ((builtFrom_ofStatements ss).built t ht).follows.keys
  refine ⟨fun t ht c hc => ?_, ?_⟩
  · obtain ⟨u, hu, rfl⟩ := List.mem_map.1 ht
    rw [attached_resolve d _ hc, hkeys u hu]
    rfl
  · show mismatches (_ ++ _) = _
    rw [mismatches_append, Declarations.mismatches_ofStatements, mismatches_attachAll,
      diagnostics_attachAll_resolve d]
    refine congrArg (_ ++ ·) ?_
    rw [Script.ofStatements, List.flatMap_map]
    refine List.flatMap_congr fun t ht => ?_
    rw [hkeys t ht]
    rfl

/-! ## A key that no other one overrides -/

/-- The clauses declare a foreign key of the table, and no later one on any of its columns. -/
def DeclaresLast (rs : List Reading) (table : String) (columns : List String)
    (target : Reference) : Prop :=
  ∃ before i after, keysOf rs table = before ++ ⟨columns, target, i⟩ :: after ∧
    ∀ later ∈ after, ∀ column ∈ columns, column ∉ later.columns

/-- A foreign key makes pairs only for the columns that it names. -/
theorem pairsAmong_filter {tables : List TableDefinition} {key : KeyDeclaration} {column : String}
    (h : column ∉ key.columns) :
    (pairsAmong tables key).filter (fun p => p.1 == column) = [] := by
  rw [List.filter_eq_nil_iff]
  intro p hp hname
  unfold pairsAmong at hp
  split at hp
  · cases hp
  · split at hp
    · obtain ⟨q, hq, hpair⟩ := List.mem_filterMap.1 hp
      split at hpair
      · cases hpair
        exact h (eq_of_beq hname ▸ (List.of_mem_zip hq).1)
      · cases hpair
    · cases hp

/-- Different columns are paired with one column each. -/
theorem eq_of_mem_zip {xs ys : List String} (h : xs.Nodup) {x y y' : String}
    (hy : (x, y) ∈ xs.zip ys) (hy' : (x, y') ∈ xs.zip ys) : y = y' := by
  induction xs generalizing ys with
  | nil => cases hy
  | cons a xs ih =>
    cases ys with
    | nil => cases hy
    | cons b ys =>
      rw [List.nodup_cons] at h
      rw [List.zip_cons_cons, List.mem_cons, Prod.mk.injEq] at hy hy'
      rcases hy with ⟨rfl, rfl⟩ | hy <;> rcases hy' with ⟨heq, rfl⟩ | hy'
      · rfl
      · exact absurd (List.of_mem_zip hy').1 h.1
      · exact absurd (heq ▸ (List.of_mem_zip hy).1) h.1
      · exact ih h.2 hy hy'

/-- The last foreign key on columns gives each of them the column in the same place. -/
theorem ExactReferences.foreignKey_of_last {rs : List Reading} {script : Script}
    (h : ExactReferences rs script) {s r : TableDefinition} (hs : s ∈ script.definitions)
    {columns xs : List String} {target : Reference} (hlast : DeclaresLast rs s.name columns target)
    (hcolumns : columns.Nodup)
    (hr : script.definitions.find? (fun t => t.name == target.table) = some r)
    (hxs : targetNames ⟨columns, target, none⟩ r = xs) (hlength : xs.length = columns.length)
    (hmem : ∀ x ∈ xs, x ∈ r.columns.map (·.name)) {n : Nat} (hn : n < columns.length)
    (hn' : n < xs.length) {c : Column} (hc : c ∈ s.columns) (hname : c.name = columns[n]) :
    c.foreignKey = some ⟨r.name, xs[n]⟩ := by
  obtain ⟨before, i, after, hkeys, hafter⟩ := hlast
  have hzip : (columns[n], xs[n]) ∈ columns.zip xs :=
    List.mem_iff_getElem.2 ⟨n, by rw [List.length_zip]; omega, List.getElem_zip⟩
  generalize columns[n] = x at hname hzip
  generalize xs[n] = y at hzip ⊢
  have hnone : (after.flatMap (pairsAmong script.definitions)).filter (fun p => p.1 == c.name)
      = [] := by
    rw [List.filter_flatMap, List.flatMap_eq_nil_iff]
    intro later hlater
    refine pairsAmong_filter (hafter later hlater c.name ?_)
    rw [hname]
    exact (List.of_mem_zip hzip).1
  have hpairs : pairsAmong script.definitions ⟨columns, target, i⟩
      = (columns.zip xs).map fun p => (p.1, ⟨r.name, p.2⟩) := by
    have hfound : targetTable? script.definitions ⟨columns, target, i⟩ = some r := hr
    have hnames : targetNames ⟨columns, target, i⟩ r = xs := hxs
    rw [pairsAmong, hfound]
    dsimp only
    rw [hnames, if_pos hlength]
    refine (List.filterMap_congr fun p hp => ?_).trans (congrFun List.filterMap_eq_map' _)
    rw [if_pos (hmem _ (List.of_mem_zip hp).2)]
  -- Of the pairs of this key only one is for the column.
  have hone : ((pairsAmong script.definitions ⟨columns, target, i⟩).filter
      fun p => p.1 == c.name).getLast? = some (x, ⟨r.name, y⟩) := by
    have hin : (x, (⟨r.name, y⟩ : ForeignKey)) ∈
        (pairsAmong script.definitions ⟨columns, target, i⟩).filter fun p => p.1 == c.name := by
      rw [hpairs, hname, List.mem_filter]
      exact ⟨List.mem_map.2 ⟨(x, y), hzip, rfl⟩, by simp⟩
    obtain ⟨q, hq⟩ := Option.isSome_iff_exists.1
      (List.getLast?_isSome.2 (List.ne_nil_of_mem hin))
    obtain ⟨hmemq, hnameq⟩ := List.mem_filter.1 (List.mem_of_getLast? hq)
    rw [hpairs, List.mem_map] at hmemq
    obtain ⟨⟨x', y'⟩, hother, rfl⟩ := hmemq
    have hx : x' = x := (eq_of_beq hnameq).trans hname
    rw [hx] at hother hq
    rw [hq, eq_of_mem_zip hcolumns hother hzip]
  rw [h.attached s hs c hc, hkeys, List.flatMap_append, List.flatMap_cons, List.filter_append,
    List.filter_append, hnone, List.append_nil, List.getLast?_append, hone]
  rfl

/-- The last foreign keys on the same columns lead to the same tables only if they stand for the
same columns of their target. -/
theorem ExactReferences.targets_eq {rs rs' : List Reading} {script script' : Script}
    (h : ExactReferences rs script) (h' : ExactReferences rs' script')
    (hsame : script.definitions = script'.definitions) {s r : TableDefinition}
    (hs : s ∈ script.definitions) {columns xs xs' : List String} {target target' : Reference}
    (hlast : DeclaresLast rs s.name columns target)
    (hlast' : DeclaresLast rs' s.name columns target') (hcolumns : columns.Nodup)
    (hsub : columns ⊆ s.columns.map (·.name))
    (hr : script.definitions.find? (fun t => t.name == target.table) = some r)
    (hr' : script.definitions.find? (fun t => t.name == target'.table) = some r)
    (hxs : targetNames ⟨columns, target, none⟩ r = xs)
    (hxs' : targetNames ⟨columns, target', none⟩ r = xs') (hlength : xs.length = columns.length)
    (hlength' : xs'.length = columns.length) (hmem : ∀ x ∈ xs, x ∈ r.columns.map (·.name))
    (hmem' : ∀ x ∈ xs', x ∈ r.columns.map (·.name)) : xs = xs' := by
  refine List.ext_getElem (hlength.trans hlength'.symm) fun n hn hn' => ?_
  have hcolumn : n < columns.length := hlength ▸ hn
  obtain ⟨c, hc, hname⟩ := List.mem_map.1 (hsub (List.getElem_mem hcolumn))
  have hfirst := h.foreignKey_of_last hs hlast hcolumns hr hxs hlength hmem hcolumn hn hc hname
  have hsecond := h'.foreignKey_of_last (hsame ▸ hs) hlast' hcolumns (hsame ▸ hr') hxs' hlength'
    hmem' hcolumn hn' hc hname
  rw [hfirst] at hsecond
  simpa using hsecond

/-! ## Whole texts -/

/-- **References are exact.** Whatever text is read: the reference of each column is the last pair
that the foreign keys of its table make for it, and each foreign key whose lists of columns differ
in length is reported once. A foreign key stands in a clause of its own, with as many columns on
either side, or in a column, of whose references the last one counts; but for a reference right
after a `SET DEFAULT`, which is lost. -/
theorem exact_of_readScript {d : Dialect} {text : String} {script : Script}
    (h : readScript d text = .ok script) :
    ExactReferences (readings [] (statements (tokens d.backslashEscapes text.toList))) script ∧
      (∀ (f : ForeignKeyForm) (target : Option ColumnList),
        readClause (f.tokens target) = f.said target) ∧
      (∀ (c : ColumnStart) (ms : List Modifier), ∃ k,
        readClause (c.tokens ms) = .ok (.column k) ∧ k.name = c.column.name ∧
          k.reference = ((counted false ms).filterMap Modifier.target?).getLast? ∧
          (Undisturbed ms → k.reference = (ms.filterMap Modifier.target?).getLast?)) ∧
      ∀ (c : ColumnStart) (ms : List Modifier) (table : QualifiedName) (columns : ColumnList)
        (rest : List Token), (∀ m ∈ ms.getLast?, m.endsWithDefault = false) → columns.more ≠ [] →
        readClause
            (c.tokens ms ++ .keyword .references :: (table.tokens ++ (columns.tokens ++ rest)))
          = .error (.columnCountMismatch 1 columns.names.length) := by
  refine ⟨?_, fun f target => f.readClause_tokens target, fun c ms => ?_,
    fun c ms table columns rest hms hcolumns => c.readClause_wide hms table hcolumns rest⟩
  · rw [eq_of_readScript h]
    exact exactReferences_ofStatements d _
  · obtain ⟨k, hread, hname, -, hshows⟩ := c.exists_shows ms
    exact ⟨k, hread, hname, hshows.reference, fun hms => (shows_of_counted hms hshows).reference⟩

/-- Keys that compete: one of which a pair leads nowhere, one whose target has more columns in its
primary key, which is added later, and two references of one column. -/
def competingText : String :=
  "CREATE TABLE t (a INT, b INT, FOREIGN KEY (a, b) REFERENCES q (x, gone),
    FOREIGN KEY (a) REFERENCES q, c INT REFERENCES r (k) ON DELETE SET DEFAULT REFERENCES q (x));
  CREATE TABLE q (x INT, y INT); CREATE TABLE r (k INT); ALTER TABLE q ADD PRIMARY KEY (x, y)"

/-- The key without columns is reported and takes nothing away; the second reference of the column
is lost. -/
theorem exact_of_competingText :
    ∃ script, readScript .standard competingText = .ok script ∧
      script.definitions =
        [⟨"t", [⟨"a", "INT", false, false, some ⟨"q", "x"⟩⟩, ⟨"b", "INT", false, false, none⟩,
            ⟨"c", "INT", false, false, some ⟨"r", "k"⟩⟩]⟩,
          ⟨"q", [⟨"x", "INT", true, false, none⟩, ⟨"y", "INT", true, false, none⟩]⟩,
          ⟨"r", [⟨"k", "INT", false, false, none⟩]⟩] ∧
      mismatches script.diagnostics = [⟨"t", some 3, "", .columnCountMismatch 1 2⟩] ∧
      ExactReferences
        (readings [] (statements (tokens Dialect.standard.backslashEscapes competingText.toList)))
        script := by
  have houtcome : (readScript .standard competingText).map
        (fun script => (script.definitions, mismatches script.diagnostics))
      = .ok ([⟨"t", [⟨"a", "INT", false, false, some ⟨"q", "x"⟩⟩,
            ⟨"b", "INT", false, false, none⟩, ⟨"c", "INT", false, false, some ⟨"r", "k"⟩⟩]⟩,
          ⟨"q", [⟨"x", "INT", true, false, none⟩, ⟨"y", "INT", true, false, none⟩]⟩,
          ⟨"r", [⟨"k", "INT", false, false, none⟩]⟩],
        [⟨"t", some 3, "", .columnCountMismatch 1 2⟩]) := by
    -- Written out as a list of characters, the text is cut into tokens much faster.
    rw [readScript, competingText, String.toList_ofList]
    decide +kernel
  obtain ⟨script, hread, hscript⟩ := exists_script_map houtcome
  rw [Prod.mk.injEq] at hscript
  exact ⟨script, hread, hscript.1, hscript.2, (exact_of_readScript hread).1⟩

end SchemaGraph.Sql
