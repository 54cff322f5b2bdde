import SchemaGraph.Proofs.Canvas.PlacementOrder
import SchemaGraph.Proofs.Sql.Attaching
import SchemaGraph.Proofs.Sql.CreatedTables
import SchemaGraph.Proofs.Sql.TableScript

/-!
# The order of statements does not matter

Tables of different names are declared one by one, and a foreign key finds its target by name, when
all of them are known. So a script of `CREATE TABLE` statements gives the same tables, at the same
places, in whatever order they stand and whichever of them end with a semicolon
(`readScript_of_perm`).
-/

namespace SchemaGraph.Sql

/-! ## Foreign keys -/

namespace Attachment

variable {tables tables' : List DeclaredTable}

theorem dropped_foldr (as : List Attachment) :
    (as.foldr append empty).dropped = as.flatMap (·.dropped) := by
  induction as with
  | nil => rfl
  | cons a as ih => rw [List.foldr_cons, List.flatMap_cons, ← ih]; rfl

theorem ofTable_of_perm (h : tables.Perm tables') (hd : (tables.map (·.name)).Nodup) :
    ofTable tables = ofTable tables' := by
  have hkey : ∀ table key, ofKey tables table key = ofKey tables' table key := by
    intro table key
    rw [ofKey, ofKey, find?_key_of_perm _ h hd]
  funext table
  simp only [ofTable, funext (hkey table)]

end Attachment

theorem resolveTable_of_perm (d : Dialect) {tables tables' : List DeclaredTable}
    (h : tables.Perm tables') (hd : (tables.map (·.name)).Nodup) :
    resolveTable d tables = resolveTable d tables' := by
  funext t
  rw [resolveTable, resolveTable, Attachment.ofTable_of_perm h hd]

/-! ## Scripts -/

/-- Two scripts say the same, in whatever order. -/
structure Script.SameUpToOrder (s s' : Script) : Prop where
  definitions : s.definitions.Perm s'.definitions
  diagnostics : s.diagnostics.Perm s'.diagnostics
  dropped : s.dropped.Perm s'.dropped
  tableStatements : s.tableStatements = s'.tableStatements

/-- The statements of tables with different names, in two orders. -/
theorem sameUpToOrder_of_perm (d : Dialect) {α : Type} {name : α → String} (body : α → List Token)
    {as bs : List α} (h : as.Perm bs) (hd : (as.map name).Nodup) :
    (Script.ofStatements d (as.map fun a => .createTable (name a) (body a) true)).SameUpToOrder
      (Script.ofStatements d (bs.map fun a => .createTable (name a) (body a) true)) := by
  have hd' : (bs.map name).Nodup := (h.map name).nodup_iff.1 hd
  have htables := h.flatMap_right fun a => (createdTable? (name a) (body a)).toList
  have hnodup := Declarations.nodup_created body hd
  have hattach := Attachment.ofTable_of_perm htables hnodup
  unfold Script.ofStatements
  rw [Declarations.ofStatements_creates hd, Declarations.ofStatements_creates hd']
  refine ⟨?_, ?_, ?_, ?_⟩
  · dsimp only
    rw [resolveTable_of_perm d htables hnodup]
    exact htables.map _
  · simp only [attachAll, Attachment.diagnostics_foldr, List.flatMap_map, hattach]
    exact (h.flatMap_right _).append (htables.flatMap_right _)
  · simp only [attachAll, Attachment.dropped_foldr, List.flatMap_map, hattach]
    exact htables.flatMap_right _
  · exact (h.map _).countP_eq _

/-- The tables of the script have different names too. -/
theorem nodup_definitions (d : Dialect) {α : Type} {name : α → String} (body : α → List Token)
    {as : List α} (hd : (as.map name).Nodup) :
    ((Script.ofStatements d
      (as.map fun a => .createTable (name a) (body a) true)).definitions.map (·.name)).Nodup := by
  have hnodup := Declarations.nodup_created body hd
  rw [Script.ofStatements, Declarations.ofStatements_creates hd, List.map_map]
  exact hnodup

/-- A script of entries is read unless it is empty. -/
theorem readScript_scriptText (d : Dialect) {es : List (Entry d.backslashEscapes)}
    (h : Separated es) :
    readScript d (scriptText es)
      = if es = [] then .error .noTableStatements
        else .ok (Script.ofStatements d (es.map (·.statement.statement))) := by
  have hcount : (Script.ofStatements d (es.map (·.statement.statement))).tableStatements
      = es.length := by
    rw [Script.ofStatements, List.countP_map, List.countP_eq_length]
    exact fun _ _ => rfl
  simp only [readScript, statements_scriptText h, hcount, List.length_eq_zero_iff]

theorem statements_eq {escapes : Bool} (es : List (Entry escapes)) :
    es.map (·.statement.statement)
      = (es.map (·.statement)).map fun s => .createTable s.name s.body true := by
  rw [List.map_map]
  rfl

/-- **The order of statements and their semicolons do not matter.** Two scripts hold the same
`CREATE TABLE` statements for tables of different names, in whatever order, each with or without a
semicolon, and none of them runs on into the next one. Both are empty, and give no schema; or they
give the same tables, the same reports and the same dropped keys up to order. Under whatever
identities the tables are placed, each of them has the same place. -/
theorem readScript_of_perm (d : Dialect) {xs ys : List (Entry d.backslashEscapes)}
    (hperm : (xs.map (·.statement)).Perm (ys.map (·.statement)))
    (hd : (xs.map (·.statement.name)).Nodup) (hx : Separated xs) (hy : Separated ys) :
    (xs = [] ∧ readScript d (scriptText xs) = .error .noTableStatements ∧
        readScript d (scriptText ys) = .error .noTableStatements) ∨
      ∃ script script', readScript d (scriptText xs) = .ok script ∧
        readScript d (scriptText ys) = .ok script' ∧ script.SameUpToOrder script' ∧
        ∀ {K : Type} [Scalar K] (metrics : Canvas.TableMetrics K) (ids ids' : IdSupply),
          ((Workspace.tablesOf metrics ids script).1.map Table.content).Perm
            ((Workspace.tablesOf metrics ids' script').1.map Table.content) := by
  have hempty : xs = [] ↔ ys = [] := by
    have hlength := hperm.length_eq
    rw [List.length_map, List.length_map] at hlength
    rw [← List.length_eq_zero_iff, hlength, List.length_eq_zero_iff]
  rw [readScript_scriptText d hx, readScript_scriptText d hy]
  by_cases hnone : xs = []
  · rw [if_pos hnone, if_pos (hempty.1 hnone)]
    exact Or.inl ⟨hnone, rfl, rfl⟩
  · rw [if_neg hnone, if_neg (mt hempty.2 hnone), statements_eq xs, statements_eq ys]
    have hnames : ((xs.map (·.statement)).map (·.name)).Nodup := by
      rw [List.map_map]
      exact hd
    have hsame := sameUpToOrder_of_perm d TableStatement.body hperm hnames
    refine Or.inr ⟨_, _, rfl, rfl, hsame, fun metrics ids ids' => ?_⟩
    exact content_tablesOf_perm hsame.definitions (nodup_definitions d _ hnames) metrics ids ids'

/-! ## Two orders of three statements -/

/-- A table that refers to the next one. -/
def firstStatement : TableStatement :=
  .plain (.word "a") "a" [.word "id", .word "INT", .keyword .primary, .keyword .key, .comma,
    .word "up", .word "INT", .keyword .references, .word "b"] rfl (.of_forall (by decide))

/-- A table that refers to the other one and to itself. -/
def secondStatement : TableStatement where
  modifiers := [.word "temp"]
  guard := [.keyword .ifWord, .keyword .not, .keyword .existsWord]
  qualified := [.word "s", .dot, .word "b"]
  name := "b"
  body := [.word "id", .word "INT", .keyword .primary, .keyword .key, .comma,
    .word "down", .word "INT", .keyword .references, .word "a", .comma,
    .word "self", .word "INT", .keyword .references, .word "b"]
  options := [.word "STRICT"]
  modifiers_all := rfl
  guard_skipped := rfl
  qualified_read := rfl
  body_nested := .of_forall (by decide)
  options_free := by decide

/-- A table without columns. -/
def thirdStatement : TableStatement := .plain (.quoted "c d") "c d" [] (by decide) .nil

def firstEntry (semicolon : Bool) : Entry (Dialect.backslashEscapes .sqlite) where
  text := "CREATE TABLE a (id INT PRIMARY KEY, up INT REFERENCES b)"
  semicolon
  gap := "\n"
  statement := firstStatement
  text_read := by decide +kernel
  text_complete := by
    unfold Complete
    decide +kernel
  gap_blank := by decide

def secondEntry (semicolon : Bool) : Entry (Dialect.backslashEscapes .sqlite) where
  text := "create temp table if not exists s.b (
    id INT PRIMARY KEY, -- no comma here
    down INT REFERENCES a, self INT REFERENCES b) STRICT"
  semicolon
  gap := " "
  statement := secondStatement
  text_read := by decide +kernel
  text_complete := by
    unfold Complete
    decide +kernel
  gap_blank := by decide

def thirdEntry (semicolon : Bool) : Entry (Dialect.backslashEscapes .sqlite) where
  text := "CREATE TABLE \"c d\" ()"
  semicolon
  gap := ""
  statement := thirdStatement
  text_read := by decide +kernel
  text_complete := by
    unfold Complete
    decide +kernel
  gap_blank := by decide

def inOrder : List (Entry (Dialect.backslashEscapes .sqlite)) :=
  [firstEntry true, secondEntry false, thirdEntry false]

def reordered : List (Entry (Dialect.backslashEscapes .sqlite)) :=
  [thirdEntry false, secondEntry true, firstEntry false]

/-- The tables refer to each other in both orders, and the one without columns is reported. -/
theorem readScript_reordered :
    (inOrder.map (·.statement)).Perm (reordered.map (·.statement)) ∧
      (inOrder.map (·.statement.name)).Nodup ∧ Separated inOrder ∧ Separated reordered ∧
      ∃ script script', readScript .sqlite (scriptText inOrder) = .ok script ∧
        readScript .sqlite (scriptText reordered) = .ok script' ∧
        script.definitions =
          [⟨"a", [⟨"id", "INT", true, false, none⟩, ⟨"up", "INT", false, false, some ⟨"b", "id"⟩⟩]⟩,
            ⟨"b", [⟨"id", "INT", true, false, none⟩,
              ⟨"down", "INT", false, false, some ⟨"a", "id"⟩⟩,
              ⟨"self", "INT", false, false, some ⟨"b", "id"⟩⟩]⟩] ∧
        script.diagnostics = [⟨"c d", none, "", .noColumns⟩] ∧ script.SameUpToOrder script' := by
  have hperm : (inOrder.map (·.statement)).Perm (reordered.map (·.statement)) :=
    List.reverse_perm [thirdStatement, secondStatement, firstStatement]
  have hd : (inOrder.map (·.statement.name)).Nodup := by decide
  have hx : Separated inOrder :=
    ⟨Or.inl (by decide +kernel), Or.inl (by decide +kernel), Or.inr rfl, trivial⟩
  have hy : Separated reordered :=
    ⟨Or.inl (by decide +kernel), Or.inl (by decide +kernel), Or.inr rfl, trivial⟩
  have hread : readScript .sqlite (scriptText inOrder)
      = .ok (Script.ofStatements .sqlite (inOrder.map (·.statement.statement))) := by
    rw [readScript_scriptText .sqlite hx]
    rfl
  refine ⟨hperm, hd, hx, hy, ?_⟩
  rcases readScript_of_perm .sqlite hperm hd hx hy with ⟨hnone, -, -⟩ |
    ⟨script, script', hscript, hscript', hsame, -⟩
  · cases hnone
  · rw [hread] at hscript
    cases hscript
    refine ⟨_, script', hread, hscript', ?_, ?_, hsame⟩
    · decide +kernel
    · decide +kernel

end SchemaGraph.Sql
