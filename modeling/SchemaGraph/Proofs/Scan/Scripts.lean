import SchemaGraph.Proofs.Scan.Statements
import SchemaGraph.Sql.Script

/-!
# Scans over scripts

A script is scanned from its first place on. Each statement is carried out where it ends; what it
adds to is looked up by the index of the table or of the column, which has to be one of the list.
-/

namespace SchemaGraph.Sql.Scan

/-! ## Indexes -/

section
variable {α : Type}

/-- The first element that satisfies the condition, at the index that a search for it gives. -/
def lookUp (xs : List α) (p : α → Bool) : Option (Option α) :=
  match xs.findIdx? p with
  | none => some none
  | some i => do
    let x ← xs[i]?
    some (some x)

theorem lookUp_eq (xs : List α) (p : α → Bool) : lookUp xs p = some (xs.find? p) := by
  unfold lookUp
  rw [List.find?_eq_bind_findIdx?_getElem?]
  cases hi : xs.findIdx? p with
  | none => rfl
  | some i =>
    obtain ⟨hlt, -⟩ := List.findIdx?_eq_some_iff_getElem.1 hi
    simp [List.getElem?_eq_getElem hlt]

end

/-! ## Primary keys -/

/-- Marks the columns of a primary key. -/
def markKeyAt (clause : Option Nat) (t : DeclaredTable) :
    List String → Option (DeclaredTable × List Diagnostic)
  | [] => some (t, [])
  | name :: rest => do
    match ← lookUp t.columns fun c => c.name == name with
    | some _ => markKeyAt clause (t.markPrimaryKey name) rest
    | none => do
      let (marked, reports) ← markKeyAt clause t rest
      some (marked, ⟨t.name, clause, "", .unknownKeyColumn name⟩ :: reports)

/-- Marks the columns of the primary keys of a body in order. -/
def markKeysAt (t : DeclaredTable) :
    List (Nat × List String) → Option (DeclaredTable × List Diagnostic)
  | [] => some (t, [])
  | (i, columns) :: rest => do
    let (marked, reports) ← markKeyAt (some i) t columns
    let (final, more) ← markKeysAt marked rest
    some (final, reports ++ more)

theorem hasColumn_eq_isSome (t : DeclaredTable) (name : String) :
    t.hasColumn name = (t.columns.find? fun c => c.name == name).isSome := by
  rw [Bool.eq_iff_iff, List.find?_isSome, DeclaredTable.hasColumn, List.any_eq_true]

theorem markKeyAt_eq (clause : Option Nat) (t : DeclaredTable) (names : List String) :
    markKeyAt clause t names = some (applyPrimaryKey clause t names) := by
  induction names generalizing t with
  | nil => rfl
  | cons name rest ih =>
    rw [markKeyAt, lookUp_eq, applyPrimaryKey, hasColumn_eq_isSome]
    cases t.columns.find? fun c => c.name == name with
    | some c => exact ih _
    | none => simp [ih]

theorem markKeysAt_eq (t : DeclaredTable) (keys : List (Nat × List String)) :
    markKeysAt t keys = some (applyPrimaryKeys t keys) := by
  induction keys generalizing t with
  | nil => rfl
  | cons key rest ih =>
    obtain ⟨i, columns⟩ := key
    rw [markKeysAt, markKeyAt_eq, applyPrimaryKeys]
    simp [ih]

/-! ## Bodies -/

/-- Carries out one clause of a body. -/
def addClauseAt (b : Body) (i : Nat) (clause : List Token) : Option Body := do
  match ← readClauseAt clause with
  | .error p => some (b.report i clause p)
  | .ok .skipped => some b
  | .ok (.primaryKey columns) => some { b with primaryKeys := b.primaryKeys ++ [(i, columns)] }
  | .ok (.foreignKey columns target) =>
    some { b with table := b.table.addKey (some i) columns target }
  | .ok (.column c) =>
    if b.table.hasColumn c.name then some (b.report i clause (.duplicateColumn c.name))
    else some { b with table := b.table.addColumn (some i) c }

/-- Carries out the clauses of a body from position `i` on. -/
def addClausesAt (b : Body) (i : Nat) : List (List Token) → Option Body
  | [] => some b
  | clause :: rest => do
    let b ← addClauseAt b i clause
    addClausesAt b (i + 1) rest

/-- The table that a body declares, and the reports on its clauses. -/
def declareBodyAt (name : String) (body : List Token) :
    Option (DeclaredTable × List Diagnostic) := do
  let clauses ← splitAt body
  let b ← addClausesAt ⟨⟨name, [], []⟩, [], []⟩ 0 clauses
  let (table, reports) ← markKeysAt b.table b.primaryKeys
  some (table, b.diagnostics ++ reports)

theorem addClauseAt_eq (b : Body) (i : Nat) (clause : List Token) :
    addClauseAt b i clause = some (b.add i clause) := by
  rw [addClauseAt, readClauseAt_eq, Body.add]
  cases readClause clause with
  | error p => rfl
  | ok k =>
    cases k with
    | column c => exact (apply_ite some _ _ _).symm
    | _ => rfl

theorem addClausesAt_eq (b : Body) (i : Nat) (clauses : List (List Token)) :
    addClausesAt b i clauses = some (b.addAll i clauses) := by
  induction clauses generalizing b i with
  | nil => rfl
  | cons clause rest ih =>
    rw [addClausesAt, addClauseAt_eq]
    exact ih _ _

theorem declareBodyAt_eq (name : String) (body : List Token) :
    declareBodyAt name body = some (declareBody name body) := by
  simp [declareBodyAt, splitAt_eq, addClausesAt_eq, markKeysAt_eq, declareBody]

/-! ## Statements -/

/-- Carries out a complete `CREATE TABLE`. -/
def createAt (d : Declarations) (name : String) (body : List Token) (closed : Bool) :
    Option Declarations :=
  let d := if closed then d else d.report [⟨name, none, "", .unterminatedBody⟩]
  match d.table? name with
  | some _ => some (d.report [⟨name, none, "", .duplicateTable⟩])
  | none => do
    let (table, reports) ← declareBodyAt name body
    let d := d.report reports
    if table.columns.isEmpty then some (d.report [⟨name, none, "", .noColumns⟩])
    else some { d with tables := d.tables ++ [table] }

/-- Adds what a clause says to a table that is already declared. -/
def extendAt (d : Declarations) (t : DeclaredTable) (action clause : List Token) :
    Option Declarations := do
  match ← readClauseAt clause with
  | .error p => some (d.report [⟨t.name, none, clauseText action, p⟩])
  | .ok .skipped => some d
  | .ok (.primaryKey columns) => do
    let (marked, reports) ← markKeyAt none t columns
    some ((d.put marked).report reports)
  | .ok (.foreignKey columns target) => some (d.put (t.addKey none columns target))
  | .ok (.column c) =>
    if t.hasColumn c.name then
      some (d.report [⟨t.name, none, clauseText action, .duplicateColumn c.name⟩])
    else some (d.put (t.addColumn none c))

/-- Carries out one action of an `ALTER TABLE`. -/
def alterAt (d : Declarations) (name : String) (action : List Token) : Option Declarations :=
  match action with
  | .keyword .add :: rest => do
    match ← lookUp d.tables fun t => t.name == name with
    | none => some (d.report [⟨name, none, clauseText action, .unknownTable⟩])
    | some t => extendAt d t action (Declarations.addedClause rest)
  | _ => some d

/-- Carries out a statement. -/
def carryOutAt (d : Declarations) : Statement → Option Declarations
  | .createTable name body closed => createAt d name body closed
  | .alterTable name actions => actions.foldlM (fun d action => alterAt d name action) d
  | s => some (d.carryOut s)

theorem createAt_eq (d : Declarations) (name : String) (body : List Token) (closed : Bool) :
    createAt d name body closed = some (d.create name body closed) := by
  unfold createAt Declarations.create
  extract_lets d'
  cases d'.table? name with
  | some _ => rfl
  | none =>
    rw [declareBodyAt_eq]
    exact (apply_ite some _ _ _).symm

theorem extendAt_eq (d : Declarations) (t : DeclaredTable) (action clause : List Token) :
    extendAt d t action clause = some (d.extend t action clause) := by
  rw [extendAt, readClauseAt_eq, Declarations.extend]
  cases readClause clause with
  | error p => rfl
  | ok k =>
    cases k with
    | column c => exact (apply_ite some _ _ _).symm
    | primaryKey columns => simp [markKeyAt_eq]
    | _ => rfl

theorem alterAt_eq (d : Declarations) (name : String) (action : List Token) :
    alterAt d name action = some (d.alter name action) := by
  have hfind : lookUp d.tables (fun t => t.name == name) = some (d.table? name) := lookUp_eq _ _
  by_cases hadd : ∃ rest, action = .keyword .add :: rest
  · obtain ⟨rest, rfl⟩ := hadd
    rw [alterAt, Declarations.alter, hfind]
    cases d.table? name with
    | none => rfl
    | some t => exact extendAt_eq ..
  · rw [alterAt, Declarations.alter]
    · exact fun rest h => hadd ⟨rest, h⟩
    · exact fun rest h => hadd ⟨rest, h⟩

theorem carryOutAt_eq (d : Declarations) (s : Statement) :
    carryOutAt d s = some (d.carryOut s) := by
  cases s with
  | createTable name body closed => exact createAt_eq d name body closed
  | nameless found => rfl
  | bodiless name => rfl
  | alterTable name actions =>
    rw [carryOutAt, Declarations.carryOut]
    induction actions generalizing d with
    | nil => rfl
    | cons action rest ih =>
      rw [List.foldlM_cons, List.foldl_cons, alterAt_eq]
      exact ih _

/-! ## Foreign keys -/

open Attachment

/-- What follows from one pair of columns. The reference is kept at the index of its column. -/
def attachPairAt (table target : DeclaredTable) (source referenced : String) :
    Option Attachment := do
  match ← lookUp table.columns fun c => c.name == source with
  | none => some { empty with dropped := [.unknownColumn table.name source] }
  | some _ =>
    if !target.hasColumn referenced then
      some { empty with dropped := [.missingColumn target.name referenced] }
    else some { empty with pairs := [(source, ⟨target.name, referenced⟩)] }

/-- What follows from a key whose target is known. -/
def attachKeyAt (table target : DeclaredTable) (key : KeyDeclaration) : Option Attachment :=
  let columns := targetColumns key target
  if columns.length = key.columns.length then do
    let pairs ← (key.columns.zip columns).mapM fun p => attachPairAt table target p.1 p.2
    some (pairs.foldr append empty)
  else
    some { empty with diagnostics :=
      [⟨table.name, key.clause, "", .columnCountMismatch key.columns.length columns.length⟩] }

/-- What follows from all keys of a table. -/
def attachTableAt (tables : List DeclaredTable) (table : DeclaredTable) : Option Attachment := do
  let keys ← table.keys.mapM fun key =>
    match tables.find? fun t => t.name == key.target.table with
    | none =>
      some { empty with dropped := [.missingTable table.name key.columns key.target.table] }
    | some target => attachKeyAt table target key
  some (keys.foldr append empty)

/-- What follows from all keys of all tables. -/
def attachAllAt (tables : List DeclaredTable) : Option Attachment := do
  let keys ← tables.mapM fun table => attachTableAt tables table
  some (keys.foldr append empty)

theorem attachPairAt_eq (table target : DeclaredTable) (source referenced : String) :
    attachPairAt table target source referenced = some (ofPair table target source referenced) := by
  rw [attachPairAt, lookUp_eq, ofPair, hasColumn_eq_isSome table source]
  cases table.columns.find? fun c => c.name == source with
  | none => rfl
  | some c => exact (apply_ite some _ _ _).symm

theorem mapM_some {α β : Type} (f : α → β) (xs : List α) :
    (xs.mapM fun x => some (f x)) = some (xs.map f) := List.mapM_pure

theorem attachKeyAt_eq (table target : DeclaredTable) (key : KeyDeclaration) :
    attachKeyAt table target key = some (ofKeyTo table target key) := by
  simp only [attachKeyAt, attachPairAt_eq, mapM_some]
  exact (apply_ite some _ _ _).symm

theorem attachTableAt_eq (tables : List DeclaredTable) (table : DeclaredTable) :
    attachTableAt tables table = some (ofTable tables table) := by
  have hkey : ∀ key : KeyDeclaration,
      (match tables.find? fun t => t.name == key.target.table with
        | none => some { empty with
            dropped := [.missingTable table.name key.columns key.target.table] }
        | some target => attachKeyAt table target key) = some (ofKey tables table key) := by
    intro key
    unfold ofKey
    cases tables.find? fun t => t.name == key.target.table with
    | none => rfl
    | some target => exact attachKeyAt_eq ..
  simp only [attachTableAt, hkey, mapM_some]
  rfl

theorem attachAllAt_eq (tables : List DeclaredTable) :
    attachAllAt tables = some (attachAll tables) := by
  simp only [attachAllAt, attachTableAt_eq, mapM_some]
  rfl

/-! ## Whole scripts -/

/-- What has been read of a script: its declarations, and how many statements create tables. -/
structure Tally where
  declarations : Declarations
  tableStatements : Nat

/-- Carries out a statement, if there is one, and counts it. -/
def Tally.addAt (p : Tally) : Option Statement → Option Tally
  | none => some p
  | some s => do
    let d ← carryOutAt p.declarations s
    some ⟨d, if s.creates then p.tableStatements + 1 else p.tableStatements⟩

section
variable (src : Source) (pos : Nat)

/-- Reads a statement about a table, or passes over a token that begins none. -/
def statementTurn (p : Tally) : Option (Turn Tally Tally) :=
  match current src pos with
  | none => some (.leave pos p)
  | some (.keyword .create) => do
    let (pos, s) ← createStatementAt src (advance src pos)
    let p ← p.addAt s
    some (.next pos p)
  | some (.keyword .alter) => do
    let (pos, s) ← alterTableAt src (advance src pos)
    let p ← p.addAt s
    some (.next pos p)
  | some _ => some (.next (advance src pos) p)

/-- Reads the statements of a script from its first place on. -/
def statementsAt : Option (Nat × Tally) := loop src.length (statementTurn src) 0 ⟨.empty, 0⟩

end

/-- Reads a script whose tokens are scanned, with a mark of the end behind them. -/
def readScriptAt (d : Dialect) (text : String) : Option (Except ScriptError Script) := do
  let src := (tokens d.backslashEscapes text.toList).map some ++ [none]
  let (_, read) ← statementsAt src
  let declared := read.declarations
  let attached ← attachAllAt declared.tables
  if read.tableStatements = 0 then some (.error .noTableStatements)
  else some (.ok {
    definitions := declared.tables.map (resolveTable d declared.tables)
    diagnostics := declared.diagnostics ++ attached.diagnostics
    dropped := attached.dropped
    tableStatements := read.tableStatements })

/-- What has been read after the statements of a script. -/
def Tally.of (ss : List Statement) : Tally :=
  ⟨Declarations.ofStatements ss, ss.countP (·.creates)⟩

/-- What has been read after more statements. -/
def Tally.add (p : Tally) (ss : List Statement) : Tally :=
  ⟨ss.foldl Declarations.carryOut p.declarations, p.tableStatements + ss.countP (·.creates)⟩

theorem Tally.addAt_eq (p : Tally) (s : Option Statement) :
    p.addAt s = some (p.add s.toList) := by
  cases s with
  | none => rfl
  | some s =>
    rw [addAt, carryOutAt_eq]
    cases hcreates : s.creates <;> simp [add, hcreates]

theorem Tally.add_append (p : Tally) (ss more : List Statement) :
    (p.add ss).add more = p.add (ss ++ more) := by
  simp [add, Nat.add_assoc]

section
variable {src : Source} {pos : Nat}

theorem leads_statementTurn (p : Tally) (hpos : pos ≤ src.length) :
    Leads src pos (fun _ => True) True (fun p ts => p.add (statements ts)) (fun b _ => b) p
      (statementTurn src pos p) := by
  unfold statementTurn
  split
  · rename_i hcur
    refine .leave (Nat.le_refl pos) hpos fun _ => ?_
    rw [ahead_of_none hcur, statements]
    rfl
  · rename_i hcur
    simp only [Tally.addAt_eq]
    refine .scan (f := fun (s : Option Statement) => p.add s.toList) hcur (fun _ => trivial) ?_
    refine (ends_createStatementAt (advance_le hpos)).imp fun s rest h _ => ?_
    rw [statements, h, Tally.add_append]
  · rename_i hcur
    simp only [Tally.addAt_eq]
    refine .scan (f := fun (s : Option Statement) => p.add s.toList) hcur (fun _ => trivial) ?_
    refine (ends_alterTableAt (advance_le hpos)).imp fun s rest h _ => ?_
    rw [statements, h, Tally.add_append]
  · rename_i t hcreate halter hcur
    refine .step hcur trivial fun _ => ?_
    rw [statements]
    · exact hcreate
    · exact halter

theorem ends_statementsAt (src : Source) :
    Ends src 0 (statementsAt src) fun p _ => p = Tally.of (statements (upToEnd src)) := by
  have hread := ends_loop (fun pos p hpos _ => leads_statementTurn p hpos) (Nat.zero_le src.length)
    (a := ⟨.empty, 0⟩) trivial
  refine hread.imp fun p _ h => ?_
  rw [← h trivial, ahead, List.drop_zero, Tally.add, Nat.zero_add]
  rfl

theorem readScriptAt_eq (d : Dialect) (text : String) :
    readScriptAt d text = some (readScript d text) := by
  obtain ⟨stop, p, hscan, -, -, rfl⟩ :=
    ends_statementsAt ((tokens d.backslashEscapes text.toList).map some ++ [none])
  rw [readScriptAt, hscan, upToEnd_ended]
  simp only [Option.bind_eq_bind, Option.bind_some, attachAllAt_eq]
  exact (apply_ite some _ _ _).symm

end

end SchemaGraph.Sql.Scan
