import SchemaGraph.Sql.Statement

/-!
# Tables as declared

The statements of a script are carried out one after the other. The result is the list of tables as
they are declared: their foreign keys are still names, because a key may come before the table it
refers to.
-/

namespace SchemaGraph.Sql

/-- A declared foreign key (`FkDef`), with the position of its clause if it stands in a body. -/
structure KeyDeclaration where
  columns : List String
  target : Reference
  clause : Option Nat
  deriving DecidableEq, Repr

structure DeclaredColumn where
  name : String
  declared : String
  primaryKey : Bool
  notNull : Bool
  deriving DecidableEq, Repr

/-- A declared table (`TableDef`). -/
structure DeclaredTable where
  name : String
  columns : List DeclaredColumn
  keys : List KeyDeclaration
  deriving DecidableEq, Repr

/-- What has been read of a script: the tables, and the reports in order. -/
structure Declarations where
  tables : List DeclaredTable
  diagnostics : List Diagnostic
  deriving DecidableEq, Repr

namespace DeclaredTable

def hasColumn (t : DeclaredTable) (name : String) : Bool := t.columns.any fun c => c.name == name

/-- The names of the columns of the primary key, in the order of the table. -/
def primaryKey (t : DeclaredTable) : List String := (t.columns.filter (·.primaryKey)).map (·.name)

def addKey (t : DeclaredTable) (clause : Option Nat) (columns : List String) (target : Reference) :
    DeclaredTable :=
  { t with keys := t.keys ++ [⟨columns, target, clause⟩] }

/-- Adds a column, and the foreign key that its own reference declares. -/
def addColumn (t : DeclaredTable) (clause : Option Nat) (c : ColumnClause) : DeclaredTable :=
  { t with
    columns := t.columns ++ [⟨c.name, c.declared, c.primaryKey, c.notNull⟩]
    keys := t.keys ++ (c.reference.map fun r => ⟨[c.name], r, clause⟩).toList }

def markPrimaryKey (t : DeclaredTable) (name : String) : DeclaredTable :=
  { t with columns := t.columns.map fun c =>
      if c.name = name then { c with primaryKey := true } else c }

end DeclaredTable

/-- Marks the columns of a primary key (`apply_primary_key`). A name without a column is reported,
and changes nothing. -/
def applyPrimaryKey (clause : Option Nat) (t : DeclaredTable) :
    List String → DeclaredTable × List Diagnostic
  | [] => (t, [])
  | name :: rest =>
    if t.hasColumn name then applyPrimaryKey clause (t.markPrimaryKey name) rest
    else
      let (marked, reports) := applyPrimaryKey clause t rest
      (marked, ⟨t.name, clause, "", .unknownKeyColumn name⟩ :: reports)

/-! ## The body of a table -/

/-- What has been read of a body. Primary keys are kept until all columns are known, since they may
come before the columns they name. -/
structure Body where
  table : DeclaredTable
  primaryKeys : List (Nat × List String)
  diagnostics : List Diagnostic
  deriving DecidableEq, Repr

def Body.report (b : Body) (i : Nat) (clause : List Token) (p : Problem) : Body :=
  { b with diagnostics := b.diagnostics ++ [⟨b.table.name, some i, clauseText clause, p⟩] }

/-- Carries out one clause of a body. Of two columns of one name the first stays. -/
def Body.add (b : Body) (i : Nat) (clause : List Token) : Body :=
  match readClause clause with
  | .error p => b.report i clause p
  | .ok .skipped => b
  | .ok (.primaryKey columns) => { b with primaryKeys := b.primaryKeys ++ [(i, columns)] }
  | .ok (.foreignKey columns target) => { b with table := b.table.addKey (some i) columns target }
  | .ok (.column c) =>
    if b.table.hasColumn c.name then b.report i clause (.duplicateColumn c.name)
    else { b with table := b.table.addColumn (some i) c }

def Body.addAll (b : Body) (i : Nat) : List (List Token) → Body
  | [] => b
  | clause :: rest => (b.add i clause).addAll (i + 1) rest

def applyPrimaryKeys (t : DeclaredTable) :
    List (Nat × List String) → DeclaredTable × List Diagnostic
  | [] => (t, [])
  | (i, columns) :: rest =>
    let (marked, reports) := applyPrimaryKey (some i) t columns
    let (final, more) := applyPrimaryKeys marked rest
    (final, reports ++ more)

/-- The table that a body declares, and the reports on its clauses. -/
def declareBody (name : String) (body : List Token) : DeclaredTable × List Diagnostic :=
  let b := Body.addAll ⟨⟨name, [], []⟩, [], []⟩ 0 (splitClauses body)
  let (table, reports) := applyPrimaryKeys b.table b.primaryKeys
  (table, b.diagnostics ++ reports)

/-! ## Statements -/

namespace Declarations

def empty : Declarations := ⟨[], []⟩

def table? (d : Declarations) (name : String) : Option DeclaredTable :=
  d.tables.find? fun t => t.name == name

def report (d : Declarations) (reports : List Diagnostic) : Declarations :=
  { d with diagnostics := d.diagnostics ++ reports }

/-- Replaces the table that has the same name. -/
def put (d : Declarations) (t : DeclaredTable) : Declarations :=
  { d with tables := d.tables.map fun u => if u.name = t.name then t else u }

/-- Carries out a complete `CREATE TABLE`. Of two tables of one name the first stays, and a table
without columns is none. -/
def create (d : Declarations) (name : String) (body : List Token) (closed : Bool) : Declarations :=
  let d := if closed then d else d.report [⟨name, none, "", .unterminatedBody⟩]
  match d.table? name with
  | some _ => d.report [⟨name, none, "", .duplicateTable⟩]
  | none =>
    let (table, reports) := declareBody name body
    let d := d.report reports
    if table.columns.isEmpty then d.report [⟨name, none, "", .noColumns⟩]
    else { d with tables := d.tables ++ [table] }

/-- The clause of an `ADD` action, without the word `COLUMN`. -/
def addedClause : List Token → List Token
  | t :: rest => if t.isWord "COLUMN" then rest else t :: rest
  | [] => []

/-- Adds what a clause says to a table that is already declared. `action` is the action as it was
read, for the report. -/
def extend (d : Declarations) (t : DeclaredTable) (action : List Token) (clause : List Token) :
    Declarations :=
  match readClause clause with
  | .error p => d.report [⟨t.name, none, clauseText action, p⟩]
  | .ok .skipped => d
  | .ok (.primaryKey columns) =>
    let (marked, reports) := applyPrimaryKey none t columns
    (d.put marked).report reports
  | .ok (.foreignKey columns target) => d.put (t.addKey none columns target)
  | .ok (.column c) =>
    if t.hasColumn c.name then
      d.report [⟨t.name, none, clauseText action, .duplicateColumn c.name⟩]
    else d.put (t.addColumn none c)

/-- Carries out one action of an `ALTER TABLE`. Only additions are kept. -/
def alter (d : Declarations) (name : String) (action : List Token) : Declarations :=
  match action with
  | .keyword .add :: rest =>
    match d.table? name with
    | none => d.report [⟨name, none, clauseText action, .unknownTable⟩]
    | some t => d.extend t action (addedClause rest)
  | _ => d

def carryOut (d : Declarations) : Statement → Declarations
  | .createTable name body closed => d.create name body closed
  | .nameless found => d.report [⟨"", none, found, .missingTableName⟩]
  | .bodiless name => d.report [⟨name, none, "", .missingBody⟩]
  | .alterTable name actions => actions.foldl (fun d action => d.alter name action) d

def ofStatements (ss : List Statement) : Declarations := ss.foldl carryOut empty

end Declarations

end SchemaGraph.Sql
