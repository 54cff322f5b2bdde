import SchemaGraph.Schema.Column
import SchemaGraph.Sql.Declared
import SchemaGraph.Sql.TypeName

/-!
# Attaching foreign keys

When all tables are known, each declared foreign key is paired with columns of its target. A pair
whose two columns exist sets the reference of its column; a later pair for the same column wins. A
key whose target is not there is dropped.
-/

namespace SchemaGraph.Sql

/-- Why a foreign key, or one pair of its columns, was dropped. -/
inductive Dropped where
  | missingTable (table : String) (columns : List String) (target : String)
  | unknownColumn (table column : String)
  | missingColumn (table column : String)
  deriving DecidableEq, Repr

/-- What follows from declared foreign keys of one table. -/
structure Attachment where
  pairs : List (String × ForeignKey)
  dropped : List Dropped
  diagnostics : List Diagnostic

namespace Attachment

def empty : Attachment := ⟨[], [], []⟩

def append (a b : Attachment) : Attachment :=
  ⟨a.pairs ++ b.pairs, a.dropped ++ b.dropped, a.diagnostics ++ b.diagnostics⟩

/-- What follows from one pair of columns. -/
def ofPair (table target : DeclaredTable) (source referenced : String) : Attachment :=
  if !table.hasColumn source then { empty with dropped := [.unknownColumn table.name source] }
  else if !target.hasColumn referenced then
    { empty with dropped := [.missingColumn target.name referenced] }
  else { empty with pairs := [(source, ⟨target.name, referenced⟩)] }

/-- The columns that a key refers to: those it names, or else the target's primary key. -/
def targetColumns (key : KeyDeclaration) (target : DeclaredTable) : List String :=
  if key.target.columns.isEmpty then target.primaryKey else key.target.columns

/-- What follows from a key whose target is known. -/
def ofKeyTo (table target : DeclaredTable) (key : KeyDeclaration) : Attachment :=
  let columns := targetColumns key target
  if columns.length = key.columns.length then
    ((key.columns.zip columns).map fun p => ofPair table target p.1 p.2).foldr append empty
  else
    { empty with diagnostics :=
        [⟨table.name, key.clause, "", .columnCountMismatch key.columns.length columns.length⟩] }

def ofKey (tables : List DeclaredTable) (table : DeclaredTable) (key : KeyDeclaration) :
    Attachment :=
  match tables.find? fun t => t.name == key.target.table with
  | none => { empty with dropped := [.missingTable table.name key.columns key.target.table] }
  | some target => ofKeyTo table target key

/-- What follows from all keys of a table. -/
def ofTable (tables : List DeclaredTable) (table : DeclaredTable) : Attachment :=
  (table.keys.map (ofKey tables table)).foldr append empty

/-- The reference that a column ends up with: that of the last pair for it. -/
def referenceOf (a : Attachment) (column : String) : Option ForeignKey :=
  (a.pairs.reverse.find? fun p => p.1 == column).map (·.2)

end Attachment

def resolveColumn (d : Dialect) (a : Attachment) (c : DeclaredColumn) : Column where
  name := c.name
  typeName := normalizeType d c.declared
  primaryKey := c.primaryKey
  notNull := c.notNull
  foreignKey := a.referenceOf c.name

/-- The table in its final form (`resolve_tables`). -/
def resolveTable (d : Dialect) (tables : List DeclaredTable) (t : DeclaredTable) :
    TableDefinition where
  name := t.name
  columns := t.columns.map (resolveColumn d (Attachment.ofTable tables t))

def attachAll (tables : List DeclaredTable) : Attachment :=
  (tables.map (Attachment.ofTable tables)).foldr Attachment.append Attachment.empty

end SchemaGraph.Sql
