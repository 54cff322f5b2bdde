import SchemaGraph.Schema.Table

/-!
# Relationships between tables

The relationships of a schema are read off its tables: one for each column whose reference names a
table of the schema. Whether the table has the named column does not matter here.
-/

namespace SchemaGraph

/-- A reference from a column of one table to a column of another, or of the same. -/
structure Relationship where
  id : String
  fromTable : String
  fromColumn : String
  toTable : String
  toColumn : String
  deriving DecidableEq, Repr

namespace Relationship

def touches (r : Relationship) (table : String) : Bool :=
  r.fromTable == table || r.toTable == table

variable {K : Type}

def idOf (table : TableId) (column : String) : String := "rel-" ++ table.text ++ "-" ++ column

/-- The relationship of a column of `table`, if its reference names one of the tables in `names`. -/
def ofColumn? (names : List String) (table : Table K) (c : Column) : Option Relationship :=
  match c.foreignKey with
  | none => none
  | some target =>
    if names.contains target.table then
      some ⟨idOf table.id c.name, table.name, c.name, target.table, target.column⟩
    else none

/-- The relationships of the tables, in the order of tables and columns (`resolve`). -/
def resolve (tables : List (Table K)) : List Relationship :=
  let names := tables.map (·.name)
  tables.flatMap fun t => t.columns.filterMap (ofColumn? names t)

end Relationship

end SchemaGraph
