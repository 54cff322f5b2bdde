import SchemaGraph.Canvas.Geometry
import SchemaGraph.Schema.Column
import SchemaGraph.Schema.Error

/-!
# Tables of a schema

A table has a definition, an identity and a place on the canvas. Every change gives a new table; one
that names a column by position is refused when there is no such column.
-/

namespace SchemaGraph

structure Table (K : Type) extends TableDefinition where
  id : TableId
  position : Canvas.Point K
  deriving DecidableEq, Repr

/-- The type of a column that is added by hand. -/
def defaultColumnType : String := "VARCHAR"

def columnTypes : List (String × List String) :=
  [("numeric", ["INT", "BIGINT", "DECIMAL", "FLOAT", "DOUBLE"]),
    ("text", ["VARCHAR", "TEXT", "CHAR"]), ("date", ["DATE", "TIMESTAMP", "TIME"]),
    ("binary", ["BLOB", "BINARY"]),
    ("boolean", ["BOOLEAN"])]

namespace Table

variable {K : Type} [Scalar K]

/-- Where a table lies that has not been placed. -/
def defaultPosition : Canvas.Point K := ⟨Scalar.whole 50, Scalar.whole 50⟩

/-- The columns of a table that is added by hand (`starter`). -/
def starterColumns : List Column :=
  [⟨"id", "INT", true, true, none⟩, ⟨"created_at", "TIMESTAMP", false, false, none⟩]

/-- A table of the given definition under a new identity, not yet placed (`Table::new`). -/
def ofDefinition (ids : IdSupply) (d : TableDefinition) : Table K × IdSupply :=
  let (id, ids) := ids.draw
  ({ d with id, position := defaultPosition }, ids)

/-- Tables of the given definitions, each under a new identity. -/
def ofDefinitions (ids : IdSupply) : List TableDefinition → List (Table K) × IdSupply
  | [] => ([], ids)
  | d :: rest =>
    let (t, ids) := ofDefinition ids d
    let (ts, ids) := ofDefinitions ids rest
    (t :: ts, ids)

/-! ## Comparing -/

/-- The same name and the same columns in order (`same_definition`). -/
def sameDefinition (a b : Table K) : Bool := a.toTableDefinition == b.toTableDefinition

/-- The same identity, definition and position. -/
def same (a b : Table K) : Bool :=
  a.id == b.id && sameDefinition a b && a.position.same b.position

/-! ## Changes -/

def renamed (t : Table K) (name : String) : Table K := { t with name }

def movedTo (t : Table K) (position : Canvas.Point K) : Table K := { t with position }

def withColumnAdded (t : Table K) (c : Column) : Table K := { t with columns := t.columns ++ [c] }

/-- Changes the column at a position (`map_column`). -/
def modifyColumn (t : Table K) (index : Nat) (f : Column → Column) :
    Except ModelError (Table K) :=
  if index < t.columns.length then .ok { t with columns := t.columns.modify index f }
  else .error (.columnIndex t.name index t.columns.length)

def withColumnReplaced (t : Table K) (index : Nat) (c : Column) : Except ModelError (Table K) :=
  t.modifyColumn index fun _ => c

def withColumnRemoved (t : Table K) (index : Nat) : Except ModelError (Table K) :=
  if index < t.columns.length then .ok { t with columns := t.columns.eraseIdx index }
  else .error (.columnIndex t.name index t.columns.length)

def withFlag (t : Table K) (index : Nat) (f : ColumnFlag) (value : Bool) :
    Except ModelError (Table K) :=
  t.modifyColumn index fun c => c.setFlag f value

def withFlagToggled (t : Table K) (index : Nat) (f : ColumnFlag) : Except ModelError (Table K) :=
  t.modifyColumn index fun c => c.setFlag f (!c.flag f)

/-- Sets the reference of a column, or clears it (`with_foreign_key`). -/
def withForeignKey (t : Table K) (index : Nat) (target : Option ForeignKey) :
    Except ModelError (Table K) :=
  t.modifyColumn index fun c => { c with foreignKey := target }

def refersTo (t : Table K) (name : String) : Bool := t.columns.any (·.refersTo name)

/-- The column without its reference, if that names the table. -/
def clearReference (name : String) (c : Column) : Column :=
  if c.refersTo name then { c with foreignKey := none } else c

def clearReferences (t : Table K) (name : String) : Table K :=
  { t with columns := t.columns.map (clearReference name) }

/-- The table without its references to the table of the given name, if there were any
(`without_references_to`). -/
def withoutReferencesTo (t : Table K) (name : String) : Option (Table K) :=
  if t.refersTo name then some (t.clearReferences name) else none

end Table

end SchemaGraph
