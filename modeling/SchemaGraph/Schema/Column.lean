/-!
# Columns and table definitions

What a table is, apart from where it lies on the canvas: a name and columns, some of which refer to
a column of another table by name. A reference may dangle.
-/

namespace SchemaGraph

/-- A reference to the column `column` of the table `table`, by name. -/
structure ForeignKey where
  table : String
  column : String
  deriving DecidableEq, Repr

/-- The reference as it is shown to a reader. -/
def ForeignKey.text (r : ForeignKey) : String := r.table ++ "." ++ r.column

structure Column where
  name : String
  /-- The canonical type name, in capitals. -/
  typeName : String
  primaryKey : Bool
  notNull : Bool
  foreignKey : Option ForeignKey
  deriving DecidableEq, Repr

/-- The properties of a column that are on or off. -/
inductive ColumnFlag where
  | primaryKey
  | notNull
  deriving DecidableEq, Repr

namespace ColumnFlag

def key : ColumnFlag → String
  | primaryKey => "primaryKey"
  | notNull => "notNull"

def ofKey? (key : String) : Option ColumnFlag :=
  [primaryKey, notNull].find? fun f => f.key == key

theorem ofKey?_key (f : ColumnFlag) : ofKey? f.key = some f := by cases f <;> decide

end ColumnFlag

namespace Column

/-- A column with neither flag and no reference (`Column::new`). -/
def plain (name typeName : String) : Column := ⟨name, typeName, false, false, none⟩

def flag (f : ColumnFlag) (c : Column) : Bool :=
  match f with
  | .primaryKey => c.primaryKey
  | .notNull => c.notNull

def setFlag (f : ColumnFlag) (value : Bool) (c : Column) : Column :=
  match f with
  | .primaryKey => { c with primaryKey := value }
  | .notNull => { c with notNull := value }

def refersTo (table : String) (c : Column) : Bool := c.foreignKey.any fun r => r.table == table

theorem flag_setFlag (f : ColumnFlag) (value : Bool) (c : Column) :
    (c.setFlag f value).flag f = value := by cases f <;> rfl

theorem setFlag_flag (f : ColumnFlag) (c : Column) : c.setFlag f (c.flag f) = c := by
  cases f <;> rfl

end Column

structure TableDefinition where
  name : String
  columns : List Column
  deriving DecidableEq, Repr

namespace TableDefinition

/-- The first column of the given name (`column`). -/
def column? (t : TableDefinition) (name : String) : Option Column :=
  t.columns.find? fun c => c.name == name

def hasForeignKeys (t : TableDefinition) : Bool := t.columns.any fun c => c.foreignKey.isSome

/-- The columns of the primary key, in order. -/
def primaryKeyColumns (t : TableDefinition) : List Column := t.columns.filter (·.primaryKey)

end TableDefinition

end SchemaGraph
