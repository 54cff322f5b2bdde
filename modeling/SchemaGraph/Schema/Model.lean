import SchemaGraph.Method
import SchemaGraph.Schema.FreshName
import SchemaGraph.Schema.Relationship
import SchemaGraph.Text.Blank

/-!
# The schema model

The tables of a schema with the relationships between them. Its methods first build the tables that
are to be and check them; only then these take the place of the old ones, and the relationships are
read off anew.
-/

namespace SchemaGraph

structure Model (K : Type) where
  tables : List (Table K)
  relationships : List Relationship
  deriving DecidableEq, Repr

namespace Model

variable {K : Type} [Scalar K]

def empty : Model K := ⟨[], []⟩

/-- The schema of the given tables, which are not checked. -/
def withTables (tables : List (Table K)) : Model K := ⟨tables, Relationship.resolve tables⟩

/-! ## Looking up -/

def table? (m : Model K) (id : TableId) : Option (Table K) := m.tables.find? fun t => t.id == id

def tableByName? (m : Model K) (name : String) : Option (Table K) :=
  m.tables.find? fun t => t.name == name

/-- The table of the given identity, or why there is none. -/
protected def get (m : Model K) (id : TableId) : Except ModelError (Table K) :=
  match m.table? id with
  | some t => .ok t
  | none => .error (.unknownTable id)

/-! ## Checks -/

/-- Column names are neither blank nor repeated; `seen` are the names before these columns. -/
def checkColumns (table : String) (seen : List String) : List Column → Except ModelError Unit
  | [] => .ok ()
  | c :: rest =>
    if Text.allBlank c.name then .error (.emptyColumnName table)
    else if seen.contains c.name then .error (.duplicateColumnName table c.name)
    else checkColumns table (c.name :: seen) rest

/-- The table has a name, and its columns have names of their own (`validate_table`). -/
def checkTable (t : Table K) : Except ModelError Unit :=
  if Text.allBlank t.name then .error .emptyTableName else checkColumns t.name [] t.columns

/-- Every table passes the check, and no two have one name; `seen` are the names before. -/
def checkTables (seen : List String) : List (Table K) → Except ModelError Unit
  | [] => .ok ()
  | t :: rest =>
    match checkTable t with
    | .error e => .error e
    | .ok () =>
      if seen.contains t.name then .error (.duplicateTableName t.name)
      else checkTables (t.name :: seen) rest

/-- Another table, one with another identity, has the name. -/
def nameTaken (m : Model K) (id : TableId) (name : String) : Bool :=
  m.tables.any fun t => t.id != id && t.name == name

/-! ## Methods -/

/-- Adds a table with two columns under a fresh name (`add_table`). -/
def addTable (m : Model K) (ids : IdSupply) : TableId × Model K × IdSupply :=
  let name := freshName "Table" (m.tables.map (·.name))
  let (t, ids) := Table.ofDefinition ids ⟨name, Table.starterColumns⟩
  (t.id, withTables (m.tables ++ [t]), ids)

namespace InPlace

/-- The table of the given identity (`get`). -/
def find (id : TableId) : Method (Model K) ModelError (Table K) := do
  liftM ((← get).get id)

/-- Where the table of the given identity stands (`index_of`). -/
def indexOf (id : TableId) : Method (Model K) ModelError Nat := do
  match (← get).tables.findIdx? fun t => t.id == id with
  | some index => pure index
  | none => throw (.unknownTable id)

/-- Puts other tables in the place of the tables. The relationships stay as they are. -/
def setTables {ε : Type} (f : List (Table K) → List (Table K)) : Method (Model K) ε Unit :=
  modify fun m => { m with tables := f m.tables }

/-- Reads off the relationships anew (`recompute`). -/
def recompute {ε : Type} : Method (Model K) ε Unit :=
  modify fun m => { m with relationships := Relationship.resolve m.tables }

/-- Removes a table, and every reference to it (`remove_table`). -/
def removeTable (id : TableId) : Method (Model K) ModelError (Table K) := do
  let removed ← find id
  setTables fun ts => ts.eraseP fun t => t.id == id
  setTables fun ts => ts.map fun t => (t.withoutReferencesTo removed.name).getD t
  recompute
  pure removed

/-- Puts a table in the place of the one with the same identity (`replace_table`). -/
def replaceTable (id : TableId) (t : Table K) : Method (Model K) ModelError Unit := do
  let index ← indexOf id
  .require (t.id = id) (.idMismatch id t.id)
  liftM (checkTable t)
  .require ((← get).nameTaken id t.name = false) (.duplicateTableName t.name)
  setTables fun ts => ts.set index t
  recompute

/-- Replaces all tables (`replace_all`). -/
def replaceAll (tables : List (Table K)) : Method (Model K) ModelError Unit := do
  liftM (checkTables [] tables)
  setTables fun _ => tables
  recompute

/-- Replaces a table by what `change` makes of it. The methods that change one table all work in
this way. -/
def modifyTable (id : TableId) (change : Table K → Except ModelError (Table K)) :
    Method (Model K) ModelError Unit := do
  let t ← find id
  let changed ← liftM (change t)
  replaceTable id changed

def moveTable (id : TableId) (position : Canvas.Point K) : Method (Model K) ModelError Unit :=
  modifyTable id fun t => .ok (t.movedTo position)

def addColumn (id : TableId) (c : Column) : Method (Model K) ModelError Unit :=
  modifyTable id fun t => .ok (t.withColumnAdded c)

def updateColumn (id : TableId) (index : Nat) (c : Column) : Method (Model K) ModelError Unit :=
  modifyTable id fun t => t.withColumnReplaced index c

def removeColumn (id : TableId) (index : Nat) : Method (Model K) ModelError Unit :=
  modifyTable id fun t => t.withColumnRemoved index

def toggleFlag (id : TableId) (index : Nat) (f : ColumnFlag) : Method (Model K) ModelError Unit :=
  modifyTable id fun t => t.withFlagToggled index f

def setForeignKey (id : TableId) (index : Nat) (target : ForeignKey) :
    Method (Model K) ModelError Unit :=
  modifyTable id fun t => t.withForeignKey index (some target)

def clearForeignKey (id : TableId) (index : Nat) : Method (Model K) ModelError Unit :=
  modifyTable id fun t => t.withForeignKey index none

end InPlace

/-! ## What the methods make of a schema -/

def removeTable (m : Model K) (id : TableId) : Except ModelError (Table K × Model K) :=
  (InPlace.removeTable id).outcome m

def replaceTable (m : Model K) (id : TableId) (t : Table K) : Except ModelError (Model K) :=
  (InPlace.replaceTable id t).result m

/-- The schema that has all its tables replaced. Nothing is left of what it was before. -/
def replaceAll (tables : List (Table K)) : Except ModelError (Model K) :=
  (InPlace.replaceAll tables).result .empty

/-- The schema of the given tables, once they are checked (`from_tables`). -/
def ofTables (tables : List (Table K)) : Except ModelError (Model K) := replaceAll tables

def modifyTable (m : Model K) (id : TableId) (change : Table K → Except ModelError (Table K)) :
    Except ModelError (Model K) :=
  (InPlace.modifyTable id change).result m

def moveTable (m : Model K) (id : TableId) (position : Canvas.Point K) :
    Except ModelError (Model K) :=
  (InPlace.moveTable id position).result m

def addColumn (m : Model K) (id : TableId) (c : Column) : Except ModelError (Model K) :=
  (InPlace.addColumn id c).result m

def updateColumn (m : Model K) (id : TableId) (index : Nat) (c : Column) :
    Except ModelError (Model K) :=
  (InPlace.updateColumn id index c).result m

def removeColumn (m : Model K) (id : TableId) (index : Nat) : Except ModelError (Model K) :=
  (InPlace.removeColumn id index).result m

def toggleFlag (m : Model K) (id : TableId) (index : Nat) (f : ColumnFlag) :
    Except ModelError (Model K) :=
  (InPlace.toggleFlag id index f).result m

def setForeignKey (m : Model K) (id : TableId) (index : Nat) (target : ForeignKey) :
    Except ModelError (Model K) :=
  (InPlace.setForeignKey id index target).result m

def clearForeignKey (m : Model K) (id : TableId) (index : Nat) : Except ModelError (Model K) :=
  (InPlace.clearForeignKey id index).result m

end Model

end SchemaGraph
