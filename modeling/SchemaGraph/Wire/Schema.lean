import SchemaGraph.Json.Value
import SchemaGraph.Schema.Relationship
import SchemaGraph.Sql.Dialect

/-!
# Schema data as JSON

How tables and what belongs to them are stored. Each kind of data has an encoder and a decoder; a
record is an object with the fields in a fixed order, and may be read from an array of them.
-/

namespace SchemaGraph.Wire

open Json (Value)

/-! ## Names of choices -/

def encodeDialect (d : Sql.Dialect) : Value := .text d.key

def decodeDialect (v : Value) : Option Sql.Dialect := v.choice?.bind Sql.Dialect.ofKey?

def encodeFlag (f : ColumnFlag) : Value := .text f.key

def decodeFlag (v : Value) : Option ColumnFlag := v.choice?.bind ColumnFlag.ofKey?

/-! ## Records -/

def encodePoint (p : Canvas.Point Float) : Value :=
  .record [("x", .number p.x), ("y", .number p.y)]

def decodePoint (v : Value) : Option (Canvas.Point Float) := do
  match ← v.fields? ["x", "y"] with
  | [x, y] => pure ⟨← Value.required Value.float? x, ← Value.required Value.float? y⟩
  | _ => none

def encodeId (id : TableId) : Value := .text id.text

def decodeId (v : Value) : Option TableId := v.text?.map TableId.mk

def encodeForeignKey (r : ForeignKey) : Value :=
  .record [("table", .text r.table), ("column", .text r.column)]

def decodeForeignKey (v : Value) : Option ForeignKey := do
  match ← v.fields? ["table", "column"] with
  | [table, column] =>
    pure ⟨← Value.required Value.text? table, ← Value.required Value.text? column⟩
  | _ => none

/-- The field of a reference: it is left out where there is none. -/
def foreignKeyField : Option ForeignKey → List (String × Value)
  | none => []
  | some r => [("foreignKey", encodeForeignKey r)]

def encodeColumn (c : Column) : Value :=
  .record ([("name", .text c.name), ("type", .text c.typeName), ("primaryKey", .bool c.primaryKey),
    ("notNull", .bool c.notNull)] ++ foreignKeyField c.foreignKey)

/-- Flags that are not given are off, and a reference may be left out or null. -/
def decodeColumn (v : Value) : Option Column := do
  match ← v.fields? ["name", "type", "primaryKey", "notNull", "foreignKey"] with
  | [name, typeName, primaryKey, notNull, foreignKey] =>
    pure
      { name := ← Value.required Value.text? name
        typeName := ← Value.required Value.text? typeName
        primaryKey := ← Value.optional false Value.bool? primaryKey
        notNull := ← Value.optional false Value.bool? notNull
        foreignKey := ← Value.optional none (Value.nullable? decodeForeignKey) foreignKey }
  | _ => none

def encodeTable (t : Table Float) : Value :=
  .record [("id", encodeId t.id), ("name", .text t.name),
    ("columns", .array (t.columns.map encodeColumn)), ("position", encodePoint t.position)]

def decodeTable (v : Value) : Option (Table Float) := do
  match ← v.fields? ["id", "name", "columns", "position"] with
  | [id, name, columns, position] =>
    pure
      { id := ← Value.required decodeId id
        name := ← Value.required Value.text? name
        columns := ← Value.required (Value.items? decodeColumn) columns
        position := ← Value.required decodePoint position }
  | _ => none

def encodeRelationship (r : Relationship) : Value :=
  .record [("id", .text r.id), ("fromTable", .text r.fromTable), ("fromColumn", .text r.fromColumn),
    ("toTable", .text r.toTable), ("toColumn", .text r.toColumn)]

def decodeRelationship (v : Value) : Option Relationship := do
  match ← v.fields? ["id", "fromTable", "fromColumn", "toTable", "toColumn"] with
  | [id, fromTable, fromColumn, toTable, toColumn] =>
    pure
      { id := ← Value.required Value.text? id
        fromTable := ← Value.required Value.text? fromTable
        fromColumn := ← Value.required Value.text? fromColumn
        toTable := ← Value.required Value.text? toTable
        toColumn := ← Value.required Value.text? toColumn }
  | _ => none

/-- The tables of stored data, which may hold other fields beside them (`TablesInput`). -/
def decodeTables (v : Value) : Option (List (Table Float)) := do
  match ← v.fields? ["tables"] with
  | [tables] => Value.required (Value.items? decodeTable) tables
  | _ => none

end SchemaGraph.Wire
