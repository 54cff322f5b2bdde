import SchemaGraph.Schema.Column
import SchemaGraph.Sql.Clause
import SchemaGraph.Sql.Dialect
import SchemaGraph.Sql.Instant
import SchemaGraph.Sql.Lexer

/-!
# Writing a script

Table definitions are written as `CREATE TABLE` statements in a given dialect. Names that would not
be read back as they are stand in quotes. Tables without foreign keys come first, so that a table
without a reference of its own precedes every table that refers to it.
-/

namespace SchemaGraph.Sql

inductive WritingError where
  | emptyTableName
  | emptyColumnName (table : String)
  | emptyColumnType (table column : String)
  deriving DecidableEq, Repr

def WritingError.message : WritingError → String
  | emptyTableName => "Table name cannot be empty"
  | emptyColumnName table => "Column name cannot be empty in table `" ++ table ++ "`"
  | emptyColumnType table column => "Column `" ++ table ++ "." ++ column ++ "` has no type"

/-! ## Names -/

/-- The name is read back as it is (`is_plain`): it has the form of a bare word and no word of the
language is spelled like it. -/
def isPlain (name : String) : Bool :=
  match name.toList with
  | [] => false
  | c :: rest =>
    isWordStart c && rest.all isWordChar && (Keyword.ofWord? name).isNone
      && !Text.isOneOf reservedWords name

/-- A text with each quote written twice. -/
def doubleQuote (q : Char) (cs : List Char) : List Char :=
  cs.flatMap fun c => if c = q then [q, q] else [c]

/-- A name as it is written in the dialect (`quote`). -/
def quoteName (d : Dialect) (name : String) : String :=
  if isPlain name then name
  else String.ofList (d.nameQuote :: doubleQuote d.nameQuote name.toList ++ [d.nameQuote])

/-! ## Statements -/

/-- The clause that defines a column (`column_definition`). -/
def columnText (d : Dialect) (c : Column) : String :=
  quoteName d c.name ++ " " ++ c.typeName ++ (if c.primaryKey then " PRIMARY KEY" else "")
    ++ (if c.notNull then " NOT NULL" else "")

/-- The clause that declares the reference of a column, if it has one. -/
def referenceText? (d : Dialect) (c : Column) : Option String :=
  c.foreignKey.map fun r =>
    "FOREIGN KEY (" ++ quoteName d c.name ++ ") REFERENCES " ++ quoteName d r.table ++ "("
      ++ quoteName d r.column ++ ")"

def clauseTexts (d : Dialect) (t : TableDefinition) : List String :=
  t.columns.map (columnText d) ++ t.columns.filterMap (referenceText? d)

def clauseLines : List String → String
  | [] => ""
  | [clause] => "  " ++ clause ++ "\n"
  | clause :: rest => "  " ++ clause ++ ",\n" ++ clauseLines rest

/-- The statement that creates a table (`write_table`). -/
def tableText (d : Dialect) (t : TableDefinition) : String :=
  "CREATE TABLE " ++ quoteName d t.name ++ " (\n" ++ clauseLines (clauseTexts d t) ++ ");\n\n"

def headerText (d : Dialect) (now : Instant) : String :=
  "-- Generated by SchemaForge\n-- Dialect: " ++ d.label ++ "\n-- Generated at: " ++ now.text
    ++ "\n\n"

/-! ## Scripts -/

def checkColumns (table : String) : List Column → Except WritingError Unit
  | [] => .ok ()
  | c :: rest =>
    if Text.allBlank c.name then .error (.emptyColumnName table)
    else if Text.allBlank c.typeName then .error (.emptyColumnType table c.name)
    else checkColumns table rest

/-- The table has a name, and so have its columns, which have types too (`validate`). -/
def checkTable (t : TableDefinition) : Except WritingError Unit :=
  if Text.allBlank t.name then .error .emptyTableName else checkColumns t.name t.columns

def checkTables : List TableDefinition → Except WritingError Unit
  | [] => .ok ()
  | t :: rest =>
    match checkTable t with
    | .error e => .error e
    | .ok () => checkTables rest

def writingOrder (ts : List TableDefinition) : List TableDefinition :=
  ts.filter (fun t => !t.hasForeignKeys) ++ ts.filter (·.hasForeignKeys)

/-- The script that creates the tables (`generate`). -/
def writeScript (d : Dialect) (now : Instant) (ts : List TableDefinition) :
    Except WritingError String :=
  match checkTables ts with
  | .error e => .error e
  | .ok () => .ok (headerText d now ++ String.join ((writingOrder ts).map (tableText d)))

end SchemaGraph.Sql
