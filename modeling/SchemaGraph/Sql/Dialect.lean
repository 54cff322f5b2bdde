import SchemaGraph.Text.Words

/-!
# SQL dialects

A dialect decides how declared types are normalised, how names are quoted when a script is written,
and whether a backslash is an escape in a string literal. Statements are read the same way in all.
-/

namespace SchemaGraph.Sql

inductive Dialect where
  | standard | postgresql | mysql | cockroachdb | sqlite
  deriving DecidableEq, Repr

namespace Dialect

/-- Every dialect, in the order in which they are offered. -/
def all : List Dialect := [standard, postgresql, mysql, cockroachdb, sqlite]

/-- The key of the dialect in stored data. -/
def key : Dialect → String
  | standard => "standard"
  | postgresql => "postgresql"
  | mysql => "mysql"
  | cockroachdb => "cockroachdb"
  | sqlite => "sqlite"

def label : Dialect → String
  | standard => "Standard SQL"
  | postgresql => "PostgreSQL"
  | mysql => "MySQL"
  | cockroachdb => "CockroachDB"
  | sqlite => "SQLite"

/-- The names, in lower case, that a user may give for the dialect. -/
def names : Dialect → List String
  | standard => ["standard", "generic", "sql"]
  | postgresql => ["postgres", "postgresql", "pg"]
  | mysql => ["mysql", "mariadb"]
  | cockroachdb => ["cockroach", "cockroachdb", "crdb"]
  | sqlite => ["sqlite", "sqlite3"]

/-- The dialect that a user names, in any case (`from_str`). -/
def ofName? (name : String) : Option Dialect :=
  let lowered := String.ofList (Text.lower name.toList)
  all.find? fun d => d.names.contains lowered

def ofKey? (key : String) : Option Dialect := all.find? fun d => d.key == key

/-- A backslash in a string literal is an escape. -/
def backslashEscapes (d : Dialect) : Bool := d == mysql

def nameQuote : Dialect → Char
  | mysql => '\x60'
  | _ => '"'

theorem mem_all (d : Dialect) : d ∈ all := by cases d <;> decide

theorem ofKey?_key (d : Dialect) : ofKey? d.key = some d := by cases d <;> decide

end Dialect

end SchemaGraph.Sql
