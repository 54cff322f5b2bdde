/-!
# What a script is reported for

A clause or a statement that cannot be used is skipped and reported; it never spoils the rest of the
script.
-/

namespace SchemaGraph.Sql

/-- Why a clause or a statement was skipped (`ClauseErrorKind`). -/
inductive Problem where
  | missingColumnName
  | missingType (column : String)
  | missingColumnList
  | missingReferences
  | missingReferencedTable
  | columnCountMismatch (columns referenced : Nat)
  | duplicateColumn (column : String)
  | unknownKeyColumn (column : String)
  | duplicateTable
  | missingTableName
  | missingBody
  | unterminatedBody
  | noColumns
  | unknownTable
  deriving DecidableEq, Repr

def Problem.message : Problem → String
  | missingColumnName => "expected a column name"
  | missingType column => "column `" ++ column ++ "` has no type"
  | missingColumnList => "expected a parenthesized column list"
  | missingReferences => "FOREIGN KEY without REFERENCES"
  | missingReferencedTable => "REFERENCES without a table name"
  | columnCountMismatch columns referenced =>
    toString columns ++ " referencing column(s) but " ++ toString referenced
      ++ " referenced column(s)"
  | duplicateColumn column => "column `" ++ column ++ "` is defined more than once"
  | unknownKeyColumn column => "primary key names unknown column `" ++ column ++ "`"
  | duplicateTable => "table is defined more than once"
  | missingTableName => "CREATE TABLE without a table name"
  | missingBody => "CREATE TABLE without a parenthesized body"
  | unterminatedBody => "table body is not closed"
  | noColumns => "table has no column definitions"
  | unknownTable => "ALTER TABLE names a table that was not defined"

/-- A report on one clause or statement (`ClauseError`): the table that the statement names, the
position of the clause in the table body, and the clause as it was read, where these help. -/
structure Diagnostic where
  table : String
  clause : Option Nat
  text : String
  problem : Problem
  deriving DecidableEq, Repr

/-- Where the problem is: clauses are counted from one. -/
def Diagnostic.place (d : Diagnostic) : String :=
  match d.clause with
  | some i =>
    ", clause " ++ toString (i + 1) ++ (if d.text.isEmpty then "" else ": `" ++ d.text ++ "`")
  | none => if d.text.isEmpty then "" else ": `" ++ d.text ++ "`"

def Diagnostic.message (d : Diagnostic) : String :=
  d.problem.message ++ " in table `" ++ d.table ++ "`" ++ d.place

end SchemaGraph.Sql
