import SchemaGraph.Sql.Dialect
import SchemaGraph.Text.Blank
import SchemaGraph.Text.Upper

/-!
# Type names

A declared type is reduced to a canonical name in capitals, so that scripts of different dialects
give comparable columns. The aliases of the dialect are searched for in the declaration, then those
common to all; the first that occurs decides. A type without an alias keeps its own words, without
arguments.
-/

namespace SchemaGraph.Sql

abbrev Alias := String × String

def commonAliases : List Alias :=
  [("CHARACTER VARYING", "VARCHAR"), ("DOUBLE PRECISION", "DOUBLE"),
    ("TIMESTAMP WITH", "TIMESTAMP"), ("INTEGER", "INT"), ("BOOL", "BOOLEAN")]

/-- The aliases of one dialect, in order of precedence (`aliases`). -/
def Dialect.aliases : Dialect → List Alias
  | .standard => [("INT8", "BIGINT"), ("STRING", "TEXT"), ("SERIAL", "INT")]
  | .postgresql =>
    [("BIGSERIAL", "BIGINT"), ("SMALLSERIAL", "SMALLINT"), ("SERIAL", "INT"), ("INT8", "BIGINT"),
      ("INT4", "INT"), ("INT2", "SMALLINT"), ("TIMESTAMPTZ", "TIMESTAMP"), ("FLOAT8", "DOUBLE"),
      ("FLOAT4", "FLOAT"), ("BYTEA", "BLOB")]
  | .mysql =>
    [("TINYINT(1)", "BOOLEAN"), ("DATETIME", "TIMESTAMP"), ("LONGTEXT", "TEXT"),
      ("MEDIUMTEXT", "TEXT"), ("TINYTEXT", "TEXT"), ("LONGBLOB", "BLOB"), ("MEDIUMBLOB", "BLOB")]
  | .cockroachdb =>
    [("BIGSERIAL", "BIGINT"), ("SERIAL", "INT"), ("INT8", "BIGINT"), ("INT4", "INT"),
      ("STRING", "TEXT"), ("TIMESTAMPTZ", "TIMESTAMP"), ("BYTES", "BLOB")]
  | .sqlite => [("DATETIME", "TIMESTAMP")]

/-- A text without its parenthesized groups. `depth` counts the groups that are open; a closing
parenthesis without an opening one is dropped like any other. -/
def dropGroups (depth : Nat) : List Char → List Char
  | [] => []
  | c :: rest =>
    if c = '(' then dropGroups (depth + 1) rest
    else if c = ')' then dropGroups (depth - 1) rest
    else if depth = 0 then c :: dropGroups depth rest
    else dropGroups depth rest

/-- A text without the space before an opening bracket. -/
def attachBrackets : List Char → List Char
  | [] => []
  | [c] => [c]
  | c :: d :: rest =>
    if c = ' ' && d = '[' then d :: attachBrackets rest else c :: attachBrackets (d :: rest)

/-- The words of a declaration without arguments (`strip_arguments`). -/
def stripArguments (cs : List Char) : List Char :=
  attachBrackets (Text.squeeze (dropGroups 0 cs))

def findAlias? (d : Dialect) (cs : List Char) : Option Alias :=
  (d.aliases ++ commonAliases).find? fun a => Text.hasPart a.1.toList cs

/-- The canonical name of a declared type (`normalize_type`). -/
def normalizeType (d : Dialect) (declared : String) : String :=
  let capitals := Text.squeeze (Text.upper declared.toList)
  match findAlias? d capitals with
  | some a => a.2
  | none => String.ofList (stripArguments capitals)

/-- The name is the canonical name of itself (`is_canonical`). -/
def isCanonical (d : Dialect) (typeName : String) : Bool := normalizeType d typeName == typeName

end SchemaGraph.Sql
