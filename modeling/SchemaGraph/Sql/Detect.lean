import SchemaGraph.Sql.Dialect
import SchemaGraph.Sql.Lexer

/-!
# Guessing the dialect of a script

A dump names the tool that wrote it in a comment, and such a header decides. Otherwise the first
dialect decides one of whose own words occurs as a bare word; string literals and quoted names never
count. An array suffix points to one dialect too, and without any sign the script is standard.
-/

namespace SchemaGraph.Sql

/-- What the comments of a dump contain, in lower case, and the dialect that each speaks for, in
order of precedence (`DUMP_HEADERS`). -/
def dumpHeaders : List (String × Dialect) :=
  [("cockroachdb", .cockroachdb), ("postgres", .postgresql), ("pg_dump", .postgresql),
    ("mysql", .mysql), ("mariadb", .mysql), ("sqlite", .sqlite)]

/-- The bare words that only one dialect has, in order of precedence (`SIGNATURE_WORDS`). -/
def signatureWords : List (Dialect × List String) :=
  [(.cockroachdb, ["STRING", "LOCALITY", "INTERLEAVE"]),
    (.sqlite, ["AUTOINCREMENT", "ROWID"]),
    (.postgresql, ["SERIAL", "BIGSERIAL", "SMALLSERIAL", "TIMESTAMPTZ", "BYTEA", "JSONB"]),
    (.mysql, ["AUTO_INCREMENT", "TINYINT", "MEDIUMINT", "UNSIGNED", "ENGINE", "LONGTEXT"])]

def lines : List Char → List (List Char)
  | [] => [[]]
  | c :: rest =>
    if c = '\n' then [] :: lines rest
    else match lines rest with
      | [] => [[c]]
      | line :: more => (c :: line) :: more

/-- The line is a comment, or opens one. -/
def isCommentLine (line : List Char) : Bool :=
  ['-', '-'].isPrefixOf line || ['#'].isPrefixOf line || ['/', '*'].isPrefixOf line

/-- The comment lines of a text without their indentation, in lower case. -/
def commentLines (text : List Char) : List (List Char) :=
  (((lines text).map (·.dropWhile Text.isBlank)).filter isCommentLine).map Text.lower

def headerDialect? (text : List Char) : Option Dialect :=
  let comments := commentLines text
  (dumpHeaders.find? fun h => comments.any (Text.hasPart h.1.toList)).map (·.2)

def signatureDialect? (ts : List Token) : Option Dialect :=
  (signatureWords.find? fun s => ts.any fun t => s.2.any fun w => t.isWord w).map (·.1)

/-- The dialect that a script seems to be written in (`detect`). -/
def Dialect.detect (text : String) : Dialect :=
  match headerDialect? text.toList with
  | some d => d
  | none =>
    let ts := tokens false text.toList
    match signatureDialect? ts with
    | some d => d
    | none => if ts.contains .brackets then .postgresql else .standard

end SchemaGraph.Sql
