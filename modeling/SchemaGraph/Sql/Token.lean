import SchemaGraph.Text.Blank
import SchemaGraph.Text.Words

/-!
# Tokens of a schema script

The words, literals and structural signs that a schema is read from. Comments, layout and operators
never become tokens, so a statement is a list of these and nothing else.
-/

namespace SchemaGraph.Sql

/-- The words that structure statements. A bare word that is none of them is a name or a type. -/
inductive Keyword where
  | create | alter | add | table | only | primary | key | foreign | references | not | null
  | unique | default | on | constraint | index | check | ifWord | existsWord
  deriving DecidableEq, Repr

namespace Keyword

def all : List Keyword :=
  [create, alter, add, table, only, primary, key, foreign, references, not, null, unique, default,
    on, constraint, index, check, ifWord, existsWord]

def text : Keyword → String
  | create => "CREATE" | alter => "ALTER" | add => "ADD" | table => "TABLE" | only => "ONLY"
  | primary => "PRIMARY" | key => "KEY" | foreign => "FOREIGN" | references => "REFERENCES"
  | not => "NOT" | null => "NULL" | unique => "UNIQUE" | default => "DEFAULT" | on => "ON"
  | constraint => "CONSTRAINT" | index => "INDEX" | check => "CHECK" | ifWord => "IF"
  | existsWord => "EXISTS"

/-- The keyword that a bare word is, in any case (`keyword`). -/
def ofWord? (word : String) : Option Keyword := all.find? fun k => Text.sameWord k.text word

end Keyword

inductive Token where
  | keyword (k : Keyword)
  | word (s : String)
  /-- A name in double quotes, backquotes or brackets. It is never a keyword. -/
  | quoted (s : String)
  | literal (s : String)
  | number (s : String)
  | leftParen
  | rightParen
  | comma
  | semicolon
  | dot
  /-- The array suffix, an empty pair of brackets. -/
  | brackets
  deriving DecidableEq, Repr

namespace Token

/-- The name that a bare word or a quoted name gives (`ident`). A blank quoted name is no name. -/
def name? : Token → Option String
  | word s => some s
  | quoted s => if Text.allBlank s then none else some s
  | _ => none

/-- The bare word `w`, in any case (`is_word`). A quoted name never counts. -/
def isWord (w : String) : Token → Bool
  | word s => Text.sameWord s w
  | _ => false

def text : Token → String
  | keyword k => k.text
  | word s => s
  | quoted s => "\"" ++ s ++ "\""
  | literal s => "'" ++ s ++ "'"
  | number s => s
  | leftParen => "("
  | rightParen => ")"
  | comma => ","
  | semicolon => ";"
  | dot => "."
  | brackets => "[]"

end Token

def endText : String := "<eof>"

/-- The tokens as they are quoted in a report, with one space between them (`clause_text`). -/
def clauseText (tokens : List Token) : String := " ".intercalate (tokens.map Token.text)

/-! ## Small facts -/

theorem Keyword.mem_all (k : Keyword) : k ∈ Keyword.all := by cases k <;> decide

theorem Token.name?_keyword (k : Keyword) : (Token.keyword k).name? = none := rfl

theorem Token.isWord_eq_true {w : String} {t : Token} :
    t.isWord w = true ↔ ∃ s, t = .word s ∧ Text.sameWord s w = true := by
  cases t <;> simp [Token.isWord]

end SchemaGraph.Sql
