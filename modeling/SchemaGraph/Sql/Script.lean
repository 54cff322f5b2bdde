import SchemaGraph.Sql.Lexer
import SchemaGraph.Sql.Resolve

/-!
# Reading a script

The whole way from text to table definitions: tokens, statements, declared tables, and then the
foreign keys. The dialect matters at both ends only, for escapes in literals and for type names.
-/

namespace SchemaGraph.Sql

inductive ScriptError where
  | noTableStatements
  deriving DecidableEq, Repr

def ScriptError.message : ScriptError → String
  | noTableStatements => "No CREATE TABLE statements found"

/-- What was read from a script. -/
structure Script where
  definitions : List TableDefinition
  diagnostics : List Diagnostic
  dropped : List Dropped
  tableStatements : Nat

def Script.ofStatements (d : Dialect) (ss : List Statement) : Script :=
  let declared := Declarations.ofStatements ss
  let attached := attachAll declared.tables
  { definitions := declared.tables.map (resolveTable d declared.tables)
    diagnostics := declared.diagnostics ++ attached.diagnostics
    dropped := attached.dropped
    tableStatements := ss.countP (·.creates) }

/-- Reads a script (`parse_sql`). It may give no tables although it has statements; the reports then
say why. -/
def readScript (d : Dialect) (text : String) : Except ScriptError Script :=
  let script := Script.ofStatements d (statements (tokens d.backslashEscapes text.toList))
  if script.tableStatements = 0 then .error .noTableStatements else .ok script

end SchemaGraph.Sql
