import SchemaGraph.Schema.TableId

/-!
# Why a change of the schema is refused
-/

namespace SchemaGraph

inductive ModelError where
  | unknownTable (id : TableId)
  | idMismatch (expected found : TableId)
  | emptyTableName
  | duplicateTableName (name : String)
  | emptyColumnName (table : String)
  | duplicateColumnName (table column : String)
  | columnIndex (table : String) (index count : Nat)
  deriving DecidableEq, Repr

def ModelError.message : ModelError → String
  | unknownTable id => "No table with id `" ++ id.text ++ "`"
  | idMismatch expected found =>
    "Table id cannot change on replace (expected `" ++ expected.text ++ "`, got `" ++ found.text
      ++ "`)"
  | emptyTableName => "Table name cannot be empty"
  | duplicateTableName name => "A table named `" ++ name ++ "` already exists"
  | emptyColumnName table => "Column name cannot be empty in table `" ++ table ++ "`"
  | duplicateColumnName table column =>
    "Column `" ++ column ++ "` appears more than once in table `" ++ table ++ "`"
  | columnIndex table index count =>
    "Column index " ++ toString index ++ " out of range for table `" ++ table ++ "` ("
      ++ toString count ++ " columns)"

end SchemaGraph
