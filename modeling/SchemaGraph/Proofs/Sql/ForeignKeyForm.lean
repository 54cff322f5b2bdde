import SchemaGraph.Proofs.Sql.ModifierOrder

/-!
# Foreign keys on several columns

A clause about a foreign key names columns, a table, and perhaps columns of this table, as many as
there are columns. Otherwise it is no clause at all (`ForeignKeyForm.readClause_tokens`). A
reference that is part of a column names one column at most (`ColumnStart.readClause_wide`).
-/

namespace SchemaGraph.Sql

open KeyForm

/-- The names of columns, at least of one. -/
structure ColumnList where
  first : ColumnName
  more : List ColumnName

namespace ColumnList

def names (l : ColumnList) : List String := l.first.name :: l.more.map (·.name)

/-- The names in parentheses, with commas between them. -/
def tokens (l : ColumnList) : List Token :=
  .leftParen :: l.first.token :: (l.more.flatMap (fun c => [.comma, c.token]) ++ [.rightParen])

theorem columnNames_more (more : List ColumnName) (rest : List Token) :
    columnNames 0 false (more.flatMap (fun c => [.comma, c.token]) ++ .rightParen :: rest)
      = (more.map (·.name), rest) := by
  induction more with
  | nil => simp [columnNames]
  | cons c more ih =>
    rw [List.flatMap_cons, List.append_assoc, List.cons_append, List.singleton_append, columnNames,
      if_neg (Nat.lt_irrefl 0), if_pos rfl, columnNames_name, ih]
    · rfl
    · simp
    · simp

/-- The list is read up to its closing parenthesis. -/
theorem columnList?_tokens (l : ColumnList) (rest : List Token) :
    columnList? (l.tokens ++ rest) = .ok (l.names, rest) := by
  simp [tokens, columnList?, columnNames_name, columnNames_more, names]

end ColumnList

/-- A clause about a foreign key, apart from the columns that it refers to. -/
structure ForeignKeyForm where
  constraint : Option ConstraintName
  columns : ColumnList
  table : QualifiedName
  /-- What is to happen on changes. -/
  rest : List Token
  rest_noDot : rest.head? ≠ some .dot
  rest_noParen : rest.head? ≠ some .leftParen

namespace ForeignKeyForm

/-- The columns that the clause refers to, if it names them. -/
def targetTokens : Option ColumnList → List Token
  | none => []
  | some l => l.tokens

/-- The clause with the columns that it refers to. -/
def tokens (f : ForeignKeyForm) (target : Option ColumnList) : List Token :=
  constraintTokens f.constraint ++ .keyword .foreign :: .keyword .key ::
    (f.columns.tokens ++ .keyword .references ::
      (f.table.tokens ++ (targetTokens target ++ f.rest)))

/-- What the clause says. -/
def said (f : ForeignKeyForm) : Option ColumnList → Except Problem Clause
  | none => .ok (.foreignKey f.columns.names ⟨f.table.name, []⟩)
  | some l =>
    if l.names.length = f.columns.names.length then
      .ok (.foreignKey f.columns.names ⟨f.table.name, l.names⟩)
    else .error (.columnCountMismatch f.columns.names.length l.names.length)

theorem foreignKeyTarget_tokens (f : ForeignKeyForm) (target : Option ColumnList) :
    foreignKeyTarget f.columns.names
        (.keyword .references :: (f.table.tokens ++ (targetTokens target ++ f.rest)))
      = f.said target := by
  rw [foreignKeyTarget]
  cases target with
  | none =>
    rw [targetTokens, List.nil_append, reference?_table f.table f.rest_noDot f.rest_noParen]
    rfl
  | some l =>
    rw [targetTokens, reference?_columns f.table (l.columnList?_tokens f.rest), said]
    by_cases hlength : l.names.length = f.columns.names.length
    · simp [hlength]
    · rw [if_neg hlength]
      exact if_pos (by simpa [ColumnList.names] using hlength)

/-- The clause is read as what it says, with or without the name of a constraint. -/
theorem readClause_tokens (f : ForeignKeyForm) (target : Option ColumnList) :
    readClause (f.tokens target) = f.said target := by
  have hclause : ∀ more, foreignKeyClause (.keyword .key :: (f.columns.tokens ++ more))
      = foreignKeyTarget f.columns.names more := by
    intro more
    have hindex : skipIndexName (f.columns.tokens ++ more) = f.columns.tokens ++ more :=
      skipIndexName_columns f.columns.first _
    rw [foreignKeyClause, skipKeyword, if_pos rfl, hindex, f.columns.columnList?_tokens]
  rw [← f.foreignKeyTarget_tokens, ← hclause, tokens]
  cases f.constraint with
  | none => rfl
  | some t =>
    rw [constraintTokens, List.cons_append, List.singleton_append, readClause, skipName,
      if_pos t.2]
    rfl

end ForeignKeyForm

/-- A modifier that refers to more than one column is refused. -/
theorem modifiers_wide (c : ColumnClause) (table : QualifiedName) {columns : ColumnList}
    (hcolumns : columns.more ≠ []) (rest : List Token) :
    modifiers c (.keyword .references :: (table.tokens ++ (columns.tokens ++ rest)))
      = .error (.columnCountMismatch 1 columns.names.length) := by
  have hread := reference?_columns table (columns.columnList?_tokens rest)
  have hwide : 1 < columns.names.length := by
    rw [ColumnList.names, List.length_cons, List.length_map]
    exact Nat.succ_lt_succ (List.length_pos_iff.2 hcolumns)
  rw [modifiers]
  split
  · simp_all
  · rename_i heq
    rw [hread] at heq
    cases heq
    rw [if_pos hwide]

/-- A column that refers to more than one column is refused. -/
theorem ColumnStart.readClause_wide (c : ColumnStart) {ms : List Modifier}
    (hms : ∀ m ∈ ms.getLast?, m.endsWithDefault = false) (table : QualifiedName)
    {columns : ColumnList} (hcolumns : columns.more ≠ []) (rest : List Token) :
    readClause (c.tokens ms ++ .keyword .references :: (table.tokens ++ (columns.tokens ++ rest)))
      = .error (.columnCountMismatch 1 columns.names.length) := by
  have hlast : (ms.getLast?.map Modifier.endsWithDefault).getD false = false := by
    cases h : ms.getLast? with
    | none => rfl
    | some m => exact hms m h
  have hrun := @modifiers_tokens ms false c.column
    (.keyword .references :: (table.tokens ++ (columns.tokens ++ rest))) (by simp) (by simp)
  rw [hlast, pending, if_neg Bool.false_ne_true, List.nil_append, List.nil_append,
    modifiers_wide _ table hcolumns rest] at hrun
  rw [c.readClause_append ms fun t ht => ?_, hrun]
  · rfl
  · obtain rfl : .keyword .references = t := by simpa using ht
    decide

end SchemaGraph.Sql
