import SchemaGraph.Sql.Diagnostic
import SchemaGraph.Sql.Token

/-!
# Clauses of a table body

A clause is a list of tokens. It defines a column, names the primary key, declares a foreign key, or
says something that a schema graph does not keep. Types are taken as declared: reading a clause does
not depend on the dialect.
-/

namespace SchemaGraph.Sql

/-- The target of a foreign key. Without columns it is the primary key of the table. -/
structure Reference where
  table : String
  columns : List String
  deriving DecidableEq, Repr

structure ColumnClause where
  name : String
  declared : String
  primaryKey : Bool
  notNull : Bool
  reference : Option Reference
  deriving DecidableEq, Repr

inductive Clause where
  | column (c : ColumnClause)
  | primaryKey (columns : List String)
  | foreignKey (columns : List String) (target : Reference)
  | skipped
  deriving DecidableEq, Repr

/-! ## Names and groups -/

/-- The tokens after a keyword that may stand here. -/
def skipKeyword (k : Keyword) : List Token → List Token
  | t :: rest => if t = .keyword k then rest else t :: rest
  | [] => []

def skipName : List Token → List Token
  | t :: rest => if t.name?.isSome then rest else t :: rest
  | [] => []

/-- The rest of a name with qualifiers, of which only the last part counts. -/
def qualifiedTail (name : String) : List Token → String × List Token
  | .dot :: t :: rest =>
    match t.name? with
    | some part => qualifiedTail part rest
    | none => (name, t :: rest)
  | [.dot] => (name, [])
  | rest => (name, rest)

/-- A name, perhaps with qualifiers (`qualified_name`): `public.users` gives `users`. -/
def qualifiedName? : List Token → Option (String × List Token)
  | [] => none
  | t :: rest => t.name?.map fun name => qualifiedTail name rest

/-- The tokens after the group that is open at the given depth; none if it is not closed. -/
def dropGroup (depth : Nat) : List Token → List Token
  | [] => []
  | .leftParen :: rest => dropGroup (depth + 1) rest
  | .rightParen :: rest => if depth ≤ 1 then rest else dropGroup (depth - 1) rest
  | _ :: rest => dropGroup depth rest

/-- The tokens after a group, or after a single token that opens none (`skip_parenthesized`). -/
def skipGroup : List Token → List Token
  | .leftParen :: rest => dropGroup 1 rest
  | rest => rest.drop 1

/-- The name of a column (`column_name`): a name, or one of two keywords that are common as names. A
keyword keeps no case, so these come in lower case. -/
def columnName? : Token → Option String
  | .keyword .key => some "key"
  | .keyword .index => some "index"
  | t => t.name?

/-- The names in a list of columns up to its closing parenthesis (the loop of `column_list`). Only
the first token of an entry counts, so lengths and orderings are passed over; `depth` counts the
groups open inside the list, and `expect` tells that an entry begins. -/
def columnNames (depth : Nat) (expect : Bool) : List Token → List String × List Token
  | [] => ([], [])
  | .leftParen :: rest => columnNames (depth + 1) expect rest
  | .rightParen :: rest => if depth = 0 then ([], rest) else columnNames (depth - 1) expect rest
  | t :: rest =>
    if 0 < depth then columnNames depth expect rest
    else if t = .comma then columnNames 0 true rest
    else
      let (names, after) := columnNames 0 false rest
      ((if expect then (columnName? t).toList else []) ++ names, after)

/-- A list of at least one column in parentheses (`column_list`): `(a, b DESC, c(10))` gives `a`,
`b`, `c`. -/
def columnList? : List Token → Except Problem (List String × List Token)
  | .leftParen :: rest =>
    let read := columnNames 0 true rest
    if read.1.isEmpty then .error .missingColumnList else .ok read
  | _ => .error .missingColumnList

/-! ## Keys -/

/-- The target of a foreign key, after the word that announces it (`parse_reference`). -/
def reference? (ts : List Token) : Except Problem (Reference × List Token) :=
  match qualifiedName? ts with
  | none => .error .missingReferencedTable
  | some (table, .leftParen :: rest) =>
    (columnList? (.leftParen :: rest)).map fun read => (⟨table, read.1⟩, read.2)
  | some (table, rest) => .ok (⟨table, []⟩, rest)

def primaryKeyClause (ts : List Token) : Except Problem Clause :=
  (columnList? (skipKeyword .key ts)).map fun read => .primaryKey read.1

/-- The tokens after a name that stands before a list of columns. -/
def skipIndexName : List Token → List Token
  | t :: .leftParen :: rest =>
    if t.name?.isSome then .leftParen :: rest else t :: .leftParen :: rest
  | ts => ts

/-- The target of a foreign key on the given columns, with as many columns if it names any. -/
def foreignKeyTarget (columns : List String) : List Token → Except Problem Clause
  | .keyword .references :: rest =>
    match reference? rest with
    | .error p => .error p
    | .ok (target, _) =>
      if !target.columns.isEmpty && target.columns.length != columns.length then
        .error (.columnCountMismatch columns.length target.columns.length)
      else .ok (.foreignKey columns target)
  | _ => .error .missingReferences

/-- A foreign key after its first word (`parse_foreign_key`). What is to happen on changes is passed
over. -/
def foreignKeyClause (ts : List Token) : Except Problem Clause :=
  match columnList? (skipIndexName (skipKeyword .key ts)) with
  | .error p => .error p
  | .ok (columns, rest) => foreignKeyTarget columns rest

/-! ## Columns -/

/-- The words that continue a type of several words (`TYPE_CONTINUATIONS`). -/
def typeContinuations : List String := ["PRECISION", "VARYING", "WITH", "WITHOUT", "TIME", "ZONE"]

def continuesType (t : Token) : Bool := typeContinuations.any fun w => t.isWord w

/-- The rest of a declared type: arguments, array suffixes and continuing words. `depth` counts the
argument lists that are open; inside them every token counts. -/
def declaredTail (depth : Nat) : List Token → String × List Token
  | [] => ("", [])
  | t :: rest =>
    if 0 < depth then
      let inner := match t with
        | .leftParen => depth + 1
        | .rightParen => depth - 1
        | _ => depth
      let (more, after) := declaredTail inner rest
      (t.text ++ more, after)
    else if t = .leftParen then
      let (more, after) := declaredTail 1 rest
      (t.text ++ more, after)
    else if t = .brackets then
      let (more, after) := declaredTail 0 rest
      (t.text ++ more, after)
    else if continuesType t then
      let (more, after) := declaredTail 0 rest
      (" " ++ t.text ++ more, after)
    else ("", t :: rest)

/-- The tokens after the value of a default: a literal, a name, a group or a call. -/
def skipDefault : List Token → List Token
  | .leftParen :: rest => dropGroup 1 rest
  | _ :: .leftParen :: rest => dropGroup 1 rest
  | _ :: rest => rest
  | [] => []

theorem dropGroup_length_le (depth : Nat) (ts : List Token) :
    (dropGroup depth ts).length ≤ ts.length := by
  fun_induction dropGroup depth ts <;> simp_all <;> omega

theorem skipGroup_length_le (ts : List Token) : (skipGroup ts).length ≤ ts.length := by
  unfold skipGroup
  split
  · have := dropGroup_length_le 1 ‹_›
    simp only [List.length_cons]
    omega
  · simp

theorem skipKeyword_length_le (k : Keyword) (ts : List Token) :
    (skipKeyword k ts).length ≤ ts.length := by
  unfold skipKeyword
  split
  · split <;> simp
  · simp

theorem skipName_length_le (ts : List Token) : (skipName ts).length ≤ ts.length := by
  unfold skipName
  split
  · split <;> simp
  · simp

theorem skipDefault_length_le (ts : List Token) : (skipDefault ts).length ≤ ts.length := by
  unfold skipDefault
  split
  · have := dropGroup_length_le 1 ‹_›
    simp only [List.length_cons]
    omega
  · have := dropGroup_length_le 1 ‹_›
    simp only [List.length_cons]
    omega
  · simp
  · simp

theorem qualifiedTail_length_le (name : String) (ts : List Token) :
    (qualifiedTail name ts).2.length ≤ ts.length := by
  fun_induction qualifiedTail name ts <;> simp_all
  omega

theorem columnNames_length_le (depth : Nat) (expect : Bool) (ts : List Token) :
    (columnNames depth expect ts).2.length ≤ ts.length := by
  fun_induction columnNames depth expect ts <;> simp_all <;> omega

theorem columnList?_length_le {ts : List Token} {read : List String × List Token}
    (h : columnList? ts = .ok read) : read.2.length ≤ ts.length := by
  unfold columnList? at h
  split at h
  · rename_i rest
    have := columnNames_length_le 0 true rest
    dsimp only at h
    split at h
    · cases h
    · cases h
      simp only [List.length_cons]
      omega
  · cases h

theorem reference?_length_le {ts rest : List Token} {r : Reference}
    (h : reference? ts = .ok (r, rest)) : rest.length ≤ ts.length := by
  unfold reference? at h
  cases hq : qualifiedName? ts with
  | none => simp [hq] at h
  | some read =>
    obtain ⟨table, after⟩ := read
    have hle : after.length ≤ ts.length := by
      unfold qualifiedName? at hq
      split at hq
      · cases hq
      · rename_i t more
        cases hn : t.name? with
        | none => simp [hn] at hq
        | some name =>
          simp only [hn, Option.map_some, Option.some.injEq] at hq
          have := qualifiedTail_length_le name more
          rw [hq] at this
          simp only [List.length_cons]
          exact Nat.le_succ_of_le this
    rw [hq] at h
    split at h
    · cases ‹_›
    · rename_i more heq
      simp only [Option.some.injEq, Prod.mk.injEq] at heq
      obtain ⟨rfl, rfl⟩ := heq
      cases hl : columnList? (.leftParen :: more) with
      | error p => simp [hl, Except.map] at h
      | ok read =>
        simp only [hl, Except.map, Except.ok.injEq, Prod.mk.injEq] at h
        have := columnList?_length_le hl
        obtain ⟨_, rfl⟩ := h
        omega
    · rename_i heq
      simp only [Option.some.injEq, Prod.mk.injEq] at heq
      obtain ⟨rfl, rfl⟩ := heq
      cases h
      exact hle

/-- The modifiers of a column, applied in order (the loop of `parse_column`). What says nothing
about keys and nulls is passed over. A column refers to one column only. -/
def modifiers (c : ColumnClause) : List Token → Except Problem ColumnClause
  | [] => .ok c
  | .keyword .primary :: rest => modifiers { c with primaryKey := true } (skipKeyword .key rest)
  | .keyword .not :: .keyword .null :: rest => modifiers { c with notNull := true } rest
  | .keyword .references :: rest =>
    match h : reference? rest with
    | .error p => .error p
    | .ok (target, after) =>
      if 1 < target.columns.length then
        .error (.columnCountMismatch 1 target.columns.length)
      else
        have := reference?_length_le h
        modifiers { c with reference := some target } after
  | .keyword .default :: rest => modifiers c (skipDefault rest)
  | .keyword .check :: rest => modifiers c (skipGroup rest)
  | .leftParen :: rest => modifiers c (dropGroup 1 rest)
  | .keyword .constraint :: rest => modifiers c (skipName rest)
  | _ :: rest => modifiers c rest
termination_by ts => ts.length
decreasing_by
  all_goals simp only [List.length_cons]
  · have := skipKeyword_length_le .key rest; omega
  · omega
  · omega
  · have := skipDefault_length_le rest; omega
  · have := skipGroup_length_le rest; omega
  · have := dropGroup_length_le 1 rest; omega
  · have := skipName_length_le rest; omega
  · omega

/-- A column (`parse_column`): a name, a type and modifiers. -/
def columnClause : List Token → Except Problem Clause
  | [] => .error .missingColumnName
  | t :: rest =>
    match columnName? t with
    | none => .error .missingColumnName
    | some name =>
      match rest with
      | [] => .error (.missingType name)
      | u :: rest =>
        match u.name? with
        | none => .error (.missingType name)
        | some typeWord =>
          let read := declaredTail 0 rest
          (modifiers ⟨name, typeWord ++ read.1, false, false, none⟩ read.2).map .column

/-! ## The kind of a clause -/

/-- The words that introduce a clause about something a schema graph does not keep. -/
def reservedWords : List String := ["FULLTEXT", "SPATIAL", "EXCLUDE", "LIKE", "PERIOD"]

def isReserved (t : Token) : Bool := reservedWords.any fun w => t.isWord w

/-- A parenthesis opens a list of columns, not the arguments of a type: those are numbers or
strings. -/
def listsColumns : List Token → Bool
  | .number _ :: _ => false
  | .literal _ :: _ => false
  | .rightParen :: _ => false
  | t :: _ => !t.isWord "MAX"
  | [] => true

/-- After a leading `KEY` or `INDEX` (`is_index_clause`): the clause declares an index, and no
column of that name. -/
def isIndexClause : List Token → Bool
  | [] => true
  | .leftParen :: _ => true
  | t :: rest =>
    t.name?.isSome &&
      match rest with
      | .leftParen :: entries => listsColumns entries
      | u :: _ => u.isWord "USING"
      | [] => false

/-- A named constraint after its name. Only keys are kept. -/
def constraintClause : List Token → Except Problem Clause
  | .keyword .primary :: rest => primaryKeyClause rest
  | .keyword .foreign :: rest => foreignKeyClause rest
  | _ => .ok .skipped

/-- What the tokens of a clause say (`parse_clause`). -/
def readClause : List Token → Except Problem Clause
  | .keyword .constraint :: rest => constraintClause (skipName rest)
  | .keyword .primary :: rest => primaryKeyClause rest
  | .keyword .foreign :: rest => foreignKeyClause rest
  | .keyword .unique :: _ => .ok .skipped
  | .keyword .check :: _ => .ok .skipped
  | .keyword .index :: rest =>
    if isIndexClause rest then .ok .skipped else columnClause (.keyword .index :: rest)
  | .keyword .key :: rest =>
    if isIndexClause rest then .ok .skipped else columnClause (.keyword .key :: rest)
  | t :: rest => if isReserved t then .ok .skipped else columnClause (t :: rest)
  | [] => columnClause []

end SchemaGraph.Sql
