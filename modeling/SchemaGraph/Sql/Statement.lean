import SchemaGraph.Sql.Clause

/-!
# Statements of a script

A list of tokens is cut into statements, and the body of a table into clauses. Only statements that
define or alter tables are kept. A statement ends with a semicolon, or where the next one begins
with `CREATE` or `ALTER`, so a missing semicolon does no harm.
-/

namespace SchemaGraph.Sql

/-- A statement about tables. -/
inductive Statement where
  /-- `CREATE TABLE` with the tokens between the parentheses of the body; `closed` tells that the
  body has its closing parenthesis. -/
  | createTable (name : String) (body : List Token) (closed : Bool)
  | nameless (found : String)
  | bodiless (name : String)
  | alterTable (name : String) (actions : List (List Token))
  deriving DecidableEq, Repr

/-- The statement is a `CREATE TABLE`, complete or not. -/
def Statement.creates : Statement → Bool
  | alterTable _ _ => false
  | _ => true

/-! ## Groups and clauses -/

/-- The tokens of a group after its opening parenthesis. -/
structure Group where
  inside : List Token
  closed : Bool
  after : List Token

def Group.push (t : Token) (g : Group) : Group := { g with inside := t :: g.inside }

/-- The group at whose beginning the tokens stand (`balanced_group`); `depth` counts the groups open
inside it. -/
def balancedGroup (depth : Nat) : List Token → Group
  | [] => ⟨[], false, []⟩
  | t :: rest =>
    if t = .leftParen then (balancedGroup (depth + 1) rest).push t
    else if t = .rightParen then
      if depth = 0 then ⟨[], true, rest⟩ else (balancedGroup (depth - 1) rest).push t
    else (balancedGroup depth rest).push t

def depthAfter (depth : Nat) : Token → Nat
  | .leftParen => depth + 1
  | .rightParen => depth - 1
  | _ => depth

def pushFirst (t : Token) : List (List Token) → List (List Token)
  | [] => [[t]]
  | clause :: more => (t :: clause) :: more

/-- The stretches between the commas outside of parentheses. -/
def stretches (depth : Nat) : List Token → List (List Token)
  | [] => [[]]
  | t :: rest =>
    if t = .comma && depth = 0 then [] :: stretches 0 rest
    else pushFirst t (stretches (depthAfter depth t) rest)

/-- The clauses of a body (`split_clauses`): the stretches that are not empty. -/
def splitClauses (ts : List Token) : List (List Token) :=
  (stretches 0 ts).filter fun clause => !clause.isEmpty

/-! ## One statement -/

/-- The tokens after the current statement (`skip_statement`). -/
def skipStatement : List Token → List Token
  | [] => []
  | .semicolon :: rest => rest
  | .keyword .create :: rest => .keyword .create :: rest
  | .keyword .alter :: rest => .keyword .alter :: rest
  | _ :: rest => skipStatement rest

/-- The words that may stand between `CREATE` and `TABLE`. -/
def tableModifiers : List String :=
  ["OR", "REPLACE", "GLOBAL", "LOCAL", "TEMP", "TEMPORARY", "UNLOGGED"]

def isTableModifier (t : Token) : Bool := tableModifiers.any fun w => t.isWord w

/-- The tokens after `IF NOT EXISTS`. Once the first word stands there the others may be missing. -/
def skipIfNotExists : List Token → List Token
  | .keyword .ifWord :: rest => skipKeyword .existsWord (skipKeyword .not rest)
  | ts => ts

/-- The tokens after `IF EXISTS`, of which the second word may be missing, and `ONLY`. -/
def skipIfExistsOnly : List Token → List Token
  | .keyword .ifWord :: rest => skipKeyword .only (skipKeyword .existsWord rest)
  | ts => skipKeyword .only ts

def headText : List Token → String
  | [] => endText
  | t :: _ => t.text

/-- The statement that follows `CREATE TABLE`, and the tokens after it (`parse_create_table`). The
options after a body are passed over. -/
def createTable (ts : List Token) : Statement × List Token :=
  let ts := skipIfNotExists ts
  match qualifiedName? ts with
  | none => (.nameless (headText ts), skipStatement ts)
  | some (name, .leftParen :: rest) =>
    let g := balancedGroup 0 rest
    (.createTable name g.inside g.closed, skipStatement g.after)
  | some (name, rest) => (.bodiless name, skipStatement rest)

/-- The tokens of the actions of an `ALTER TABLE` (`parse_alter_table`), and the tokens after it.
Inside a group nothing ends the statement; a group that is not closed is closed here. -/
def actionTokens (depth : Nat) : List Token → List Token × List Token
  | [] => (if depth = 0 then [] else [.rightParen], [])
  | t :: rest =>
    if depth = 0 && t = .semicolon then ([], rest)
    else if depth = 0 && (t = .keyword .create || t = .keyword .alter) then ([], t :: rest)
    else
      let (actions, after) := actionTokens (depthAfter depth t) rest
      (t :: actions, after)

/-- The statement that follows `ALTER`, if it is about a table, and the tokens after it
(`parse_alter_table`). -/
def alterTable : List Token → Option Statement × List Token
  | .keyword .table :: rest =>
    let ts := skipIfExistsOnly rest
    match qualifiedName? ts with
    | none => (none, skipStatement ts)
    | some (name, rest) =>
      let (actions, after) := actionTokens 0 rest
      (some (.alterTable name (splitClauses actions)), after)
  | ts => (none, skipStatement ts)

/-! ## Nothing is given back -/

theorem balancedGroup_length_le (depth : Nat) (ts : List Token) :
    (balancedGroup depth ts).after.length ≤ ts.length := by
  fun_induction balancedGroup depth ts <;> simp_all [Group.push] <;> omega

theorem skipStatement_length_le (ts : List Token) : (skipStatement ts).length ≤ ts.length := by
  fun_induction skipStatement ts <;> simp_all
  omega

theorem actionTokens_length_le (depth : Nat) (ts : List Token) :
    (actionTokens depth ts).2.length ≤ ts.length := by
  fun_induction actionTokens depth ts <;> simp_all
  omega

theorem qualifiedName?_length_le {ts rest : List Token} {name : String}
    (h : qualifiedName? ts = some (name, rest)) : rest.length < ts.length := by
  unfold qualifiedName? at h
  split at h
  · cases h
  · rename_i t more
    cases hn : t.name? with
    | none => simp [hn] at h
    | some first =>
      simp only [hn, Option.map_some, Option.some.injEq] at h
      have := qualifiedTail_length_le first more
      rw [h] at this
      simp only [List.length_cons]
      exact Nat.lt_succ_of_le this

theorem skipIfNotExists_length_le (ts : List Token) :
    (skipIfNotExists ts).length ≤ ts.length := by
  unfold skipIfNotExists
  split
  · rename_i rest
    have h₁ := skipKeyword_length_le .not rest
    have h₂ := skipKeyword_length_le .existsWord (skipKeyword .not rest)
    simp only [List.length_cons]
    omega
  · exact Nat.le_refl _

theorem skipIfExistsOnly_length_le (ts : List Token) :
    (skipIfExistsOnly ts).length ≤ ts.length := by
  unfold skipIfExistsOnly
  split
  · rename_i rest
    have h₁ := skipKeyword_length_le .existsWord rest
    have h₂ := skipKeyword_length_le .only (skipKeyword .existsWord rest)
    simp only [List.length_cons]
    omega
  · exact skipKeyword_length_le .only ts

theorem createTable_length_le (ts : List Token) : (createTable ts).2.length ≤ ts.length := by
  have h := skipIfNotExists_length_le ts
  unfold createTable
  dsimp only
  split
  · exact Nat.le_trans (skipStatement_length_le _) h
  · rename_i rest hq
    have h₁ := qualifiedName?_length_le hq
    have h₂ := balancedGroup_length_le 0 rest
    have h₃ := skipStatement_length_le (balancedGroup 0 rest).after
    simp only [List.length_cons] at h₁
    dsimp only
    omega
  · rename_i rest _ hq
    have h₁ := qualifiedName?_length_le hq
    have h₂ := skipStatement_length_le rest
    dsimp only
    omega

theorem alterTable_length_le (ts : List Token) : (alterTable ts).2.length ≤ ts.length := by
  unfold alterTable
  split
  · rename_i rest
    have h := skipIfExistsOnly_length_le rest
    dsimp only
    split
    · have := skipStatement_length_le (skipIfExistsOnly rest)
      simp only [List.length_cons]
      omega
    · rename_i after hq
      have h₁ := qualifiedName?_length_le hq
      have h₂ := actionTokens_length_le 0 after
      simp only [List.length_cons]
      omega
  · exact skipStatement_length_le ts

/-! ## The whole script -/

def skipTableModifiers (ts : List Token) : List Token := ts.dropWhile isTableModifier

theorem skipTableModifiers_length_le (ts : List Token) :
    (skipTableModifiers ts).length ≤ ts.length :=
  (List.dropWhile_sublist isTableModifier).length_le

/-- After `CREATE`: a statement about a table, or nothing where something else is created. -/
def createStatement (ts : List Token) : Option Statement × List Token :=
  match skipTableModifiers ts with
  | .keyword .table :: rest =>
    let (s, after) := createTable rest
    (some s, after)
  | rest => (none, skipStatement rest)

theorem createStatement_length_le (ts : List Token) :
    (createStatement ts).2.length ≤ ts.length := by
  have h := skipTableModifiers_length_le ts
  unfold createStatement
  split
  · rename_i rest heq
    rw [heq] at h
    simp only [List.length_cons] at h
    have := createTable_length_le rest
    dsimp only
    omega
  · exact Nat.le_trans (skipStatement_length_le _) h

/-- The statements of a script (`parse`). -/
def statements : List Token → List Statement
  | [] => []
  | .keyword .create :: rest =>
    let step := createStatement rest
    step.1.toList ++ statements step.2
  | .keyword .alter :: rest =>
    let step := alterTable rest
    step.1.toList ++ statements step.2
  | _ :: rest => statements rest
termination_by ts => ts.length
decreasing_by
  · have := createStatement_length_le rest
    simp only [List.length_cons]
    omega
  · have := alterTable_length_le rest
    simp only [List.length_cons]
    omega
  · simp

end SchemaGraph.Sql
