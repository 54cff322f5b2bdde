import SchemaGraph.Proofs.Canvas.PlacementOrder
import SchemaGraph.Proofs.Sql.ClauseCuts
import SchemaGraph.Proofs.Sql.RejectedClauses
import SchemaGraph.Proofs.Sql.Validity

/-!
# Malformed clauses are isolated

A clause of a closed body that cannot be read, or that defines a column once more, can be deleted
from the text of the script (`isolated_of_rejected`): the tables stay the same, and of the reports
only the one on the clause is missing. However much of the clause was read before the error was
found, nothing of it is left in the table, in the foreign keys or in later clauses.
-/

namespace SchemaGraph.Sql

/-- The clause at the position of the body is rejected: it cannot be read, or it defines a column
that a clause before it defines. -/
structure RejectedAt (body : List Token) (i : Nat) (clause : List Token) (p : Problem) : Prop where
  listed : (splitClauses body)[i]? = some clause
  problem : readClause clause = .error p ∨
    ∃ c, readClause clause = .ok (.column c) ∧ p = .duplicateColumn c.name ∧
      ((splitClauses body).take i).any (definesColumn c.name) = true

theorem RejectedAt.outcome {body clause : List Token} {i : Nat} {p : Problem}
    (h : RejectedAt body i clause p) :
    outcome ((splitClauses body).take i) clause = .reported p := by
  unfold Sql.outcome
  rcases h.problem with herror | ⟨c, hread, rfl, hdefined⟩
  · rw [herror]
  · simp only [hread, hdefined, if_true]

/-- A script with a `CREATE TABLE` is read. -/
theorem readScript_of_createTable {d : Dialect} {text : String} {before after : List Statement}
    {name : String} {body : List Token} {closed : Bool}
    (h : statements (tokens d.backslashEscapes text.toList)
      = before ++ .createTable name body closed :: after) :
    readScript d text
      = .ok (.ofStatements d (before ++ .createTable name body closed :: after)) := by
  refine readScript_of_countP h ?_
  rw [List.countP_append, List.countP_cons_of_pos (by rfl)]
  omega

/-- The clause that is missing is the one at its position. -/
theorem isolated_of_without (d : Dialect) {before after : List Statement}
    {name : String} {body clause ts ts' : List Token} {i : Nat} {p : Problem}
    (hstatements : statements ts = before ++ .createTable name body true :: after)
    (hnew : name ∉ (Declarations.ofStatements before).tables.map (·.name))
    (hrejected : RejectedAt body i clause p)
    (hwithout : WithoutClause before name i clause ts ts') :
    ∃ body', statements ts' = before ++ .createTable name body' true :: after ∧
      Isolated before (.createTable name body true) after name i
        ⟨name, some i, clauseText clause, p⟩
        (.ofStatements d (before ++ .createTable name body true :: after))
        (.ofStatements d (before ++ .createTable name body' true :: after)) := by
  have hclause : clause ≠ [] := by
    have hmem := List.mem_of_getElem? hrejected.listed
    simpa using (List.mem_filter.1 hmem).2
  obtain ⟨body₁, body', after₁, pre, post, hts, hts', hbody, hbody', rfl⟩ :=
    statements_without hwithout hclause
  rw [hstatements] at hts
  obtain ⟨hstatement, rfl⟩ := List.cons.inj (List.append_cancel_left hts)
  injection hstatement with _ hsame
  subst hsame
  have hreported := hrejected.outcome
  rw [hbody, List.take_left] at hreported
  rw [tables_eq_effects] at hnew
  exact ⟨body', hts', isolated_ofStatements d after hnew hbody hbody' hreported⟩

/-- **Malformed clauses are isolated.** Take a `CREATE TABLE` with a closed body in a text, of a
table that was not defined before, and a clause of the body that is rejected. The clause stands
between two signs in the text and can be deleted there, with or without a comma. In every text with
the tokens of such a deletion the script is read with the same tables, at the same places, whatever
identities they are given. The report on the clause is missing, and all others are the same, in the
same order, apart from the positions of later clauses of the body. -/
theorem isolated_of_rejected {d : Dialect} {text : String} {before after : List Statement}
    {name : String} {body clause : List Token} {i : Nat} {p : Problem}
    (hstatements : statements (tokens d.backslashEscapes text.toList)
      = before ++ .createTable name body true :: after)
    (hnew : name ∉ (Declarations.ofStatements before).tables.map (·.name))
    (hrejected : RejectedAt body i clause p) :
    ∃ script, readScript d text = .ok script ∧
      (∃ u c v e w, text.toList = u ++ c :: (v ++ e :: w) ∧
        tokens d.backslashEscapes v = clause ∧
        ∀ cs, LeftOver u c e w cs → WithoutClause before name i clause
          (tokens d.backslashEscapes text.toList) (tokens d.backslashEscapes cs)) ∧
      ∀ text' : String,
        WithoutClause before name i clause (tokens d.backslashEscapes text.toList)
          (tokens d.backslashEscapes text'.toList) →
        ∃ script', readScript d text' = .ok script' ∧
          Isolated before (.createTable name body true) after name i
            ⟨name, some i, clauseText clause, p⟩ script script' ∧
          ∀ {K : Type} [Scalar K] (metrics : Canvas.TableMetrics K) (ids ids' : IdSupply),
            (Workspace.tablesOf metrics ids' script').1.map Table.content
              = (Workspace.tablesOf metrics ids script).1.map Table.content := by
  have hread := readScript_of_createTable hstatements
  refine ⟨_, hread, exists_withoutClause hstatements hrejected.listed, fun text' hwithout => ?_⟩
  obtain ⟨body', hstatements', hisolated⟩ :=
    isolated_of_without d hstatements hnew hrejected hwithout
  have hread' := readScript_of_createTable hstatements'
  refine ⟨_, hread', hisolated, fun metrics ids ids' => ?_⟩
  rw [content_tablesOf metrics ids (closed_definitions hread).distinct,
    content_tablesOf metrics ids' (closed_definitions hread').distinct, hisolated.definitions]

/-- A clause with a type, marks, nested lists and half a reference, of which only the end is wrong;
a later clause that is rejected too, and a foreign key on two columns that leads to a key of one. -/
def malformedText : String :=
  "CREATE TABLE b (id INT, y DECIMAL(10, 2) NOT NULL CHECK (y IN (1, 2)) REFERENCES (a), id TEXT,
  k INT, FOREIGN KEY (id, k) REFERENCES a); CREATE TABLE a (x INT PRIMARY KEY);"

/-- The same text without the clause. -/
def repairedText : String :=
  "CREATE TABLE b (id INT, id TEXT,
  k INT, FOREIGN KEY (id, k) REFERENCES a); CREATE TABLE a (x INT PRIMARY KEY);"

/-- The clause that is missing. -/
def malformedClause : List Token :=
  [.word "y", .word "DECIMAL", .leftParen, .number "10", .comma, .number "2", .rightParen,
    .keyword .not, .keyword .null, .keyword .check, .leftParen, .word "y", .word "IN", .leftParen,
    .number "1", .comma, .number "2", .rightParen, .rightParen, .keyword .references, .leftParen,
    .word "a", .rightParen]

/-- The clauses of both texts after it. -/
def laterClauses : List (List Token) :=
  [[.word "id", .word "TEXT"], [.word "k", .word "INT"],
    [.keyword .foreign, .keyword .key, .leftParen, .word "id", .comma, .word "k", .rightParen,
      .keyword .references, .word "a"]]

/-- The body of the first text. -/
def malformedBody : List Token :=
  joinClauses ([[.word "id", .word "INT"]] ++ malformedClause :: laterClauses)

/-- The statement of both texts after the first one. -/
def keyStatement : Statement :=
  .createTable "a" [.word "x", .word "INT", .keyword .primary, .keyword .key] true

/-- The tokens of both texts after the first body. -/
def keyTokens : List Token :=
  [.semicolon, .keyword .create, .keyword .table, .word "a", .leftParen, .word "x", .word "INT",
    .keyword .primary, .keyword .key, .rightParen, .semicolon]

theorem opening_malformedText :
    Opening [] "b" [.keyword .create, .keyword .table, .word "b", .leftParen] := by
  refine ⟨rfl, fun rest => ?_⟩
  rw [List.cons_append, statements]
  rfl

/-- Without the clause both other reports stay, and close up. -/
theorem isolated_malformedText :
    ∃ script script', readScript .standard malformedText = .ok script ∧
      readScript .standard repairedText = .ok script' ∧
      Isolated [] (.createTable "b" malformedBody true) [keyStatement] "b" 1
        ⟨"b", some 1, clauseText malformedClause, .missingReferencedTable⟩ script script' ∧
      script.diagnostics = [⟨"b", some 1, clauseText malformedClause, .missingReferencedTable⟩,
        ⟨"b", some 2, "id TEXT", .duplicateColumn "id"⟩,
        ⟨"b", some 4, "", .columnCountMismatch 2 1⟩] ∧
      script'.diagnostics = [⟨"b", some 1, "id TEXT", .duplicateColumn "id"⟩,
        ⟨"b", some 3, "", .columnCountMismatch 2 1⟩] := by
  have htokens : tokens Dialect.standard.backslashEscapes malformedText.toList
      = [.keyword .create, .keyword .table, .word "b", .leftParen] ++
        (malformedBody ++ .rightParen :: keyTokens) := by
    rw [malformedText, String.toList_ofList]
    decide +kernel
  have htokens' : tokens Dialect.standard.backslashEscapes repairedText.toList
      = [.keyword .create, .keyword .table, .word "b", .leftParen] ++
        (joinClauses ([[.word "id", .word "INT"]] ++ laterClauses) ++ .rightParen ::
          keyTokens) := by
    rw [repairedText, String.toList_ofList]
    decide +kernel
  have hstatements : statements (tokens Dialect.standard.backslashEscapes malformedText.toList)
      = [] ++ .createTable "b" malformedBody true :: [keyStatement] := by
    rw [htokens]
    decide +kernel
  have hwhole : ∀ c ∈ [[.word "id", .word "INT"]] ++ malformedClause :: laterClauses, Whole c := by
    have hnested := (@closing_of_closed 0 (malformedBody ++ [.rightParen]) (by decide +kernel)).2
    have hbody : (balancedGroup 0 (malformedBody ++ [.rightParen])).inside = malformedBody := by
      decide +kernel
    have hstretches : stretches 0 malformedBody
        = [[.word "id", .word "INT"]] ++ malformedClause :: laterClauses := by
      decide +kernel
    rw [hbody] at hnested
    rw [← hstretches]
    exact whole_of_mem_stretches hnested
  have hrejected : RejectedAt malformedBody 1 malformedClause .missingReferencedTable :=
    ⟨by decide +kernel, Or.inl (by decide +kernel)⟩
  obtain ⟨script, hread, -, hless⟩ :=
    isolated_of_rejected hstatements (by decide) hrejected
  obtain ⟨script', hread', hisolated, -⟩ := hless repairedText
    (.intro opening_malformedText hwhole rfl (Or.inr rfl) htokens htokens')
  refine ⟨script, script', hread, hread', hisolated, ?_, ?_⟩
  · rw [eq_of_readScript hread, htokens]
    decide +kernel
  · rw [eq_of_readScript hread', htokens']
    decide +kernel

end SchemaGraph.Sql
