import SchemaGraph.Proofs.Sql.TableStatement
import SchemaGraph.Proofs.Sql.WrittenClause

/-!
# Scripts as they are written, and the statements that they are read as

A written script is read as one complete `CREATE TABLE` for each table, in the order of writing and
with nothing else between (`statements_written`). This does not depend on the dialect in which the
script is read, since written scripts have no string literals.
-/

namespace SchemaGraph.Sql

/-! ## The header -/

theorem newline_not_mem_toString (n : Nat) : '\n' ∉ (toString n).toList := by
  intro h
  have hdigits : (toString n).toList = Nat.toDigits 10 n := Nat.toList_repr
  rw [hdigits] at h
  exact absurd (Nat.isDigit_of_mem_toDigits (by decide) (by decide) h) (by decide)

theorem newline_not_mem_padded (width n : Nat) : '\n' ∉ (padded width n).toList := by
  have hn := newline_not_mem_toString n
  unfold padded
  rw [String.toList_ofList, List.mem_append, not_or]
  refine ⟨?_, hn⟩
  intro h
  exact absurd (List.eq_of_mem_replicate h) (by decide)

theorem newline_not_mem_yearText (year : Int) : '\n' ∉ (yearText year).toList := by
  unfold yearText
  split
  · exact newline_not_mem_padded _ _
  · rw [String.toList_append, List.mem_append, not_or]
    refine ⟨?_, newline_not_mem_padded _ _⟩
    split <;> decide

/-- A time is written on one line. -/
theorem newline_not_mem_instant (now : Instant) : '\n' ∉ now.text.toList := by
  unfold Instant.text Instant.textToSecond
  simp only [String.toList_append, List.mem_append, not_or]
  and_intros
  all_goals first
    | decide
    | with_reducible exact newline_not_mem_padded _ _
    | with_reducible exact newline_not_mem_yearText _

theorem newline_not_mem_label (d : Dialect) : '\n' ∉ d.label.toList := by cases d <;> decide

section
variable {escapes : Bool}

/-- The header of a script has no tokens. -/
theorem tokens_headerText (d : Dialect) (now : Instant) (rest : List Char) :
    tokens escapes ((headerText d now).toList ++ rest) = tokens escapes rest := by
  have htext : (headerText d now).toList ++ rest
      = '-' :: '-' :: (" Generated by SchemaForge".toList ++ '\n' ::
          ('-' :: '-' :: ((" Dialect: ".toList ++ d.label.toList) ++ '\n' ::
            ('-' :: '-' :: ((" Generated at: ".toList ++ now.text.toList) ++ '\n' ::
              '\n' :: rest))))) := by
    unfold headerText
    simp
  have hlabel : '\n' ∉ " Dialect: ".toList ++ d.label.toList := by
    rw [List.mem_append, not_or]
    exact ⟨by decide, newline_not_mem_label d⟩
  have htime : '\n' ∉ " Generated at: ".toList ++ now.text.toList := by
    rw [List.mem_append, not_or]
    exact ⟨by decide, newline_not_mem_instant now⟩
  rw [htext, tokens_lineComment (by decide), tokens_lineComment hlabel, tokens_lineComment htime,
    tokens_newline]

/-! ## Tables -/

/-- The tokens of the statement that creates a table. -/
def tableTokens (t : TableDefinition) : List Token :=
  .keyword .create :: .keyword .table :: nameToken t.name :: .leftParen ::
    (joinClauses ((writtenClauses t).map (·.tokens)) ++ [.rightParen, .semicolon])

/-- The lines of a body are read as its clauses with commas between them. -/
theorem tokens_clauseLines (d : Dialect) {clauses : List WrittenClause}
    (h : ∀ c ∈ clauses, c.Readable) (rest : List Char) :
    tokens escapes ((clauseLines (clauses.map (·.text d))).toList ++ rest)
      = joinClauses (clauses.map (·.tokens)) ++ tokens escapes rest := by
  have hindent : ∀ more, "  ".toList ++ more = ' ' :: ' ' :: more := fun _ => rfl
  have hlast : ∀ more, "\n".toList ++ more = '\n' :: more := fun _ => rfl
  have hnext : ∀ more, ",\n".toList ++ more = ',' :: '\n' :: more := fun _ => rfl
  induction clauses with
  | nil => rfl
  | cons clause clauses ih =>
    have hclause := h clause (List.mem_cons_self ..)
    cases clauses with
    | nil =>
      simp only [List.map_cons, List.map_nil, clauseLines, joinClauses, String.toList_append,
        List.append_assoc]
      rw [hindent, tokens_space, tokens_space, hlast, WrittenClause.tokens_text d hclause rfl,
        tokens_newline]
    | cons next clauses =>
      have hrest := ih fun c hc => h c (List.mem_cons_of_mem _ hc)
      simp only [List.map_cons, clauseLines, joinClauses, String.toList_append,
        List.append_assoc] at hrest ⊢
      rw [hindent, tokens_space, tokens_space, hnext, WrittenClause.tokens_text d hclause rfl,
        tokens_comma, tokens_newline, hrest, List.cons_append]

/-- The text of a table is read as its tokens. -/
theorem tokens_tableText (d : Dialect) {t : TableDefinition} (h : Writable t)
    (rest : List Char) :
    tokens escapes ((tableText d t).toList ++ rest) = tableTokens t ++ tokens escapes rest := by
  have hcreate : ∀ more, "CREATE TABLE ".toList ++ more
      = "CREATE".toList ++ ' ' :: ("TABLE".toList ++ ' ' :: more) := fun _ => rfl
  have hopen : ∀ more, " (\n".toList ++ more = ' ' :: '(' :: '\n' :: more := fun _ => rfl
  have hclose : ∀ more, ");\n\n".toList ++ more = ')' :: ';' :: '\n' :: '\n' :: more :=
    fun _ => rfl
  unfold tableText
  simp only [String.toList_append, List.append_assoc]
  rw [hcreate, tokens_keyword (k := .create) "CREATE" (by decide) (by decide) rfl, tokens_space,
    tokens_keyword (k := .table) "TABLE" (by decide) (by decide) rfl, tokens_space, hopen,
    tokens_quoteName d t.name rfl, tokens_space, tokens_leftParen, tokens_newline,
    clauseTexts_eq, tokens_clauseLines d h.readable, hclose, tokens_rightParen, tokens_semicolon,
    tokens_newline, tokens_newline]
  simp [tableTokens]

theorem tokens_tableTexts (d : Dialect) {ts : List TableDefinition} (h : ∀ t ∈ ts, Writable t) :
    tokens escapes (ts.flatMap fun t => (tableText d t).toList) = ts.flatMap tableTokens := by
  induction ts with
  | nil => exact tokens_nil escapes
  | cons t ts ih =>
    have ht := h t (List.mem_cons_self ..)
    rw [List.flatMap_cons, List.flatMap_cons, tokens_tableText d ht,
      ih fun u hu => h u (List.mem_cons_of_mem _ hu)]

end

/-! ## Statements -/

/-- The statement that a written table is read as. -/
def writtenStatement (t : TableDefinition) : Statement :=
  .createTable t.name (joinClauses ((writtenClauses t).map (·.tokens))) true

theorem nested_writtenClauses {t : TableDefinition} (h : Writable t) :
    Nested (joinClauses ((writtenClauses t).map (·.tokens))) := by
  refine nested_joinClauses fun c hc => ?_
  obtain ⟨clause, hclause, rfl⟩ := List.mem_map.1 hc
  exact WrittenClause.whole_tokens (h.readable clause hclause)

/-- The tokens of a table are one complete statement. -/
theorem statements_tableTokens {t : TableDefinition} (h : Writable t) (rest : List Token) :
    statements (tableTokens t ++ rest) = writtenStatement t :: statements rest := by
  have hshape : tableTokens t ++ rest
      = (TableStatement.plain (nameToken t.name) t.name _ (name?_nameToken h.name)
          (nested_writtenClauses h)).tokens ++ .semicolon :: rest := by
    simp [tableTokens, TableStatement.tokens, TableStatement.plain]
  rw [hshape, statements_tableStatement]
  rfl

theorem statements_tables {ts : List TableDefinition} (h : ∀ t ∈ ts, Writable t) :
    statements (ts.flatMap tableTokens) = ts.map writtenStatement := by
  induction ts with
  | nil =>
    rw [List.flatMap_nil, statements]
    rfl
  | cons t ts ih =>
    have ht := h t (List.mem_cons_self ..)
    rw [List.flatMap_cons, statements_tableTokens ht, List.map_cons,
      ih fun u hu => h u (List.mem_cons_of_mem _ hu)]

/-- A written script is read as one complete statement for each table. -/
theorem statements_written (escapes : Bool) (d : Dialect) (now : Instant)
    {ts : List TableDefinition} (h : ∀ t ∈ ts, Writable t) :
    statements (tokens escapes
        (headerText d now ++ String.join (ts.map (tableText d))).toList)
      = ts.map writtenStatement := by
  rw [String.toList_append, tokens_headerText, String.toList_join, List.flatMap_map,
    tokens_tableTexts d h, statements_tables h]

end SchemaGraph.Sql
