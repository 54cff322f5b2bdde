import SchemaGraph.Proofs.Sql.Accounting

/-!
# Columns of reserved names

A clause that begins with two bare words defines a column, or it is reported: it leaves a trace.
The reserved words are the exception, and besides the four that introduce clauses about indexes and
other tables there is a fifth one, `PERIOD`. A column of that name leaves no trace
(`traced_iff_of_readScript`).
-/

namespace SchemaGraph.Sql

/-- The words that introduce clauses about indexes, constraints and other tables. -/
def clauseWords : List String := ["FULLTEXT", "SPATIAL", "EXCLUDE", "LIKE"]

theorem isReserved_word (w : String) :
    isReserved (.word w) = (clauseWords.any (Text.sameWord w) || Text.sameWord w "PERIOD") := by
  simp [isReserved, reservedWords, clauseWords, Token.isWord, Bool.or_assoc]

section
variable {w : String} {rest : List Token}

/-- A clause that begins with a reserved word is skipped. -/
theorem outcome_reserved (h : isReserved (.word w) = true) (past : List (List Token)) :
    outcome past (.word w :: rest) = .skipped := by
  simp [outcome, readClause, h]

/-- Two bare words begin a column, unless the first one is reserved. -/
theorem outcome_words (h : isReserved (.word w) = false) (past : List (List Token)) (T : String) :
    (∃ p, outcome past (.word w :: .word T :: rest) = .reported p) ∨
      ∃ c, outcome past (.word w :: .word T :: rest) = .column c ∧ c.name = w := by
  have hread : readClause (.word w :: .word T :: rest)
      = (modifiers ⟨w, T ++ (declaredTail 0 rest).1, false, false, none⟩
          (declaredTail 0 rest).2).map .column := by
    simp [readClause, h, columnClause, columnName?, Token.name?]
  unfold outcome
  rw [hread]
  cases hmodifiers : modifiers ⟨w, T ++ (declaredTail 0 rest).1, false, false, none⟩
      (declaredTail 0 rest).2 with
  | error p => exact Or.inl ⟨p, rfl⟩
  | ok c =>
    dsimp only [Except.map]
    split
    · exact Or.inl ⟨_, rfl⟩
    · exact Or.inr ⟨c, rfl, (modifiers_spec hmodifiers).1⟩

end

/-! ## Traces -/

/-- The clause at position `i` of a body leaves a trace in the script: a column `w` of the table, or
a report of the statement. -/
inductive Traced (script : Script) (name : String) (body : List Token) (closed : Bool) (i : Nat)
    (w : String) : Prop where
  | column (clause : List Token) (c : ColumnClause)
    (hfinding : ⟨i, clause, .column c⟩ ∈ bodyFindings body) (hname : c.name = w)
    (htable : ∃ t ∈ script.definitions, t.name = name ∧ ∃ k ∈ t.columns, k.name = w)
  | report (r : Diagnostic) (hr : r ∈ newTableReports name (bodyFindings body) closed)
    (hi : r.clause = some i)

/-- Two bare words leave a trace, unless the first one is reserved. -/
theorem Accounted.traced_iff {d : Dialect} {ss before : List Statement} {name : String}
    {body : List Token} {closed : Bool} {script : Script}
    (h : Accounted d ss before name body closed script) {i : Nat} {w T : String}
    {rest : List Token} (hclause : (splitClauses body)[i]? = some (.word w :: .word T :: rest)) :
    Traced script name body closed i w ↔ isReserved (.word w) = false := by
  have hf := mem_bodyFindings hclause
  constructor
  · intro htraced
    by_contra hreserved
    rw [outcome_reserved (by simpa using hreserved)] at hf
    rcases htraced with ⟨clause, c, hfinding, -, -⟩ | ⟨r, hr, hi⟩
    · cases eq_of_place hf hfinding rfl
    · obtain ⟨g, hg, hplace, hg'⟩ := finding_of_mem_newTableReports hr hi
      cases eq_of_place hf hg hplace.symm
      rcases hg' with hreport | ⟨columns, houtcome⟩
      · cases hreport
      · cases houtcome
  · intro hfree
    rcases outcome_words hfree ((splitClauses body).take i) T with ⟨p, hp⟩ | ⟨c, hc, hname⟩
    · rw [hp] at hf
      refine .report ⟨name, some i, clauseText (.word w :: .word T :: rest), p⟩ ?_ rfl
      rw [newTableReports, foundReports]
      refine List.mem_append_right _ (List.mem_append_left _ (List.mem_append_left _ ?_))
      exact List.mem_filterMap.2 ⟨_, hf, rfl⟩
    · obtain ⟨t, ht, htable, k, hk, hkname, -⟩ := h.exists_column hf hc
      rw [hc] at hf
      exact .column _ c hf hname ⟨t, ht, htable, k, hk, hkname.trans hname⟩

/-- **A column is lost only if it is named as the fifth reserved word.** Every text with a
`CREATE TABLE` of a new name is read. A clause of its body that begins with two bare words, of which
the first is none of the four clause words, gives a column of that name or is reported, exactly if
its name is not `PERIOD`. -/
theorem traced_iff_of_readScript {d : Dialect} {text : String} {before after : List Statement}
    {name : String} {body : List Token} {closed : Bool}
    (hss : statements (tokens d.backslashEscapes text.toList)
      = before ++ .createTable name body closed :: after)
    (hname : name ∉ (Declarations.ofStatements before).tables.map (·.name)) :
    ∃ script, readScript d text = .ok script ∧
      (Declarations.ofStatements before).diagnostics
        ++ newTableReports name (bodyFindings body) closed <+: script.diagnostics ∧
      ∀ (i : Nat) (w T : String) (rest : List Token),
        (splitClauses body)[i]? = some (.word w :: .word T :: rest) →
        clauseWords.any (Text.sameWord w) = false →
        (Traced script name body closed i w ↔ Text.sameWord w "PERIOD" = false) := by
  have hcount : (before ++ .createTable name body closed :: after).countP (·.creates) ≠ 0 := by
    simp [Statement.creates]
  have haccounted := accounted_ofStatements d before after hname body closed
  obtain ⟨late, hlate⟩ := haccounted.reports
  refine ⟨_, readScript_of_countP hss hcount, ⟨late, hlate.symm⟩, fun i w T rest hclause hw => ?_⟩
  rw [haccounted.traced_iff hclause, isReserved_word, hw, Bool.false_or]

/-- A column of an ordinary name, one of a reserved name and a second column of one name. -/
def periodText : String := "CREATE TABLE t (id INT, period INT, id TEXT)"

/-- The column of the reserved name leaves no trace, the other two do. -/
theorem not_traced_periodText :
    ∃ script, readScript .standard periodText = .ok script ∧
      script.definitions = [⟨"t", [⟨"id", "INT", false, false, none⟩]⟩] ∧
      script.diagnostics = [⟨"t", some 2, "id TEXT", .duplicateColumn "id"⟩] ∧
      (let body := [.word "id", .word "INT", .comma, .word "period", .word "INT", .comma,
        .word "id", .word "TEXT"]
      Traced script "t" body true 0 "id" ∧ ¬ Traced script "t" body true 1 "period" ∧
        Traced script "t" body true 2 "id") := by
  have hstatements : statements (tokens Dialect.standard.backslashEscapes periodText.toList)
      = [] ++ .createTable "t" [.word "id", .word "INT", .comma, .word "period", .word "INT",
        .comma, .word "id", .word "TEXT"] true :: [] := by
    rw [periodText, String.toList_ofList]
    decide +kernel
  have houtcome : (readScript .standard periodText).map
        (fun script => (script.definitions, script.diagnostics))
      = .ok ([⟨"t", [⟨"id", "INT", false, false, none⟩]⟩],
        [⟨"t", some 2, "id TEXT", .duplicateColumn "id"⟩]) := by
    rw [readScript, periodText, String.toList_ofList]
    decide +kernel
  obtain ⟨script, hread, -, htraced⟩ := traced_iff_of_readScript hstatements
    (by simp [Declarations.ofStatements, Declarations.empty])
  rw [hread] at houtcome
  have hscript := Prod.mk.inj (Except.ok.inj houtcome)
  refine ⟨script, hread, hscript.1, hscript.2, ?_, ?_, ?_⟩
  · exact (htraced 0 "id" "INT" [] (by decide) (by decide)).2 (by decide)
  · rw [htraced 1 "period" "INT" [] (by decide) (by decide)]
    decide
  · exact (htraced 2 "id" "TEXT" [] (by decide) (by decide)).2 (by decide)

end SchemaGraph.Sql
