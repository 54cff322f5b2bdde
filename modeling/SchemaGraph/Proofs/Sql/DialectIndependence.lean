import SchemaGraph.Proofs.Sql.Validity

/-!
# The dialect affects only types

The dialect is used twice when a script is read: it tells whether a backslash is an escape in a
string literal, and it normalises types. A text without backslashes has the same tokens in every
dialect (`tokens_of_backslash_not_mem`), and what is read from the same tokens differs in the types
of columns only (`untyped_ofStatements`).
-/

namespace SchemaGraph

/-- The column without its type. -/
def Column.untyped (c : Column) : Column := { c with typeName := "" }

/-- The table without the types of its columns. -/
def TableDefinition.untyped (t : TableDefinition) : TableDefinition :=
  { t with columns := t.columns.map Column.untyped }

namespace Sql

/-! ## Texts without backslashes -/

theorem literalBody_of_backslash_not_mem {cs : List Char} (h : '\\' ∉ cs) (a b : Bool) :
    literalBody a cs = literalBody b cs := by
  have hne : ∀ {c : Char} {rest : List Char}, '\\' ∉ c :: rest → c ≠ '\\' ∧ '\\' ∉ rest := by
    intro c rest hmem
    rw [List.mem_cons, not_or] at hmem
    exact ⟨Ne.symm hmem.1, hmem.2⟩
  fun_induction literalBody a cs with
  | case1 => rfl
  | case2 => simp [literalBody]
  | case3 c _ hslash => simp [hne h] at hslash
  | case4 c hquote => simp [literalBody, hquote, hne h]
  | case5 rest body after hread ih =>
    have hrest := ih (hne (hne h).2).2
    simp [literalBody, ← hrest, hread]
  | case6 d rest hquote => simp [literalBody, hquote]
  | case7 c d rest _ hslash => simp [hne h] at hslash
  | case8 c d rest hquote _ body after hread ih =>
    have hrest := ih (hne h).2
    simp [literalBody, hquote, hne h, ← hrest, hread]

theorem lexeme_of_backslash_not_mem {rest : List Char} (h : '\\' ∉ rest) (a b : Bool) (c : Char) :
    lexeme a c rest = lexeme b c rest := by
  simp only [lexeme, wordOrLiteral, literalLexeme, literalBody_of_backslash_not_mem h a b]

/-- Whether backslashes are escapes does not matter where there are none. -/
theorem tokens_of_backslash_not_mem {cs : List Char} (h : '\\' ∉ cs) (a b : Bool) :
    tokens a cs = tokens b cs := by
  fun_induction tokens a cs with
  | case1 => rw [tokens_nil]
  | case2 c rest step ih =>
    have hrest : '\\' ∉ rest := fun hmem => h (List.mem_cons_of_mem c hmem)
    have hafter : '\\' ∉ step.2 := fun hmem => hrest ((lexeme_suffix a c rest).subset hmem)
    rw [tokens_cons, ih hafter, lexeme_of_backslash_not_mem hrest b a c]

theorem backslashEscapes_of_ne {d : Dialect} (h : d ≠ .mysql) : d.backslashEscapes = false := by
  cases d with
  | mysql => exact absurd rfl h
  | _ => rfl

/-- The dialects read the text in the same way. -/
theorem tokens_dialect {d e : Dialect} {text : String}
    (h : '\\' ∉ text.toList ∨ (d ≠ .mysql ∧ e ≠ .mysql)) :
    tokens d.backslashEscapes text.toList = tokens e.backslashEscapes text.toList := by
  rcases h with h | ⟨hd, he⟩
  · exact tokens_of_backslash_not_mem h _ _
  · rw [backslashEscapes_of_ne hd, backslashEscapes_of_ne he]

/-! ## Scripts -/

theorem untyped_resolveTable (d e : Dialect) (tables : List DeclaredTable) (t : DeclaredTable) :
    (resolveTable d tables t).untyped = (resolveTable e tables t).untyped := by
  simp only [resolveTable, TableDefinition.untyped, List.map_map]
  rfl

/-- The same statements give the same tables up to types, and the same reports. -/
theorem untyped_ofStatements (d e : Dialect) (ss : List Statement) :
    let s := Script.ofStatements d ss
    let s' := Script.ofStatements e ss
    s.definitions.map (·.untyped) = s'.definitions.map (·.untyped) ∧
      s.diagnostics = s'.diagnostics ∧ s.dropped = s'.dropped ∧
      s.tableStatements = s'.tableStatements := by
  refine ⟨?_, rfl, rfl, rfl⟩
  simp only [Script.ofStatements, List.map_map]
  exact List.map_congr_left fun t _ => untyped_resolveTable d e _ t

/-- Placing tables keeps what they have besides types. -/
theorem untyped_tablesOf {K : Type} [Scalar K] (metrics : Canvas.TableMetrics K) (ids : IdSupply)
    (script : Script) :
    (Workspace.tablesOf metrics ids script).1.map (·.toTableDefinition.untyped)
      = script.definitions.map (·.untyped) := by
  rw [← Workspace.definitions_tablesOf metrics ids script, List.map_map]
  rfl

/-- **The dialect affects only types.** Any text is read in two dialects, and it has no backslash or
neither of them has escapes. Then it has no `CREATE TABLE` for both; or both give tables with the
same names and columns in the same order, and all that differs in the columns is their types. The
reports are the same, and the references that were dropped. Placing the tables under whatever
identities and with whatever measures changes nothing of this. -/
theorem readScript_dialects (d e : Dialect) (text : String)
    (h : '\\' ∉ text.toList ∨ (d ≠ .mysql ∧ e ≠ .mysql)) :
    (∃ err, readScript d text = .error err ∧ readScript e text = .error err) ∨
      ∃ script script', readScript d text = .ok script ∧ readScript e text = .ok script' ∧
        script.definitions.map (·.untyped) = script'.definitions.map (·.untyped) ∧
        script.diagnostics = script'.diagnostics ∧ script.dropped = script'.dropped ∧
        ∀ {K : Type} [Scalar K] (metrics metrics' : Canvas.TableMetrics K) (ids ids' : IdSupply),
          (Workspace.tablesOf metrics ids script).1.map (·.toTableDefinition.untyped)
            = (Workspace.tablesOf metrics' ids' script').1.map (·.toTableDefinition.untyped) := by
  unfold readScript
  dsimp only
  rw [← tokens_dialect h]
  obtain ⟨hdefs, hreports, hdropped, hcount⟩ :=
    untyped_ofStatements d e (statements (tokens d.backslashEscapes text.toList))
  generalize statements (tokens d.backslashEscapes text.toList) = ss at *
  rw [← hcount]
  by_cases hzero : (Script.ofStatements d ss).tableStatements = 0
  · rw [if_pos hzero, if_pos hzero]
    exact Or.inl ⟨_, rfl, rfl⟩
  · rw [if_neg hzero, if_neg hzero]
    refine Or.inr ⟨_, _, rfl, rfl, hdefs, hreports, hdropped, ?_⟩
    intro K _ metrics metrics' ids ids'
    rw [untyped_tablesOf, untyped_tablesOf, hdefs]

/-- A script with types of two dialects, a literal, and a clause that is no column. -/
def mixedText : String :=
  "CREATE TABLE u (id SERIAL PRIMARY KEY, at DATETIME DEFAULT 'it''s', 7 INT);
  CREATE TABLE p (owner INT8 NOT NULL REFERENCES u)"

/-- Each dialect knows some of the types; the tables are the same but for these. -/
theorem readScript_mixedText :
    '\\' ∉ mixedText.toList ∧
      ∃ script script', readScript .mysql mixedText = .ok script ∧
        readScript .postgresql mixedText = .ok script' ∧
        script.definitions ≠ script'.definitions ∧
        script.definitions.map (·.untyped) = script'.definitions.map (·.untyped) ∧
        script.diagnostics = script'.diagnostics := by
  have hslash : '\\' ∉ mixedText.toList := by decide +kernel
  refine ⟨hslash, ?_⟩
  have hmysql : (readScript .mysql mixedText).map (·.definitions) = .ok
      [⟨"u", [⟨"id", "SERIAL", true, false, none⟩, ⟨"at", "TIMESTAMP", false, false, none⟩]⟩,
        ⟨"p", [⟨"owner", "INT8", false, true, some ⟨"u", "id"⟩⟩]⟩] := by
    decide +kernel
  have hpostgresql : (readScript .postgresql mixedText).map (·.definitions) = .ok
      [⟨"u", [⟨"id", "INT", true, false, none⟩, ⟨"at", "DATETIME", false, false, none⟩]⟩,
        ⟨"p", [⟨"owner", "BIGINT", false, true, some ⟨"u", "id"⟩⟩]⟩] := by
    decide +kernel
  obtain ⟨script, hread, hdefs⟩ := exists_script hmysql
  obtain ⟨script', hread', hdefs'⟩ := exists_script hpostgresql
  refine ⟨script, script', hread, hread', ?_, ?_⟩
  · rw [hdefs, hdefs']
    decide
  · rcases readScript_dialects .mysql .postgresql mixedText (.inl hslash) with
      ⟨err, herr, -⟩ | ⟨_, _, hok, hok', huntyped, hreports, -⟩
    · rw [hread] at herr
      cases herr
    · rw [hread] at hok
      rw [hread'] at hok'
      cases hok
      cases hok'
      exact ⟨huntyped, hreports⟩

end Sql

end SchemaGraph
