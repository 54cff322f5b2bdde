import SchemaGraph.Proofs.Scan.Scripts

/-!
# Every scan advances

A loop over a list of tokens moves its place on with every turn or is left, whatever the list: its
groups need not be closed, it may stop anywhere, and the end may be marked in the middle. So every
script and every clause is scanned to the end, and a text is read as its scan reads it
(`scan_advances`).
-/

namespace SchemaGraph.Sql.Scan

/-- The loops over a list of tokens, each of which advances. While a group is kept its depth is
above zero, and all other loops may have any value. -/
structure Advancing (src : Source) : Prop where
  statements : Advances src.length (fun _ => True) (statementTurn src)
  tableModifiers : Advances src.length (fun _ => True) (tableModifierTurn src)
  actions : Advances src.length (fun _ => True) (actionTurn src)
  skippedStatement : Advances src.length (fun _ => True) (skipStatementTurn src)
  keptGroup : Advances src.length (fun s => 0 < s.1) (balancedGroupTurn src)
  skippedGroup : Advances src.length (fun _ => True) (skipGroupTurn src)
  columnList : Advances src.length (fun _ => True) (columnListTurn src)
  qualifiers : Advances src.length (fun _ => True) (qualifierTurn src)
  declaredType : Advances src.length (fun _ => True) (typeTurn src)
  modifiers : Advances src.length (fun _ => True) (modifierTurn src)

theorem advancing (src : Source) : Advancing src where
  statements _ p hpos _ := (leads_statementTurn p hpos).onward
  tableModifiers _ _ hpos _ := (leads_tableModifierTurn hpos).onward
  actions _ actions hpos _ := (leads_actionTurn actions hpos).onward
  skippedStatement _ _ hpos _ := (leads_skipStatementTurn hpos).onward
  keptGroup _ s hpos hs := (leads_balancedGroupTurn s hs hpos).onward
  skippedGroup _ depth hpos _ := (leads_skipGroupTurn depth hpos).onward
  columnList _ s hpos _ := (leads_columnListTurn s hpos).onward
  qualifiers _ name hpos _ := (leads_qualifierTurn name hpos).onward
  declaredType _ declared hpos _ := (leads_typeTurn declared hpos).onward
  modifiers _ c hpos _ := (leads_modifierTurn c hpos).onward

/-- The text of a group is cut from the place of the group to the place behind it, and there is such
a stretch. -/
theorem groupTextAt_eq_slice {src : Source} {pos : Nat} (hpos : pos ≤ src.length) :
    ∃ stop group, skipGroupAt src pos = some (stop, ()) ∧ slice src pos stop = some group ∧
      groupTextAt src pos = some (stop, String.join (group.map markText)) := by
  obtain ⟨stop, _, hskip, on, inside, -⟩ := ends_skipGroupAt hpos
  refine ⟨stop, _, hskip, slice_of_le on inside, ?_⟩
  simp [groupTextAt, hskip, slice_of_le on inside]

/-- The loops advance whatever the list. No group is cut from outside of it, and a scan of it as a
clause ends inside of it. So does a scan of it as a script, which comes to an end without its checks
too, with the statements up to the first mark of the end. A lexeme leaves the end of what is behind
its first character, and every text is read as its scan reads it. -/
theorem scan_advances (src : Source) :
    Advancing src ∧
    (∀ pos ≤ src.length, ∃ stop group, skipGroupAt src pos = some (stop, ()) ∧
      slice src pos stop = some group ∧
      groupTextAt src pos = some (stop, String.join (group.map markText))) ∧
    (∃ stop read, stop ≤ src.length ∧ clauseAt src 0 = some (stop, read)) ∧
    (∃ stop, stop ≤ src.length ∧
      statementsAt src = some (stop, .of (statements (upToEnd src))) ∧
      Run (statementTurn src) 0 ⟨.empty, 0⟩ stop (.of (statements (upToEnd src)))) ∧
    (∀ escapes c rest, (lexeme escapes c rest).2 <:+ rest) ∧
    ∀ d text, readScriptAt d text = some (readScript d text) := by
  refine ⟨advancing src, fun pos hpos => groupTextAt_eq_slice hpos, ?_, ?_, lexeme_suffix,
    readScriptAt_eq⟩
  · obtain ⟨stop, read, hscan, -, inside, -⟩ := @ends_clauseAt src 0 (Nat.zero_le _)
    exact ⟨stop, read, inside, hscan⟩
  · obtain ⟨stop, p, hscan, -, inside, rfl⟩ := ends_statementsAt src
    exact ⟨stop, inside, hscan, .of_loop hscan⟩

/-- `CREATE TABLE t (a numeric(`, of which neither group is closed. -/
def unclosed : Source :=
  [.keyword .create, .keyword .table, .word "t", .leftParen, .word "a", .word "numeric",
    .leftParen].map some

/-- The loops advance where the second group opens, and the whole list is scanned. -/
theorem unclosed_scan_advances :
    Onward 7 (fun s => 0 < s.1) 6 (balancedGroupTurn unclosed 6 (2, [])) ∧
    (∃ stop group, skipGroupAt unclosed 6 = some (stop, ()) ∧ slice unclosed 6 stop = some group ∧
      groupTextAt unclosed 6 = some (stop, String.join (group.map markText))) ∧
    ∃ stop p, stop ≤ 7 ∧ statementsAt unclosed = some (stop, p) ∧ p.tableStatements = 1 := by
  obtain ⟨hloops, hgroups, -, ⟨stop, inside, hscan, -⟩, -⟩ := scan_advances unclosed
  have hinside : 6 ≤ unclosed.length := by decide
  exact ⟨hloops.keptGroup 6 (2, []) hinside (by decide), hgroups 6 hinside, stop, _, inside, hscan,
    by decide +kernel⟩

end SchemaGraph.Sql.Scan
