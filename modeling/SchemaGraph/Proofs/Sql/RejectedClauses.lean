import SchemaGraph.Proofs.Sql.Positions

/-!
# Clauses that are reported leave nothing else behind

A clause that cannot be read, or that defines a column once more, gives its body one report. Without
it the body declares the same table, and all other reports stay; those on later clauses close up by
one position (`newTableReports_without`). The same holds of the script (`isolated_ofStatements`).
-/

namespace SchemaGraph.Sql

open DeclaredTable

/-! ## Closing up -/

/-- The position `k` after the clause at position `i` is gone. -/
def closeUp (i k : Nat) : Nat := if i < k then k - 1 else k

/-- In the body of the table of the given name positions close up, in all others they stay. -/
def closing (name : String) (i : Nat) (table : String) : Nat → Nat :=
  if table = name then closeUp i else id

theorem closing_self (name : String) (i : Nat) : closing name i name = closeUp i := if_pos rfl

/-- Findings on clauses that move up by one. -/
theorem findings_closeUp {i j : Nat} (h : i ≤ j) (past clauses : List (List Token)) :
    findings j past clauses
      = (findings (j + 1) past clauses).map (Finding.moved (closeUp i)) := by
  induction clauses generalizing j past with
  | nil => rfl
  | cons clause clauses ih =>
    have hplace : closeUp i (j + 1) = j := by simp [closeUp, Nat.lt_succ_of_le h]
    rw [findings, findings, List.map_cons, ← ih (Nat.le_succ_of_le h), Finding.moved, hplace]

/-- Findings on clauses before the one that goes. -/
theorem findings_stay {i j : Nat} {clauses : List (List Token)} (h : j + clauses.length ≤ i)
    (past : List (List Token)) :
    (findings j past clauses).map (Finding.moved (closeUp i)) = findings j past clauses := by
  induction clauses generalizing j past with
  | nil => rfl
  | cons clause clauses ih =>
    rw [List.length_cons] at h
    have hplace : closeUp i j = j := by simp [closeUp]; omega
    rw [findings, List.map_cons, ih (by omega), Finding.moved, hplace]

/-! ## One clause of a body -/

section
variable {pre post : List (List Token)} {clause : List Token} {p : Problem}

/-- A clause that is reported defines no column that is not already there. -/
theorem sameColumns_of_reported (h : outcome pre clause = .reported p) :
    SameColumns pre (pre ++ [clause]) := by
  intro column
  rw [List.any_append, List.any_cons, List.any_nil, Bool.or_false]
  cases hdefines : definesColumn column clause with
  | false => rw [Bool.or_false]
  | true =>
    unfold definesColumn at hdefines
    unfold outcome at h
    split at hdefines
    · rename_i c hread
      rw [beq_iff_eq] at hdefines
      simp only [hread, hdefines] at h
      split at h
      · rename_i hknown
        rw [hknown, Bool.or_true]
      · cases h
    · cases hdefines

/-- The findings on a body without the clause are those with it, moved up. -/
theorem findings_without (h : outcome pre clause = .reported p) :
    ∃ early late, findings 0 [] (pre ++ clause :: post)
        = early ++ ⟨pre.length, clause, .reported p⟩ :: late ∧
      findings 0 [] (pre ++ post)
        = (early ++ late).map (Finding.moved (closeUp pre.length)) := by
  refine ⟨findings 0 [] pre, findings (pre.length + 1) (pre ++ [clause]) post, ?_, ?_⟩
  · rw [findings_append, findings, List.nil_append, Nat.zero_add, h]
  · rw [List.map_append, findings_stay (by omega),
      ← findings_congr _ (sameColumns_of_reported h), ← findings_closeUp (Nat.le_refl _),
      findings_append, List.nil_append, Nat.zero_add]

end

/-- A finding of which nothing is taken makes no difference. -/
theorem filterMap_without {α : Type} {g : Finding → Option α} {x : Finding} (h : g x = none)
    (early late : List Finding) :
    (early ++ x :: late).filterMap g = (early ++ late).filterMap g := by
  rw [List.filterMap_append, List.filterMap_cons, h, List.filterMap_append]

section
variable (name : String) {place : Nat} {clause : List Token} {p : Problem}
  (early late : List Finding)

theorem columns_without :
    (early ++ ⟨place, clause, .reported p⟩ :: late).filterMap Finding.column?
      = (early ++ late).filterMap Finding.column? := filterMap_without rfl early late

theorem foundTable_without :
    foundTable name (early ++ ⟨place, clause, .reported p⟩ :: late)
      = foundTable name (early ++ late) := by
  rw [foundTable, columns_without, filterMap_without rfl, filterMap_without rfl]
  rfl

/-- The report on the clause is missing. -/
theorem oneMore_newTableReports (closed : Bool) :
    OneMore ⟨name, some place, clauseText clause, p⟩
      (newTableReports name (early ++ ⟨place, clause, .reported p⟩ :: late) closed)
      (newTableReports name (early ++ late) closed) := by
  have hclauses : OneMore ⟨name, some place, clauseText clause, p⟩
      ((early ++ ⟨place, clause, .reported p⟩ :: late).filterMap (Finding.report? name))
      ((early ++ late).filterMap (Finding.report? name)) :=
    ⟨early.filterMap (Finding.report? name), late.filterMap (Finding.report? name),
      by rw [List.filterMap_append, List.filterMap_cons]; rfl, List.filterMap_append⟩
  rw [newTableReports, newTableReports, foundReports, foundReports, columns_without,
    foundTable_without, filterMap_without (g := Finding.primaryKey?) rfl]
  exact ((hclauses.append_right _).append_right _).append_left _

end

/-! ## The body -/

section
variable {name : String} {body body' clause : List Token} {pre post : List (List Token)}
  {p : Problem} (hbody : splitClauses body = pre ++ clause :: post)
  (hbody' : splitClauses body' = pre ++ post) (hreported : outcome pre clause = .reported p)
include hbody hbody' hreported

theorem found_without :
    (bodyFindings body').filterMap Finding.column?
        = (bodyFindings body).filterMap Finding.column? ∧
      foundTable name (bodyFindings body')
        = (foundTable name (bodyFindings body)).moved (closing name pre.length) ∧
      ∃ own, OneMore ⟨name, some pre.length, clauseText clause, p⟩
          (newTableReports name (bodyFindings body) true) own ∧
        newTableReports name (bodyFindings body') true
          = own.map (Diagnostic.moved (closing name pre.length)) := by
  obtain ⟨early, late, hfound, hfound'⟩ := @findings_without pre post _ _ hreported
  rw [bodyFindings, bodyFindings, hbody, hbody', hfound, hfound', ← closing_self name]
  refine ⟨?_, ?_, newTableReports name (early ++ late) true, ?_, ?_⟩
  · rw [columns_moved, columns_without]
  · rw [foundTable_moved, foundTable_without]
  · exact oneMore_newTableReports name early late true
  · exact newTableReports_moved _ name _ true

end

/-! ## The script -/

/-- How positions move in later reports on the table of the given name, when `ts` are the tables
after its statement. If it is not among them it has no columns, and the reports are about another
body. -/
def closingLater (ts : List DeclaredTable) (name : String) (i : Nat) : String → Nat → Nat :=
  if name ∈ ts.map (·.name) then closing name i else fun _ => id

/-- The second script lacks the report `r`, which is one of the statement `s` on the clause at `i`
of its body, and else both are the same: the tables, the foreign keys that led nowhere, and all
reports, those of the statements before it, its own, those of the statements after it, and those on
foreign keys. Only the positions of later clauses of the body close up. -/
structure Isolated (before : List Statement) (s : Statement) (after : List Statement)
    (name : String) (i : Nat) (r : Diagnostic) (script script' : Script) : Prop where
  definitions : script'.definitions = script.definitions
  dropped : script'.dropped = script.dropped
  tableStatements : script'.tableStatements = script.tableStatements
  diagnostics : ∃ own keys, OneMore r (s.reports (effects [] before)) own ∧
    script.diagnostics = reportsAfter [] before ++ (s.reports (effects [] before) ++
      (reportsAfter (s.effect (effects [] before)) after ++ keys)) ∧
    script'.diagnostics = reportsAfter [] before ++ (own.map (.moved (closing name i)) ++
      (reportsAfter (s.effect (effects [] before)) after ++
        keys.map (.moved (closingLater (s.effect (effects [] before)) name i))))

section
variable {name : String} {body body' clause : List Token} {pre post : List (List Token)}
  {p : Problem} {ts : List DeclaredTable}

/-- A statement without a clause that is reported declares the same, with positions moved. -/
theorem effect_without (hnew : name ∉ ts.map (·.name))
    (hbody : splitClauses body = pre ++ clause :: post)
    (hbody' : splitClauses body' = pre ++ post) (hreported : outcome pre clause = .reported p) :
    (Statement.createTable name body' true).effect ts
        = ((Statement.createTable name body true).effect ts).map (.moved
          (closingLater ((Statement.createTable name body true).effect ts) name pre.length)) ∧
      ∀ n, n ∉ ((Statement.createTable name body true).effect ts).map (·.name) →
        closingLater ((Statement.createTable name body true).effect ts) name pre.length n = id := by
  obtain ⟨hcolumns, htable, -⟩ := @found_without name _ _ _ _ _ _ hbody hbody' hreported
  rw [effect_createTable hnew, effect_createTable hnew, hcolumns, closingLater]
  by_cases hempty : ((bodyFindings body).filterMap Finding.column?).isEmpty = true
  · have hkeep : ts.map (DeclaredTable.moved fun _ => id) = ts :=
      (List.map_congr_left fun t _ => moved_of_eq rfl).trans (List.map_id ts)
    rw [if_pos hempty, if_pos hempty, List.append_nil, if_neg hnew, hkeep]
    exact ⟨rfl, fun _ _ => rfl⟩
  · have hkeep : ts.map (DeclaredTable.moved (closing name pre.length)) = ts := by
      refine (List.map_congr_left fun t ht => moved_of_eq (if_neg fun heq => ?_)).trans
        (List.map_id ts)
      exact hnew (List.mem_map.2 ⟨t, ht, heq⟩)
    have hmem : name ∈ (ts ++ [foundTable name (bodyFindings body)]).map (·.name) :=
      List.mem_map.2 ⟨_, List.mem_append_right _ (List.mem_singleton_self _), rfl⟩
    rw [if_neg hempty, if_neg hempty, if_pos hmem, List.map_append, hkeep, htable]
    refine ⟨rfl, fun n hn => if_neg fun heq => hn ?_⟩
    rwa [heq]

/-- A script without a clause that is reported. -/
theorem isolated_ofStatements (d : Dialect) {before : List Statement} (after : List Statement)
    (hnew : name ∉ (effects [] before).map (·.name))
    (hbody : splitClauses body = pre ++ clause :: post)
    (hbody' : splitClauses body' = pre ++ post) (hreported : outcome pre clause = .reported p) :
    Isolated before (.createTable name body true) after name pre.length
      ⟨name, some pre.length, clauseText clause, p⟩
      (.ofStatements d (before ++ .createTable name body true :: after))
      (.ofStatements d (before ++ .createTable name body' true :: after)) := by
  obtain ⟨-, -, own, hown, hreports⟩ := @found_without name _ _ _ _ _ _ hbody hbody' hreported
  obtain ⟨heffect, hothers⟩ := effect_without hnew hbody hbody' hreported
  obtain ⟨hlater, hlaterReports⟩ := effects_moved hothers after
  rw [← reports_createTable hnew] at hown hreports
  have heffects : ∀ s : Statement, effects [] (before ++ s :: after)
      = effects (s.effect (effects [] before)) after := fun s => effects_append [] before _
  have hall : ∀ s : Statement, reportsAfter [] (before ++ s :: after)
      = reportsAfter [] before ++ (s.reports (effects [] before) ++
        reportsAfter (s.effect (effects [] before)) after) :=
    fun s => reportsAfter_append [] before _
  have hmoved : effects [] (before ++ .createTable name body' true :: after)
      = (effects [] (before ++ .createTable name body true :: after)).map (.moved
        (closingLater ((Statement.createTable name body true).effect (effects [] before)) name
          pre.length)) := by
    rw [heffects, heffects, heffect, hlater]
  obtain ⟨hdefinitions, hdropped⟩ := definitions_moved d hmoved
  refine ⟨hdefinitions, hdropped, ?_, own,
    (attachAll (effects [] (before ++ .createTable name body true :: after))).diagnostics, hown,
    ?_, ?_⟩
  · rw [Script.ofStatements, Script.ofStatements, List.countP_append, List.countP_append]
    rfl
  · rw [Script.ofStatements_eq, hall]
    simp only [List.append_assoc]
  · rw [Script.ofStatements_eq, hall, hmoved, ← moved_attachAll, heffect, hlaterReports, hreports]
    simp only [List.append_assoc]
    rfl

end

end SchemaGraph.Sql
