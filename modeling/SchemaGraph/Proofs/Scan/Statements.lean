import SchemaGraph.Proofs.Scan.Clauses
import SchemaGraph.Proofs.Sql.BodyCuts

/-!
# Scans over statements

The scan of a script moves through the whole list. Loops pass over what a statement has that is not
kept, and collect the actions of an `ALTER TABLE`.
-/

namespace SchemaGraph.Sql.Scan

/-! ## The end of a statement -/

/-- A statement ends here: with a semicolon, with the script, or because the next one begins. -/
def endsStatement : Option Token → Bool
  | none => true
  | some .semicolon => true
  | some (.keyword .create) => true
  | some (.keyword .alter) => true
  | _ => false

section
variable (src : Source) (pos : Nat)

def skipStatementTurn (_ : Unit) : Option (Turn Unit Unit) :=
  if endsStatement (current src pos) then some (.leave pos ())
  else some (.next (advance src pos) ())

/-- Passes over the rest of a statement. -/
def skipStatementAt : Option (Nat × Unit) := do
  let (pos, _) ← loop src.length (skipStatementTurn src) pos ()
  some (eat src pos .semicolon, ())

/-- Collects a token or a whole group, until the statement ends. -/
def actionTurn (actions : List Token) : Option (Turn (List Token) (List Token)) :=
  if endsStatement (current src pos) then some (.leave pos actions)
  else if current src pos = some .leftParen then do
    let (pos, group) ← balancedGroupAt src pos
    some (.next pos (actions ++ .leftParen :: group.1 ++ [.rightParen]))
  else some (.next (advance src pos) (actions ++ (current src pos).toList))

/-- The tokens of the actions of an `ALTER TABLE`. -/
def actionTokensAt : Option (Nat × List Token) := do
  let (pos, actions) ← loop src.length (actionTurn src) pos []
  some (eat src pos .semicolon, actions)

end

section
variable {src : Source} {pos : Nat}

theorem skipStatement_of_ends {ts : List Token} (h : endsStatement ts.head? = true) :
    skipStatement ts = afterToken .semicolon ts := by
  cases ts with
  | nil => rfl
  | cons t rest =>
    unfold endsStatement at h
    split at h <;> simp_all [skipStatement, afterToken]

theorem leads_skipStatementTurn (hpos : pos ≤ src.length) :
    Leads src pos (fun _ => True) True (fun _ ts => skipStatement ts)
      (fun _ rest => afterToken .semicolon rest) () (skipStatementTurn src pos ()) := by
  unfold skipStatementTurn
  split
  · rename_i hend
    refine .leave (Nat.le_refl pos) hpos fun _ => skipStatement_of_ends ?_
    rw [head?_ahead, hend]
  · rename_i hend
    cases hcur : current src pos with
    | none => exact absurd (by rw [hcur]; rfl) hend
    | some t =>
      refine .step hcur trivial fun _ => ?_
      rw [hcur] at hend
      rw [skipStatement] <;> rintro rfl <;> exact hend rfl

theorem ends_skipStatementAt (hpos : pos ≤ src.length) :
    Ends src pos (skipStatementAt src pos) fun _ rest => skipStatement (ahead src pos) = rest := by
  have hskip := ends_loop (fun pos _ hpos _ => leads_skipStatementTurn hpos) hpos
    (a := ()) trivial
  refine hskip.bind fun stop _ _ inside hstop => ?_
  have hsemicolon := skips_eat .semicolon inside
  refine .done hsemicolon.on hsemicolon.inside ?_
  rw [hsemicolon.ahead_eq, ← hstop trivial]

theorem actionTokens_of_ends {ts : List Token} (h : endsStatement ts.head? = true) :
    actionTokens 0 ts = ([], afterToken .semicolon ts) := by
  cases ts with
  | nil => rfl
  | cons t rest =>
    unfold endsStatement at h
    split at h <;> simp_all [actionTokens, afterToken]

theorem actionTokens_cons {t : Token} (h : endsStatement (some t) ≠ true) (rest : List Token) :
    actionTokens 0 (t :: rest) = (t :: (actionTokens (depthAfter 0 t) rest).1,
      (actionTokens (depthAfter 0 t) rest).2) := by
  have hsemicolon : t ≠ .semicolon := by rintro rfl; exact h rfl
  have hcreate : t ≠ .keyword .create := by rintro rfl; exact h rfl
  have halter : t ≠ .keyword .alter := by rintro rfl; exact h rfl
  rw [actionTokens, if_neg (by simpa using hsemicolon), if_neg (by simp [hcreate, halter])]

theorem leads_actionTurn (actions : List Token) (hpos : pos ≤ src.length) :
    Leads src pos (fun _ => True) True
      (fun actions ts => (actions ++ (actionTokens 0 ts).1, (actionTokens 0 ts).2))
      (fun b rest => (b, afterToken .semicolon rest)) actions (actionTurn src pos actions) := by
  unfold actionTurn
  split
  · rename_i hend
    refine .leave (Nat.le_refl pos) hpos fun _ => ?_
    rw [actionTokens_of_ends (by rw [head?_ahead, hend]), List.append_nil]
  · rename_i hend
    split
    · rename_i hcur
      refine .scan (f := fun (group : List Token × Bool) => actions ++ .leftParen :: group.1
        ++ [.rightParen]) hcur ?_ ?_
      · exact fun _ => trivial
      refine (ends_balancedGroupAt hcur).imp fun group rest h _ => ?_
      rw [actionTokens_cons (by simp [endsStatement]), depthAfter, actionTokens_group, h]
      simp
    · rename_i hparen
      cases hcur : current src pos with
      | none => exact absurd (by rw [hcur]; rfl) hend
      | some t =>
        refine .step hcur trivial fun _ => ?_
        have hdepth : depthAfter 0 t = 0 := by
          unfold depthAfter
          split <;> simp_all
        rw [actionTokens_cons (by rw [← hcur]; exact hend), hdepth]
        simp

theorem ends_actionTokensAt (hpos : pos ≤ src.length) :
    Ends src pos (actionTokensAt src pos) fun actions rest =>
      actionTokens 0 (ahead src pos) = (actions, rest) := by
  have hread := ends_loop (fun pos actions hpos _ => leads_actionTurn actions hpos) hpos
    (a := []) trivial
  refine hread.bind fun stop actions _ inside hactions => ?_
  have hsemicolon := skips_eat .semicolon inside
  refine .done hsemicolon.on hsemicolon.inside ?_
  rw [hsemicolon.ahead_eq, ← hactions trivial]
  rfl

end

/-! ## Statements about tables -/

section
variable (src : Source) (pos : Nat)

/-- The place after `IF NOT EXISTS`, of which the first word has to be there. -/
def skipIfNotExistsAt : Nat :=
  if current src pos = some (.keyword .ifWord) then
    eat src (eat src (advance src pos) (.keyword .not)) (.keyword .existsWord)
  else pos

/-- The place after `IF EXISTS`, of which the first word has to be there, and `ONLY`. -/
def skipIfExistsOnlyAt : Nat :=
  if current src pos = some (.keyword .ifWord) then
    eat src (eat src (advance src pos) (.keyword .existsWord)) (.keyword .only)
  else eat src pos (.keyword .only)

/-- The statement that follows `CREATE TABLE`. -/
def createTableAt : Option (Nat × Statement) := do
  let (pos, name) ← qualifiedNameAt src (skipIfNotExistsAt src pos)
  match name with
  | none =>
    let found := markText (current src pos)
    let (pos, _) ← skipStatementAt src pos
    some (pos, .nameless found)
  | some name =>
    if current src pos = some .leftParen then do
      let (pos, group) ← balancedGroupAt src pos
      let (pos, _) ← skipStatementAt src pos
      some (pos, .createTable name group.1 group.2)
    else do
      let (pos, _) ← skipStatementAt src pos
      some (pos, .bodiless name)

/-- The statement that follows `ALTER`, if it is about a table. -/
def alterTableAt : Option (Nat × Option Statement) :=
  if current src pos = some (.keyword .table) then do
    let (pos, name) ← qualifiedNameAt src (skipIfExistsOnlyAt src (advance src pos))
    match name with
    | none => do
      let (pos, _) ← skipStatementAt src pos
      some (pos, none)
    | some name => do
      let (pos, actions) ← actionTokensAt src pos
      let clauses ← splitAt actions
      some (pos, some (.alterTable name clauses))
  else do
    let (pos, _) ← skipStatementAt src pos
    some (pos, none)

def tableModifierTurn (_ : Unit) : Option (Turn Unit Unit) :=
  if (current src pos).any isTableModifier then some (.next (advance src pos) ())
  else some (.leave pos ())

/-- After `CREATE`: a statement about a table, or nothing where something else is created. -/
def createStatementAt : Option (Nat × Option Statement) := do
  let (pos, _) ← loop src.length (tableModifierTurn src) pos ()
  if current src pos = some (.keyword .table) then do
    let (pos, s) ← createTableAt src (advance src pos)
    some (pos, some s)
  else do
    let (pos, _) ← skipStatementAt src pos
    some (pos, none)

end

section
variable {src : Source} {pos : Nat}

theorem headText_ahead : headText (ahead src pos) = markText (current src pos) := by
  rw [← head?_ahead]
  cases ahead src pos <;> rfl

theorem skips_ifNotExists (hpos : pos ≤ src.length) :
    Skips src pos (skipIfNotExistsAt src pos) skipIfNotExists := by
  unfold skipIfNotExistsAt
  split
  · rename_i hcur
    have hnot := skips_keyword .not (advance_le hpos)
    have hwords := hnot.trans (skips_keyword .existsWord hnot.inside)
    refine ⟨Nat.le_trans le_advance hwords.on, hwords.inside, ?_⟩
    rw [hwords.ahead_eq, ahead_of_some hcur, skipIfNotExists]
  · rename_i hcur
    refine ⟨Nat.le_refl pos, hpos, ?_⟩
    unfold skipIfNotExists
    split
    · rename_i heq
      exact absurd (current_of_ahead heq) hcur
    · rfl

theorem ends_createTableAt (hpos : pos ≤ src.length) :
    Ends src pos (createTableAt src pos) fun s rest => createTable (ahead src pos) = (s, rest) := by
  have hwords := skips_ifNotExists hpos
  have hname := ends_qualifiedNameAt hwords.inside
  rw [hwords.ahead_eq] at hname
  refine (hname.before hwords.on).bind fun next name _ inside hread => ?_
  obtain ⟨hread, hsame⟩ := hread
  unfold createTable
  dsimp only
  rw [hread]
  cases name with
  | none =>
    refine (ends_skipStatementAt inside).bind fun stop _ _ inside hskip => ?_
    refine .done (Nat.le_refl stop) inside ?_
    rw [Option.map_none, ← hsame rfl, hskip, ← headText_ahead]
  | some name =>
    rw [Option.map_some]
    dsimp only
    split
    · rename_i hparen
      rw [ahead_of_some hparen]
      have hgroup := ends_balancedGroupAt hparen
      refine (hgroup.before le_advance).bind fun behind group _ inside hgroup => ?_
      refine (ends_skipStatementAt inside).bind fun stop _ _ inside hskip => ?_
      refine .done (Nat.le_refl stop) inside ?_
      dsimp only
      rw [hgroup, hskip]
    · rename_i hparen
      refine (ends_skipStatementAt inside).bind fun stop _ _ inside hskip => ?_
      refine .done (Nat.le_refl stop) inside ?_
      split
      · rename_i heq
        cases heq
      · rename_i rest heq
        exact absurd (current_of_ahead (Prod.mk.inj (Option.some.inj heq)).2) hparen
      · rename_i heq
        obtain ⟨rfl, rfl⟩ := Prod.mk.inj (Option.some.inj heq)
        rw [hskip]

theorem skips_ifExistsOnly (hpos : pos ≤ src.length) :
    Skips src pos (skipIfExistsOnlyAt src pos) skipIfExistsOnly := by
  unfold skipIfExistsOnlyAt
  split
  · rename_i hcur
    have hexists := skips_keyword .existsWord (advance_le hpos)
    have hwords := hexists.trans (skips_keyword .only hexists.inside)
    refine ⟨Nat.le_trans le_advance hwords.on, hwords.inside, ?_⟩
    rw [hwords.ahead_eq, ahead_of_some hcur, skipIfExistsOnly]
  · rename_i hcur
    have honly := skips_keyword .only hpos
    refine ⟨honly.on, honly.inside, ?_⟩
    rw [honly.ahead_eq]
    unfold skipIfExistsOnly
    split
    · rename_i heq
      exact absurd (current_of_ahead heq) hcur
    · rfl

theorem ends_alterTableAt (hpos : pos ≤ src.length) :
    Ends src pos (alterTableAt src pos) fun s rest => alterTable (ahead src pos) = (s, rest) := by
  unfold alterTableAt
  split
  · rename_i hcur
    have hwords := skips_ifExistsOnly (advance_le hpos)
    have hname := ends_qualifiedNameAt hwords.inside
    rw [hwords.ahead_eq] at hname
    refine (hname.before (Nat.le_trans le_advance hwords.on)).bind
      fun next name _ inside hread => ?_
    obtain ⟨hread, hsame⟩ := hread
    rw [ahead_of_some hcur, alterTable]
    dsimp only
    rw [hread]
    cases name with
    | none =>
      refine (ends_skipStatementAt inside).bind fun stop _ _ inside hskip => ?_
      refine .done (Nat.le_refl stop) inside ?_
      rw [Option.map_none, ← hsame rfl, hskip]
    | some name =>
      refine (ends_actionTokensAt inside).bind fun stop actions _ inside hactions => ?_
      dsimp only
      rw [splitAt_eq]
      refine .done (Nat.le_refl stop) inside ?_
      simp only [Option.map_some, hactions]
  · rename_i hcur
    refine (ends_skipStatementAt hpos).bind fun stop _ _ inside hskip => ?_
    refine .done (Nat.le_refl stop) inside ?_
    unfold alterTable
    split
    · rename_i heq
      exact absurd (current_of_ahead heq) hcur
    · rw [hskip]

theorem leads_tableModifierTurn (hpos : pos ≤ src.length) :
    Leads src pos (fun _ => True) True (fun _ ts => skipTableModifiers ts) (fun _ rest => rest) ()
      (tableModifierTurn src pos ()) := by
  unfold tableModifierTurn
  cases hcur : current src pos with
  | none =>
    refine .leave (Nat.le_refl pos) hpos fun _ => ?_
    rw [ahead_of_none hcur]
    rfl
  | some t =>
    rw [Option.any_some]
    split
    · rename_i ht
      refine .step hcur trivial fun _ => ?_
      rw [skipTableModifiers, List.dropWhile_cons, if_pos ht]
      rfl
    · rename_i ht
      refine .leave (Nat.le_refl pos) hpos fun _ => ?_
      rw [ahead_of_some hcur, skipTableModifiers, List.dropWhile_cons, if_neg ht]

theorem ends_createStatementAt (hpos : pos ≤ src.length) :
    Ends src pos (createStatementAt src pos) fun s rest =>
      createStatement (ahead src pos) = (s, rest) := by
  have hskip := ends_loop (fun pos _ hpos _ => leads_tableModifierTurn hpos) hpos
    (a := ()) trivial
  refine hskip.bind fun next _ _ inside hnext => ?_
  rw [createStatement, hnext trivial]
  dsimp only
  split
  · rename_i hcur
    have htable := ends_createTableAt (advance_le inside)
    refine (htable.before le_advance).bind fun stop s _ inside hs => ?_
    refine .done (Nat.le_refl stop) inside ?_
    rw [ahead_of_some hcur]
    dsimp only
    rw [hs]
  · rename_i hcur
    refine (ends_skipStatementAt inside).bind fun stop _ _ inside hskip => ?_
    refine .done (Nat.le_refl stop) inside ?_
    split
    · rename_i heq
      exact absurd (current_of_ahead heq) hcur
    · rw [hskip]

end

end SchemaGraph.Sql.Scan
