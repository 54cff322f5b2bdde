import SchemaGraph.Proofs.Scan.Groups
import SchemaGraph.Proofs.Sql.TableStatement

/-!
# Scans over clauses

A clause is scanned in a list of its own. A name with qualifiers, the type of a column and its
modifiers are loops; the other parts are scanned one after the other.
-/

namespace SchemaGraph.Sql.Scan

/-! ## Names with qualifiers -/

section
variable (src : Source) (pos : Nat)

/-- Replaces a name by the one after the dot, if one is there. -/
def qualifierTurn (name : String) : Option (Turn String String) :=
  if current src pos = some .dot then
    match nameAt src (advance src pos) with
    | some part => some (.next (advance src (advance src pos)) part)
    | none => some (.leave (advance src pos) name)
  else some (.leave pos name)

/-- A name, perhaps with qualifiers. Without a name the place stays. -/
def qualifiedNameAt : Option (Nat × Option String) :=
  match nameAt src pos with
  | none => some (pos, none)
  | some name => do
    let (pos, name) ← loop src.length (qualifierTurn src) (advance src pos) name
    some (pos, some name)

end

section
variable {src : Source} {pos : Nat}

theorem exists_of_nameAt {name : String} (h : nameAt src pos = some name) :
    ∃ t, current src pos = some t ∧ t.name? = some name := Option.bind_eq_some_iff.1 h

theorem leads_qualifierTurn (name : String) (hpos : pos ≤ src.length) :
    Leads src pos (fun _ => True) True qualifiedTail Prod.mk name (qualifierTurn src pos name) := by
  unfold qualifierTurn
  split
  · rename_i hdot
    split
    · rename_i part hpart
      obtain ⟨t, ht, hname⟩ := exists_of_nameAt hpart
      refine .next (Nat.lt_of_lt_of_le (lt_advance_of_some hdot) le_advance)
        (advance_le (advance_le hpos)) trivial fun _ => ?_
      rw [ahead_of_some hdot, ahead_of_some ht, qualifiedTail, hname]
    · rename_i hnone
      refine .leave le_advance (advance_le hpos) fun _ => ?_
      rw [ahead_of_some hdot]
      cases ht : current src (advance src pos) with
      | none => rw [ahead_of_none ht, qualifiedTail]
      | some t =>
        have hname : t.name? = none := by simpa [nameAt, ht] using hnone
        rw [ahead_of_some ht, qualifiedTail, hname]
  · rename_i hdot
    refine .leave (Nat.le_refl pos) hpos fun _ => ?_
    exact qualifiedTail_of_head? (by rw [head?_ahead]; exact hdot) name

theorem ends_qualifiedNameAt (hpos : pos ≤ src.length) :
    Ends src pos (qualifiedNameAt src pos) fun r rest =>
      qualifiedName? (ahead src pos) = r.map (fun name => (name, rest)) ∧
        (r = none → rest = ahead src pos) := by
  unfold qualifiedNameAt
  split
  · rename_i hnone
    refine .done (Nat.le_refl pos) hpos ⟨?_, fun _ => rfl⟩
    cases ht : current src pos with
    | none =>
      rw [ahead_of_none ht]
      rfl
    | some t =>
      have hname : t.name? = none := by simpa [nameAt, ht] using hnone
      rw [ahead_of_some ht, qualifiedName?, hname]
      rfl
  · rename_i first hfirst
    obtain ⟨t, ht, hname⟩ := exists_of_nameAt hfirst
    have hread := ends_loop (fun pos name hpos _ => leads_qualifierTurn name hpos)
      (advance_le hpos) (a := first) trivial
    refine (hread.before le_advance).bind fun stop name _ inside htail => ?_
    refine .done (Nat.le_refl stop) inside ⟨?_, nofun⟩
    rw [ahead_of_some ht, qualifiedName?, hname, Option.map_some, htail trivial]
    rfl

end

/-! ## Keys -/

section
variable (src : Source) (pos : Nat)

/-- The target of a foreign key, after the word that announces it. -/
def referenceAt : Option (Nat × Except Problem Reference) := do
  let (pos, name) ← qualifiedNameAt src pos
  match name with
  | none => some (pos, .error .missingReferencedTable)
  | some table =>
    if current src pos = some .leftParen then do
      let (pos, columns) ← columnListAt src pos
      some (pos, columns.map fun names => ⟨table, names⟩)
    else some (pos, .ok ⟨table, []⟩)

/-- A primary key after its first word. -/
def primaryKeyAt : Option (Nat × Except Problem Clause) := do
  let (pos, columns) ← columnListAt src (eat src pos (.keyword .key))
  some (pos, columns.map .primaryKey)

/-- The place after a name that stands before a list of columns. -/
def skipIndexNameAt : Nat :=
  if (nameAt src pos).isSome ∧ current src (pos + 1) = some .leftParen then advance src pos else pos

/-- The target of a foreign key on the given columns, with as many columns if it names any. -/
def foreignKeyTargetAt (columns : List String) : Option (Nat × Except Problem Clause) :=
  if current src pos = some (.keyword .references) then do
    let (pos, target) ← referenceAt src (advance src pos)
    match target with
    | .error p => some (pos, .error p)
    | .ok target =>
      if !target.columns.isEmpty && target.columns.length != columns.length then
        some (pos, .error (.columnCountMismatch columns.length target.columns.length))
      else some (pos, .ok (.foreignKey columns target))
  else some (pos, .error .missingReferences)

/-- A foreign key after its first word. -/
def foreignKeyAt : Option (Nat × Except Problem Clause) := do
  let (pos, columns) ← columnListAt src (skipIndexNameAt src (eat src pos (.keyword .key)))
  match columns with
  | .error p => some (pos, .error p)
  | .ok columns => foreignKeyTargetAt src pos columns

end

section
variable {src : Source} {pos : Nat}

/-- A target without a parenthesis after it names no columns. -/
theorem reference?_of_head? {ts rest : List Token} {table : String}
    (hname : qualifiedName? ts = some (table, rest)) (hrest : rest.head? ≠ some .leftParen) :
    reference? ts = .ok (⟨table, []⟩, rest) := by
  unfold reference?
  rw [hname]
  split <;> simp_all

theorem ends_referenceAt (hpos : pos ≤ src.length) :
    Ends src pos (referenceAt src pos) fun r rest =>
      Plain src → reference? (ahead src pos) = r.map fun target => (target, rest) := by
  refine (ends_qualifiedNameAt hpos).bind fun next r _ inside hname => ?_
  obtain ⟨hname, -⟩ := hname
  cases r with
  | none =>
    refine .done (Nat.le_refl next) inside fun _ => ?_
    rw [reference?, hname]
    rfl
  | some table =>
    dsimp only
    split
    · rename_i hcur
      refine (ends_columnListAt inside).bind fun stop columns _ inside hcolumns => ?_
      refine .done (Nat.le_refl stop) inside fun hplain => ?_
      have hread := hcolumns hplain
      rw [ahead_of_some hcur] at hname hread
      rw [reference?, hname]
      dsimp only [Option.map_some]
      rw [hread]
      cases columns <;> rfl
    · rename_i hcur
      exact .done (Nat.le_refl next) inside fun _ =>
        reference?_of_head? hname (by rw [head?_ahead]; exact hcur)

theorem ends_primaryKeyAt (hpos : pos ≤ src.length) :
    Ends src pos (primaryKeyAt src pos) fun r _ =>
      Plain src → primaryKeyClause (ahead src pos) = r := by
  have hkey := skips_keyword .key hpos
  have hlist := ends_columnListAt hkey.inside
  refine (hlist.before hkey.on).bind fun stop columns _ inside hcolumns => ?_
  refine .done (Nat.le_refl stop) inside fun hplain => ?_
  have hread := hcolumns hplain
  rw [hkey.ahead_eq] at hread
  rw [primaryKeyClause, hread]
  cases columns <;> rfl

theorem ends_foreignKeyTargetAt (columns : List String) (hpos : pos ≤ src.length) :
    Ends src pos (foreignKeyTargetAt src pos columns) fun r _ =>
      Plain src → foreignKeyTarget columns (ahead src pos) = r := by
  unfold foreignKeyTargetAt
  split
  · rename_i hcur
    have htarget := ends_referenceAt (advance_le hpos)
    refine (htarget.before le_advance).bind fun stop r _ inside hr => ?_
    rw [ahead_of_some hcur, foreignKeyTarget]
    cases r with
    | error p =>
      refine .done (Nat.le_refl stop) inside fun hplain => ?_
      rw [hr hplain]
      rfl
    | ok target =>
      dsimp only
      split
      · rename_i hcount
        refine .done (Nat.le_refl stop) inside fun hplain => ?_
        rw [hr hplain]
        exact if_pos hcount
      · rename_i hcount
        refine .done (Nat.le_refl stop) inside fun hplain => ?_
        rw [hr hplain]
        exact if_neg hcount
  · rename_i hcur
    refine .done (Nat.le_refl pos) hpos fun _ => ?_
    unfold foreignKeyTarget
    split
    · rename_i heq
      exact absurd (current_of_ahead heq) hcur
    · rfl

theorem skips_indexName (hpos : pos ≤ src.length) :
    Skips src pos (skipIndexNameAt src pos) skipIndexName := by
  unfold skipIndexNameAt
  split
  · rename_i hindex
    obtain ⟨hname, hparen⟩ := hindex
    obtain ⟨name, hname⟩ := Option.isSome_iff_exists.1 hname
    obtain ⟨t, ht, hname⟩ := exists_of_nameAt hname
    refine ⟨le_advance, advance_le hpos, ?_⟩
    rw [← advance_of_lt (lt_of_current ht)] at hparen
    rw [ahead_of_some ht, ahead_of_some hparen, skipIndexName, hname]
    rfl
  · rename_i hindex
    refine ⟨Nat.le_refl pos, hpos, ?_⟩
    unfold skipIndexName
    split
    · rename_i t rest heq
      have ht : current src pos = some t := current_of_ahead heq
      rw [ahead_of_some ht, advance_of_lt (lt_of_current ht), List.cons.injEq] at heq
      have hparen : current src (pos + 1) = some .leftParen := current_of_ahead heq.2
      have hname : nameAt src pos = t.name? := by rw [nameAt, ht, Option.bind_some]
      rw [if_neg fun hsome => hindex ⟨hname ▸ hsome, hparen⟩, ahead_of_some ht,
        advance_of_lt (lt_of_current ht), heq.2]
    · rfl

theorem ends_foreignKeyAt (hpos : pos ≤ src.length) :
    Ends src pos (foreignKeyAt src pos) fun r _ =>
      Plain src → foreignKeyClause (ahead src pos) = r := by
  have hkey := skips_keyword .key hpos
  have hname := hkey.trans (skips_indexName hkey.inside)
  have hlist := (ends_columnListAt hname.inside).before hname.on
  refine hlist.bind fun next columns _ inside hcolumns => ?_
  rw [hname.ahead_eq] at hcolumns
  unfold foreignKeyClause
  cases columns with
  | error p =>
    refine .done (Nat.le_refl next) inside fun hplain => ?_
    rw [hcolumns hplain]
    rfl
  | ok columns =>
    refine (ends_foreignKeyTargetAt columns inside).imp fun r _ h hplain => ?_
    rw [hcolumns hplain, ← h hplain]
    rfl

end

/-! ## Types -/

section
variable (src : Source) (pos : Nat)

/-- Continues a type with arguments, brackets or a further word. -/
def typeTurn (declared : String) : Option (Turn String String) :=
  match current src pos with
  | some .leftParen => do
    let (stop, arguments) ← groupTextAt src pos
    some (.next stop (declared ++ arguments))
  | some .brackets => some (.next (advance src pos) (declared ++ "[]"))
  | some t =>
    if continuesType t then some (.next (advance src pos) (declared ++ " " ++ t.text))
    else some (.leave pos declared)
  | none => some (.leave pos declared)

end

section
variable {src : Source} {pos : Nat}

theorem leads_typeTurn (declared : String) (hpos : pos ≤ src.length) :
    Leads src pos (fun _ => True) (Plain src)
      (fun s ts => (s ++ (declaredTail 0 ts).1, (declaredTail 0 ts).2)) Prod.mk declared
      (typeTurn src pos declared) := by
  unfold typeTurn
  split
  · rename_i hcur
    refine .scan (f := fun text => declared ++ text) hcur (fun _ => trivial) ?_
    refine (ends_groupTextAt hcur).imp fun text rest h hplain => ?_
    rw [← ahead_of_some hcur, h hplain, String.append_assoc]
  · rename_i hcur
    exact .step hcur trivial fun _ => by simp [declaredTail, Token.text, String.append_assoc]
  · rename_i t hl hb hcur
    have htail : declaredTail 0 (t :: ahead src (advance src pos))
        = if continuesType t then
            (" " ++ t.text ++ (declaredTail 0 (ahead src (advance src pos))).1,
              (declaredTail 0 (ahead src (advance src pos))).2)
          else ("", t :: ahead src (advance src pos)) := by
      conv => lhs; unfold declaredTail
      rw [if_neg (Nat.lt_irrefl 0), if_neg hl, if_neg hb]
    split
    · rename_i hcontinues
      refine .step hcur trivial fun _ => ?_
      rw [htail, if_pos hcontinues]
      simp [String.append_assoc]
    · rename_i hcontinues
      refine .leave (Nat.le_refl pos) hpos fun _ => ?_
      rw [ahead_of_some hcur, htail, if_neg hcontinues, String.append_empty]
  · rename_i hcur
    refine .leave (Nat.le_refl pos) hpos fun _ => ?_
    rw [ahead_of_none hcur, declaredTail, String.append_empty]

end

/-! ## Modifiers -/

section
variable (src : Source) (pos : Nat)

/-- Passes over the value of a default: a literal, a name, a group or a call. -/
def skipDefaultAt : Option (Nat × Unit) :=
  if current src pos = some .leftParen then skipGroupAt src pos
  else if current src (advance src pos) = some .leftParen then skipGroupAt src (advance src pos)
  else some (advance src pos, ())

/-- The place after a name that may stand here. -/
def skipNameAt : Nat := if (nameAt src pos).isSome then advance src pos else pos

/-- A reference that was read is kept. One that is malformed or too wide ends the clause. -/
def referTurn (c : ColumnClause) (stop : Nat) :
    Except Problem Reference → Turn ColumnClause (Except Problem ColumnClause)
  | .error p => .leave stop (.error p)
  | .ok target =>
    if 1 < target.columns.length then
      .leave stop (.error (.columnCountMismatch 1 target.columns.length))
    else .next stop { c with reference := some target }

/-- Passes over a modifier, and keeps what it says of the column. -/
def modifierTurn (c : ColumnClause) : Option (Turn ColumnClause (Except Problem ColumnClause)) :=
  if src.length ≤ pos then some (.leave pos (.ok c))
  else
    let after := advance src pos
    match current src pos with
    | some (.keyword .primary) =>
      some (.next (eat src after (.keyword .key)) { c with primaryKey := true })
    | some (.keyword .not) =>
      if current src after = some (.keyword .null) then
        some (.next (advance src after) { c with notNull := true })
      else some (.next after c)
    | some (.keyword .references) => do
      let (stop, target) ← referenceAt src after
      some (referTurn c stop target)
    | some (.keyword .default) => do
      let (stop, _) ← skipDefaultAt src after
      some (.next stop c)
    | some (.keyword .check) => do
      let (stop, _) ← skipGroupAt src after
      some (.next stop c)
    | some .leftParen => do
      let (stop, _) ← skipGroupAt src pos
      some (.next stop c)
    | some (.keyword .constraint) => some (.next (skipNameAt src after) c)
    | _ => some (.next after c)

end

section
variable {src : Source} {pos : Nat}

theorem ends_skipDefaultAt (hpos : pos ≤ src.length) :
    Ends src pos (skipDefaultAt src pos) fun _ rest =>
      Plain src → skipDefault (ahead src pos) = rest := by
  unfold skipDefaultAt
  split
  · rename_i hcur
    refine ((ends_skipGroupAt_group hcur).before le_advance).imp fun _ rest h hplain => ?_
    rw [ahead_of_some hcur, skipDefault, h hplain]
  · rename_i hcur
    split
    · rename_i hnext
      have hgroup := (ends_skipGroupAt_group hnext).before (Nat.le_trans le_advance le_advance)
      refine hgroup.imp fun _ rest h hplain => ?_
      have hlt := Nat.lt_of_le_of_lt le_advance (lt_of_current hnext)
      obtain ⟨t, ht⟩ := hplain.current_isSome hlt
      rw [ahead_of_some ht, ahead_of_some hnext, skipDefault, h hplain]
      rintro rfl
      exact hcur ht
    · rename_i hnext
      refine .done le_advance (advance_le hpos) fun hplain => ?_
      rcases Nat.lt_or_ge pos src.length with hlt | hge
      · obtain ⟨t, ht⟩ := hplain.current_isSome hlt
        rw [ahead_of_some ht, skipDefault]
        · rintro rfl
          exact hcur ht
        · intro rest hrest
          exact hnext (current_of_ahead hrest)
      · rw [ahead_of_length_le hge, ahead_of_length_le (Nat.le_trans hge le_advance), skipDefault]

theorem skips_name (hpos : pos ≤ src.length) :
    Skips src pos (skipNameAt src pos) skipName := by
  unfold skipNameAt nameAt
  cases ht : current src pos with
  | none =>
    rw [Option.bind_none, if_neg (by simp)]
    exact ⟨Nat.le_refl pos, hpos, by rw [ahead_of_none ht]; rfl⟩
  | some t =>
    rw [Option.bind_some]
    split
    · rename_i hname
      exact ⟨le_advance, advance_le hpos, by rw [ahead_of_some ht, skipName, if_pos hname]⟩
    · rename_i hname
      exact ⟨Nat.le_refl pos, hpos, by rw [ahead_of_some ht, skipName, if_neg hname]⟩

/-- A reference is read whole, and may refer to one column only. -/
theorem modifiers_announced (c : ColumnClause) (ts : List Token) :
    modifiers c (.keyword .references :: ts) = match reference? ts with
      | .error p => .error p
      | .ok (target, rest) =>
        if 1 < target.columns.length then
          .error (.columnCountMismatch 1 target.columns.length)
        else modifiers { c with reference := some target } rest := by
  rw [modifiers]
  split <;> simp_all

theorem leads_referTurn (c : ColumnClause)
    (hcur : current src pos = some (.keyword .references)) :
    Leads src pos (fun _ => True) (Plain src) modifiers (fun b _ => b) c
      ((referenceAt src (advance src pos)).bind fun s => some (referTurn c s.1 s.2)) := by
  have hpos := Nat.le_of_lt (lt_of_current hcur)
  obtain ⟨stop, r, hr, on, inside, hread⟩ := ends_referenceAt (advance_le hpos)
  rw [hr, Option.bind_some]
  cases r with
  | error p =>
    refine .leave (Nat.le_trans le_advance on) inside fun hplain => ?_
    rw [ahead_of_some hcur, modifiers_announced, hread hplain]
    rfl
  | ok target =>
    dsimp only [referTurn]
    split
    · rename_i hcount
      refine .leave (Nat.le_trans le_advance on) inside fun hplain => ?_
      rw [ahead_of_some hcur, modifiers_announced, hread hplain]
      exact if_pos hcount
    · rename_i hcount
      refine .next (Nat.lt_of_lt_of_le (lt_advance_of_some hcur) on) inside trivial fun hplain => ?_
      rw [ahead_of_some hcur, modifiers_announced, hread hplain]
      exact if_neg hcount

theorem leads_modifierTurn (c : ColumnClause) (hpos : pos ≤ src.length) :
    Leads src pos (fun _ => True) (Plain src) modifiers (fun b _ => b) c
      (modifierTurn src pos c) := by
  unfold modifierTurn
  split
  · rename_i hend
    refine .leave (Nat.le_refl pos) hpos fun _ => ?_
    rw [ahead_of_length_le hend, modifiers]
  · rename_i hin
    dsimp only
    split
    · rename_i hcur
      refine .skip hcur (skips_keyword .key (advance_le hpos)) trivial fun _ => ?_
      rw [modifiers]
    · rename_i hcur
      split
      · rename_i hnull
        refine .next (Nat.lt_of_lt_of_le (lt_advance_of_some hcur) le_advance)
          (advance_le (advance_le hpos)) trivial fun _ => ?_
        rw [ahead_of_some hcur, ahead_of_some hnull, modifiers]
      · rename_i hnull
        refine .step hcur trivial fun _ => ?_
        have hrest : ∀ rest, ahead src (advance src pos) ≠ .keyword .null :: rest :=
          fun rest heq => hnull (current_of_ahead heq)
        rw [modifiers] <;> simp_all
    · rename_i hcur
      exact leads_referTurn c hcur
    · rename_i hcur
      refine .scan (f := fun _ => c) hcur (fun _ => trivial) ?_
      refine (ends_skipDefaultAt (advance_le hpos)).imp fun _ rest h hplain => ?_
      rw [modifiers, h hplain]
    · rename_i hcur
      refine .scan (f := fun _ => c) hcur (fun _ => trivial) ?_
      refine (ends_skipGroupAt (advance_le hpos)).imp fun _ rest h hplain => ?_
      rw [modifiers, h hplain]
    · rename_i hcur
      refine .scan (f := fun _ => c) hcur (fun _ => trivial) ?_
      refine (ends_skipGroupAt_group hcur).imp fun _ rest h hplain => ?_
      rw [modifiers, h hplain]
    · rename_i hcur
      refine .skip hcur (skips_name (advance_le hpos)) trivial fun _ => ?_
      rw [modifiers]
    · have hlt : pos < src.length := Nat.lt_of_not_le hin
      refine .next (by rw [advance_of_lt hlt]; omega) (advance_le hpos) trivial fun hplain => ?_
      obtain ⟨t, ht⟩ := hplain.current_isSome hlt
      rw [ahead_of_some ht, modifiers] <;> simp_all

end

/-! ## Columns and the kind of a clause -/

section
variable (src : Source) (pos : Nat)

/-- The type of a column, whose first word is given, and its modifiers. -/
def columnRestAt (name word : String) : Option (Nat × Except Problem Clause) := do
  let (pos, declared) ← loop src.length (typeTurn src) pos word
  let (pos, c) ← loop src.length (modifierTurn src) pos ⟨name, declared, false, false, none⟩
  some (pos, c.map .column)

/-- A column: a name, a type and modifiers. -/
def columnAt : Option (Nat × Except Problem Clause) :=
  match (current src pos).bind columnName? with
  | none => some (pos, .error .missingColumnName)
  | some name =>
    match nameAt src (advance src pos) with
    | none => some (advance src pos, .error (.missingType name))
    | some word => columnRestAt src (advance src (advance src pos)) name word

/-- A parenthesis opens a list of columns, and not the arguments of a type. -/
def listsColumnsAt : Bool :=
  match current src pos with
  | some (.number _) => false
  | some (.literal _) => false
  | some .rightParen => false
  | some t => !t.isWord "MAX"
  | none => true

/-- After a leading `KEY` or `INDEX`: the clause declares an index, and no column of that name. -/
def isIndexAt : Bool :=
  match current src (pos + 1) with
  | none => true
  | some .leftParen => true
  | some t =>
    t.name?.isSome &&
      match current src (pos + 2) with
      | some .leftParen => listsColumnsAt src (pos + 3)
      | some u => u.isWord "USING"
      | none => false

/-- A named constraint after its name. Only keys are kept. -/
def constraintAt : Option (Nat × Except Problem Clause) :=
  match current src pos with
  | some (.keyword .primary) => primaryKeyAt src (advance src pos)
  | some (.keyword .foreign) => foreignKeyAt src (advance src pos)
  | _ => some (pos, .ok .skipped)

/-- What the tokens of a clause say. -/
def clauseAt : Option (Nat × Except Problem Clause) :=
  match current src pos with
  | some (.keyword .constraint) => constraintAt src (skipNameAt src (advance src pos))
  | some (.keyword .primary) => primaryKeyAt src (advance src pos)
  | some (.keyword .foreign) => foreignKeyAt src (advance src pos)
  | some (.keyword .unique) => some (pos, .ok .skipped)
  | some (.keyword .check) => some (pos, .ok .skipped)
  | some (.keyword .index) =>
    if isIndexAt src pos then some (pos, .ok .skipped) else columnAt src pos
  | some (.keyword .key) =>
    if isIndexAt src pos then some (pos, .ok .skipped) else columnAt src pos
  | some t => if isReserved t then some (pos, .ok .skipped) else columnAt src pos
  | none => columnAt src pos

end

/-- The clause that a list of tokens is. -/
def readClauseAt (clause : List Token) : Option (Except Problem Clause) := do
  let (_, read) ← clauseAt (clause.map some) 0
  some read

section
variable {src : Source} {pos : Nat}

theorem ends_columnRestAt (name word : String) (hpos : pos ≤ src.length) :
    Ends src pos (columnRestAt src pos name word) fun r _ => Plain src →
      (modifiers ⟨name, word ++ (declaredTail 0 (ahead src pos)).1, false, false, none⟩
        (declaredTail 0 (ahead src pos)).2).map .column = r := by
  have htype := ends_loop (fun pos declared hpos _ => leads_typeTurn declared hpos) hpos
    (a := word) trivial
  refine htype.bind fun next declared _ inside hdeclared => ?_
  have hrest := ends_loop (fun pos c hpos _ => leads_modifierTurn c hpos) inside
    (a := ⟨name, declared, false, false, none⟩) trivial
  refine hrest.bind fun stop c _ inside hc => ?_
  refine .done (Nat.le_refl stop) inside fun hplain => ?_
  have hread := hdeclared hplain
  rw [Prod.mk.injEq] at hread
  rw [hread.1, hread.2, hc hplain]

theorem ends_columnAt (hpos : pos ≤ src.length) :
    Ends src pos (columnAt src pos) fun r _ =>
      Plain src → columnClause (ahead src pos) = r := by
  unfold columnAt
  split
  · rename_i hname
    refine .done (Nat.le_refl pos) hpos fun _ => ?_
    cases ht : current src pos with
    | none =>
      rw [ahead_of_none ht]
      rfl
    | some t =>
      have hnone : columnName? t = none := by simpa [ht] using hname
      rw [ahead_of_some ht, columnClause, hnone]
  · rename_i name hname
    obtain ⟨t, ht, hname⟩ := Option.bind_eq_some_iff.1 hname
    rw [ahead_of_some ht, columnClause, hname]
    split
    · rename_i hword
      refine .done le_advance (advance_le hpos) fun _ => ?_
      cases hu : current src (advance src pos) with
      | none => rw [ahead_of_none hu]
      | some u =>
        have hnone : u.name? = none := by simpa [nameAt, hu] using hword
        rw [ahead_of_some hu]
        simp only [hnone]
    · rename_i word hword
      obtain ⟨u, hu, hword⟩ := exists_of_nameAt hword
      rw [ahead_of_some hu]
      simp only [hword]
      exact (ends_columnRestAt name word (advance_le (advance_le hpos))).before
        (Nat.le_trans le_advance le_advance)

theorem listsColumnsAt_eq : listsColumnsAt src pos = listsColumns (ahead src pos) := by
  unfold listsColumnsAt
  cases ht : current src pos with
  | none =>
    rw [ahead_of_none ht]
    rfl
  | some t =>
    rw [ahead_of_some ht]
    cases t <;> rfl

theorem isIndexAt_eq {t : Token} (hcur : current src pos = some t) :
    isIndexAt src pos = isIndexClause (ahead src (advance src pos)) := by
  have hnext := advance_of_lt (lt_of_current hcur)
  unfold isIndexAt
  rw [hnext]
  cases hu : current src (pos + 1) with
  | none =>
    rw [ahead_of_none hu]
    rfl
  | some u =>
    rw [ahead_of_some hu, advance_of_lt (lt_of_current hu), listsColumnsAt_eq]
    cases hv : current src (pos + 1 + 1) with
    | none =>
      rw [ahead_of_none hv]
      cases u <;> rfl
    | some v =>
      rw [ahead_of_some hv, advance_of_lt (lt_of_current hv)]
      cases u <;> cases v <;> rfl

theorem ends_constraintAt (hpos : pos ≤ src.length) :
    Ends src pos (constraintAt src pos) fun r _ =>
      Plain src → constraintClause (ahead src pos) = r := by
  unfold constraintAt
  split
  · rename_i hcur
    rw [ahead_of_some hcur, constraintClause]
    exact (ends_primaryKeyAt (advance_le hpos)).before le_advance
  · rename_i hcur
    rw [ahead_of_some hcur, constraintClause]
    exact (ends_foreignKeyAt (advance_le hpos)).before le_advance
  · rename_i hprimary hforeign
    refine .done (Nat.le_refl pos) hpos fun _ => ?_
    unfold constraintClause
    split
    · rename_i heq
      exact absurd (current_of_ahead heq) hprimary
    · rename_i heq
      exact absurd (current_of_ahead heq) hforeign
    · rfl

/-- A clause that is passed over, or else defines a column. -/
theorem ends_unless {b : Bool} (hpos : pos ≤ src.length)
    (h : readClause (ahead src pos)
      = if b then .ok .skipped else columnClause (ahead src pos)) :
    Ends src pos (if b then some (pos, .ok .skipped) else columnAt src pos) fun r _ =>
      Plain src → readClause (ahead src pos) = r := by
  rw [h]
  split
  · exact .done (Nat.le_refl pos) hpos fun _ => rfl
  · exact ends_columnAt hpos

theorem ends_clauseAt (hpos : pos ≤ src.length) :
    Ends src pos (clauseAt src pos) fun r _ =>
      Plain src → readClause (ahead src pos) = r := by
  unfold clauseAt
  split
  · rename_i hcur
    have hname := skips_name (advance_le hpos)
    rw [ahead_of_some hcur, readClause, ← hname.ahead_eq]
    exact (ends_constraintAt hname.inside).before (Nat.le_trans le_advance hname.on)
  · rename_i hcur
    rw [ahead_of_some hcur, readClause]
    exact (ends_primaryKeyAt (advance_le hpos)).before le_advance
  · rename_i hcur
    rw [ahead_of_some hcur, readClause]
    exact (ends_foreignKeyAt (advance_le hpos)).before le_advance
  · rename_i hcur
    rw [ahead_of_some hcur, readClause]
    exact .done (Nat.le_refl pos) hpos fun _ => rfl
  · rename_i hcur
    rw [ahead_of_some hcur, readClause]
    exact .done (Nat.le_refl pos) hpos fun _ => rfl
  · rename_i hcur
    refine ends_unless hpos ?_
    rw [isIndexAt_eq hcur, ahead_of_some hcur, readClause]
  · rename_i hcur
    refine ends_unless hpos ?_
    rw [isIndexAt_eq hcur, ahead_of_some hcur, readClause]
  · rename_i t _ _ _ _ _ _ _ hcur
    refine ends_unless hpos ?_
    rw [ahead_of_some hcur, readClause] <;> simp_all
  · rename_i hcur
    refine (ends_columnAt hpos).imp fun r _ h => ?_
    rw [ahead_of_none hcur] at h ⊢
    exact h

/-- A clause is scanned as it is read. -/
theorem readClauseAt_eq (clause : List Token) : readClauseAt clause = some (readClause clause) := by
  obtain ⟨stop, r, hscan, -, -, hr⟩ := @ends_clauseAt (clause.map some) 0 (Nat.zero_le _)
  have hread := hr (plain_iff.2 ⟨clause, rfl⟩)
  rw [ahead_map_some, List.drop_zero] at hread
  rw [readClauseAt, hscan, hread]
  rfl

end

end SchemaGraph.Sql.Scan
