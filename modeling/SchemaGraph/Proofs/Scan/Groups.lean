import SchemaGraph.Proofs.Scan.Places
import SchemaGraph.Proofs.Sql.Nesting

/-!
# Scans over groups and lists

Groups that are passed over, groups whose tokens are kept, lists of columns, and the cuts between
clauses. Each scan counts the groups that are open, and each is proved to count as its reader does.
-/

namespace SchemaGraph.Sql.Scan

/-! ## Groups that are passed over -/

section
variable (src : Source) (pos : Nat)

/-- The depth after a token. It has to be above zero where a group is closed. -/
def depthAt (depth : Nat) : Option Token → Option Nat
  | some .leftParen => some (depth + 1)
  | some .rightParen => depth.ppred
  | _ => some depth

/-- Passes over a token of a group, which is over at depth zero and at the end of the list. -/
def skipGroupTurn (depth : Nat) : Option (Turn Nat Unit) :=
  if 0 < depth ∧ pos < src.length then do
    let depth ← depthAt depth (current src pos)
    some (.next (advance src pos) depth)
  else some (.leave pos ())

/-- Passes over a group, or over a single token that opens none. -/
def skipGroupAt : Option (Nat × Unit) :=
  if current src pos = some .leftParen then loop src.length (skipGroupTurn src) (advance src pos) 1
  else some (advance src pos, ())

end

/-- The tokens after a group that is open at the given depth, if one is. -/
def afterGroup (depth : Nat) (ts : List Token) : List Token :=
  if depth = 0 then ts else dropGroup depth ts

section
variable {src : Source} {pos : Nat}

theorem depthAt_some {depth : Nat} (h : 0 < depth) (t : Token) :
    depthAt depth (some t) = some (depthAfter depth t) := by
  obtain ⟨below, rfl⟩ := Nat.exists_eq_add_of_le' h
  cases t <;> rfl

theorem dropGroup_cons {depth : Nat} (h : 0 < depth) (t : Token) (rest : List Token) :
    dropGroup depth (t :: rest) = afterGroup (depthAfter depth t) rest := by
  by_cases hl : t = .leftParen
  · rw [hl]
    rfl
  by_cases hr : t = .rightParen
  · rw [hr, dropGroup, depthAfter, afterGroup]
    exact if_congr (by omega) rfl rfl
  · rw [depthAfter_of_ne hl hr, afterGroup, if_neg (Nat.pos_iff_ne_zero.1 h), dropGroup]
    · exact hl
    · exact hr

theorem leads_skipGroupTurn (depth : Nat) (hpos : pos ≤ src.length) :
    Leads src pos (fun _ => True) (Plain src) afterGroup (fun _ rest => rest) depth
      (skipGroupTurn src pos depth) := by
  unfold skipGroupTurn
  split
  · rename_i hin
    obtain ⟨hdepth, hlt⟩ := hin
    cases hcur : current src pos with
    | none =>
      refine .next (by rw [advance_of_lt hlt]; omega) (advance_le hpos) trivial fun hplain => ?_
      obtain ⟨t, ht⟩ := hplain.current_isSome hlt
      cases hcur.symm.trans ht
    | some t =>
      rw [depthAt_some hdepth]
      refine .step hcur trivial fun _ => ?_
      rw [afterGroup, if_neg (Nat.pos_iff_ne_zero.1 hdepth), dropGroup_cons hdepth]
  · refine .leave (Nat.le_refl pos) hpos fun _ => ?_
    unfold afterGroup
    split
    · rfl
    · rw [ahead_of_length_le (by omega), dropGroup]

/-- A group is passed over from behind its parenthesis on. -/
theorem ends_skipGroupAt_group (h : current src pos = some .leftParen) :
    Ends src (advance src pos) (skipGroupAt src pos) fun _ rest =>
      Plain src → dropGroup 1 (ahead src (advance src pos)) = rest := by
  rw [skipGroupAt, if_pos h]
  exact ends_loop (fun pos depth hpos _ => leads_skipGroupTurn depth hpos)
    (advance_le (Nat.le_of_lt (lt_of_current h))) trivial

theorem ends_skipGroupAt (hpos : pos ≤ src.length) :
    Ends src pos (skipGroupAt src pos) fun _ rest =>
      Plain src → skipGroup (ahead src pos) = rest := by
  by_cases hcur : current src pos = some .leftParen
  · refine ((ends_skipGroupAt_group hcur).before le_advance).imp fun _ rest h hplain => ?_
    rw [ahead_of_some hcur, skipGroup, h hplain]
  · rw [skipGroupAt, if_neg hcur]
    refine .done le_advance (advance_le hpos) fun hplain => ?_
    rcases Nat.lt_or_ge pos src.length with hlt | hge
    · obtain ⟨t, ht⟩ := hplain.current_isSome hlt
      rw [ahead_of_some ht, skipGroup]
      · rfl
      · rintro rest ⟨⟩
        exact hcur ht
    · rw [ahead_of_length_le hge, ahead_of_length_le (Nat.le_trans hge le_advance)]
      rfl

end

/-! ## The text of a group -/

section
variable (src : Source) (pos : Nat)

/-- A token or a mark of the end as it is quoted. -/
def markText (t : Option Token) : String := t.elim endText Token.text

/-- The text of a group, which is a stretch of the list. -/
def groupTextAt : Option (Nat × String) := do
  let (stop, _) ← skipGroupAt src pos
  let group ← slice src pos stop
  some (stop, String.join (group.map markText))

end

section
variable {src : Source} {pos : Nat}

theorem declaredTail_cons {depth : Nat} (h : 0 < depth) (t : Token) (rest : List Token) :
    declaredTail depth (t :: rest) = (t.text ++ (declaredTail (depthAfter depth t) rest).1,
      (declaredTail (depthAfter depth t) rest).2) := by
  cases t <;> simp [declaredTail, depthAfter, h]

/-- Arguments belong to a declared type up to the parenthesis that closes them. -/
theorem declaredTail_open {depth : Nat} (h : 0 < depth) {ts group : List Token}
    (hgroup : ts = group ++ dropGroup depth ts) :
    declaredTail depth ts = (String.join (group.map Token.text)
      ++ (declaredTail 0 (dropGroup depth ts)).1, (declaredTail 0 (dropGroup depth ts)).2) := by
  induction ts generalizing depth group with
  | nil =>
    obtain ⟨rfl, -⟩ := List.append_eq_nil_iff.1 hgroup.symm
    rfl
  | cons t rest ih =>
    have hlength := dropGroup_length_le (depthAfter depth t) rest
    rw [dropGroup_cons h, afterGroup] at hgroup ⊢
    cases group with
    | nil =>
      have hwhole := congrArg List.length hgroup
      rw [List.nil_append, List.length_cons] at hwhole
      split at hwhole <;> omega
    | cons u group =>
      rw [List.cons_append, List.cons.injEq] at hgroup
      obtain ⟨rfl, hrest⟩ := hgroup
      rw [declaredTail_cons h, List.map_cons, String.join_cons]
      split at hrest
      · rename_i hzero
        have hnil : group = [] := List.self_eq_append_left.1 hrest
        rw [if_pos hzero, hzero, hnil, List.map_nil, String.join_nil, String.append_empty]
      · rename_i hdepth
        rw [if_neg hdepth, ih (Nat.pos_of_ne_zero hdepth) hrest, String.append_assoc]

/-- The text of a group is what it adds to a declared type. -/
theorem ends_groupTextAt (h : current src pos = some .leftParen) :
    Ends src (advance src pos) (groupTextAt src pos) fun text rest =>
      Plain src → declaredTail 0 (ahead src pos)
        = (text ++ (declaredTail 0 rest).1, (declaredTail 0 rest).2) := by
  refine (ends_skipGroupAt_group h).bind fun stop _ on inside hskip => ?_
  have hpos := lt_of_current h
  rw [advance_of_lt hpos] at on hskip
  obtain ⟨k, rfl⟩ := Nat.exists_eq_add_of_le on
  simp only [slice_of_le (show pos ≤ pos + 1 + k by omega) inside, Option.bind_eq_bind,
    Option.bind_some]
  refine .done (Nat.le_refl _) inside fun hplain => ?_
  have hopening := ahead_of_some h
  have hdrop := hskip hplain
  obtain ⟨ts, rfl⟩ := plain_iff.1 hplain
  rw [advance_of_lt hpos] at hopening
  simp only [ahead_map_some] at hopening hdrop ⊢
  have hgroup : ts.drop (pos + 1)
      = (ts.drop (pos + 1)).take k ++ dropGroup 1 (ts.drop (pos + 1)) := by
    have hsplit := List.take_append_drop k (ts.drop (pos + 1))
    rw [List.drop_drop] at hsplit
    rw [hdrop, hsplit]
  have hstretch : (ts.drop pos).take (pos + 1 + k - pos)
      = .leftParen :: (ts.drop (pos + 1)).take k := by
    rw [hopening, show pos + 1 + k - pos = k + 1 by omega, List.take_succ_cons]
  rw [← List.map_drop, ← List.map_take, hstretch, hopening, declaredTail, if_neg (by simp),
    if_pos rfl, declaredTail_open Nat.one_pos hgroup, hdrop]
  simp [markText, Function.comp_def, String.append_assoc]

end

/-! ## Lists of columns -/

section
variable (src : Source) (pos : Nat)

/-- Adds to the names so far. A name counts at the beginning and after a comma. -/
def columnListTurn (s : List String × Bool) : Option (Turn (List String × Bool) (List String)) :=
  match current src pos with
  | some .rightParen => some (.leave (advance src pos) s.1)
  | none => some (.leave pos s.1)
  | some .comma => some (.next (advance src pos) (s.1, true))
  | some .leftParen => do
    let (pos, _) ← skipGroupAt src pos
    some (.next pos s)
  | some t =>
    let name := if s.2 then (columnName? t).toList else []
    some (.next (advance src pos) (s.1 ++ name, false))

/-- A list of at least one column in parentheses. -/
def columnListAt : Option (Nat × Except Problem (List String)) :=
  if current src pos = some .leftParen then do
    let (pos, names) ← loop src.length (columnListTurn src) (advance src pos) ([], true)
    some (pos, if names.isEmpty then .error .missingColumnList else .ok names)
  else some (pos, .error .missingColumnList)

end

section
variable {src : Source} {pos : Nat}

/-- Groups inside a list of columns are passed over. -/
theorem columnNames_open (expect : Bool) (depth : Nat) (ts : List Token) :
    columnNames depth expect ts = columnNames 0 expect (afterGroup depth ts) := by
  induction ts generalizing depth with
  | nil =>
    unfold afterGroup
    split <;> simp [columnNames, dropGroup]
  | cons t rest ih =>
    rcases Nat.eq_zero_or_pos depth with rfl | hdepth
    · rfl
    · have hstep : columnNames depth expect (t :: rest)
          = columnNames (depthAfter depth t) expect rest := by
        cases t <;> simp [columnNames, depthAfter, hdepth, Nat.pos_iff_ne_zero.1 hdepth]
      rw [hstep, ih, ← dropGroup_cons hdepth, afterGroup, if_neg (Nat.pos_iff_ne_zero.1 hdepth)]

theorem leads_columnListTurn (s : List String × Bool) (hpos : pos ≤ src.length) :
    Leads src pos (fun _ => True) (Plain src)
      (fun s ts => (s.1 ++ (columnNames 0 s.2 ts).1, (columnNames 0 s.2 ts).2)) Prod.mk s
      (columnListTurn src pos s) := by
  unfold columnListTurn
  split
  · rename_i hcur
    refine .leave le_advance (advance_le hpos) fun _ => ?_
    simp [ahead_of_some hcur, columnNames]
  · rename_i hcur
    refine .leave (Nat.le_refl pos) hpos fun _ => ?_
    simp [ahead_of_none hcur, columnNames]
  · rename_i hcur
    exact .step hcur trivial fun _ => by simp [columnNames]
  · rename_i hcur
    refine .scan (f := fun _ => s) hcur (fun _ => trivial) ?_
    refine (ends_skipGroupAt_group hcur).imp fun _ rest h hplain => ?_
    rw [columnNames, columnNames_open, ← h hplain]
    rfl
  · rename_i t hr hc hl hcur
    refine .step hcur trivial fun _ => ?_
    have hnames : columnNames 0 s.2 (t :: ahead src (advance src pos))
        = ((if s.2 then (columnName? t).toList else [])
            ++ (columnNames 0 false (ahead src (advance src pos))).1,
          (columnNames 0 false (ahead src (advance src pos))).2) := by
      rw [columnNames, if_neg (Nat.lt_irrefl 0), if_neg hc]
      · exact hl
      · exact hr
    rw [hnames, List.append_assoc]

theorem ends_columnListAt (hpos : pos ≤ src.length) :
    Ends src pos (columnListAt src pos) fun r rest =>
      Plain src → columnList? (ahead src pos) = r.map fun names => (names, rest) := by
  unfold columnListAt
  split
  · rename_i hcur
    have hread := ends_loop (fun pos s hpos _ => leads_columnListTurn s hpos)
      (advance_le hpos) (a := ([], true)) trivial
    refine (hread.before le_advance).bind fun stop names _ inside hnames => ?_
    refine .done (Nat.le_refl stop) inside fun hplain => ?_
    have hcolumns := hnames hplain
    rw [Prod.mk.injEq, List.nil_append] at hcolumns
    obtain ⟨rfl, hrest⟩ := hcolumns
    rw [ahead_of_some hcur, columnList?, ← hrest]
    dsimp only
    split <;> rfl
  · rename_i hcur
    refine .done (Nat.le_refl pos) hpos fun _ => ?_
    cases ht : current src pos with
    | none => rw [ahead_of_none ht]; rfl
    | some t =>
      rw [ahead_of_some ht, columnList?]
      · rfl
      · rintro rest ⟨⟩
        exact hcur ht

end

/-! ## Groups that are kept -/

section
variable (src : Source) (pos : Nat)

/-- Collects the tokens of a group. At depth zero the group is over. -/
def balancedGroupTurn (s : Nat × List Token) :
    Option (Turn (Nat × List Token) (List Token × Bool)) :=
  match current src pos with
  | none => some (.leave pos (s.2, false))
  | some .leftParen => some (.next (advance src pos) (s.1 + 1, s.2 ++ [.leftParen]))
  | some .rightParen => do
    let depth ← s.1.ppred
    if depth = 0 then some (.leave (advance src pos) (s.2, true))
    else some (.next (advance src pos) (depth, s.2 ++ [.rightParen]))
  | some t => some (.next (advance src pos) (s.1, s.2 ++ [t]))

/-- The tokens of the group that opens here, and whether it is closed. -/
def balancedGroupAt : Option (Nat × List Token × Bool) :=
  loop src.length (balancedGroupTurn src) (advance src pos) (1, [])

end

section
variable {src : Source} {pos : Nat}

theorem leads_balancedGroupTurn (s : Nat × List Token) (hs : 0 < s.1) (hpos : pos ≤ src.length) :
    Leads src pos (fun s => 0 < s.1) True
      (fun s ts =>
        let g := balancedGroup (s.1 - 1) ts
        ((s.2 ++ g.inside, g.closed), g.after)) Prod.mk s
      (balancedGroupTurn src pos s) := by
  obtain ⟨depth, group⟩ := s
  obtain ⟨below, rfl⟩ := Nat.exists_eq_add_of_le' hs
  unfold balancedGroupTurn
  split
  · rename_i hcur
    refine .leave (Nat.le_refl pos) hpos fun _ => ?_
    simp [ahead_of_none hcur, balancedGroup]
  · rename_i hcur
    exact .step hcur (Nat.succ_pos _) fun _ => by simp [balancedGroup, Group.push]
  · rename_i hcur
    rw [Nat.ppred_succ]
    cases below with
    | zero =>
      refine .leave le_advance (advance_le hpos) fun _ => ?_
      simp [ahead_of_some hcur, balancedGroup]
    | succ below => exact .step hcur (Nat.succ_pos _) fun _ => by simp [balancedGroup, Group.push]
  · rename_i t hl hr hcur
    refine .step hcur hs fun _ => ?_
    rw [balancedGroup, if_neg hl, if_neg hr]
    simp [Group.push]

theorem ends_balancedGroupAt (h : current src pos = some .leftParen) :
    Ends src (advance src pos) (balancedGroupAt src pos) fun group rest =>
      balancedGroup 0 (ahead src (advance src pos)) = ⟨group.1, group.2, rest⟩ := by
  have hread := ends_loop (fun pos s hpos hs => leads_balancedGroupTurn s hs hpos)
    (advance_le (Nat.le_of_lt (lt_of_current h))) (a := (1, [])) Nat.one_pos
  refine hread.imp fun group rest hgroup => ?_
  have hparts := hgroup trivial
  simp only [Nat.sub_self, List.nil_append, Prod.mk.injEq] at hparts
  obtain ⟨rfl, rfl⟩ := hparts
  rfl

end

/-! ## Cuts between clauses -/

/-- The clauses that were cut off, the place where the next one starts, and the depth there. -/
structure Cuts where
  clauses : List (List Token)
  start : Nat
  depth : Nat

/-- A comma outside of groups ends the stretch before it. -/
def cutStep (ts : List Token) (c : Cuts) (t : Token × Nat) : Option Cuts :=
  if t.1 = .comma ∧ c.depth = 0 then do
    let clause ← slice ts c.start t.2
    some ⟨c.clauses ++ [clause], t.2 + 1, 0⟩
  else some { c with depth := depthAfter c.depth t.1 }

/-- The stretches up to the last comma and the one after it. -/
def cutAll (ts : List Token) (c : Cuts) (rest : List (Token × Nat)) :
    Option (List (List Token)) := do
  let c ← rest.foldlM (cutStep ts) c
  let last ← slice ts c.start ts.length
  some (c.clauses ++ [last])

/-- The clauses of a body that are not empty. -/
def splitAt (ts : List Token) : Option (List (List Token)) := do
  let cut ← cutAll ts ⟨[], 0, 0⟩ ts.zipIdx
  some (cut.filter fun clause => !clause.isEmpty)

theorem prependFirst_nil {lists : List (List Token)} (h : lists ≠ []) :
    prependFirst [] lists = lists := by
  cases lists with
  | nil => exact absurd rfl h
  | cons clause more => rfl

theorem prependFirst_singleton (t : Token) {lists : List (List Token)} (h : lists ≠ []) :
    prependFirst [t] lists = pushFirst t lists := by
  cases lists with
  | nil => exact absurd rfl h
  | cons clause more => rfl

/-- Cutting goes on with the part of a stretch that is read already. -/
theorem cutAll_eq (done rest : List Token) {c : Cuts} (h : c.start ≤ done.length) :
    cutAll (done ++ rest) c (rest.zipIdx done.length)
      = some (c.clauses ++ prependFirst (done.drop c.start) (stretches c.depth rest)) := by
  induction rest generalizing done c with
  | nil =>
    have hlast : (done.drop c.start).take (done.length - c.start) = done.drop c.start :=
      List.take_of_length_le (by simp)
    simp [cutAll, slice_of_le h, stretches, prependFirst, hlast]
  | cons t rest ih =>
    have hgo : ∀ c' : Cuts, c'.start ≤ done.length + 1 →
        cutAll (done ++ t :: rest) c' (rest.zipIdx (done.length + 1))
          = some (c'.clauses
              ++ prependFirst ((done ++ [t]).drop c'.start) (stretches c'.depth rest)) := by
      intro c' hc'
      have hread := ih (done ++ [t]) (c := c') (by simpa using hc')
      simpa using hread
    have hfirst : cutAll (done ++ t :: rest) c ((t :: rest).zipIdx done.length)
        = (cutStep (done ++ t :: rest) c (t, done.length)).bind fun c' =>
            cutAll (done ++ t :: rest) c' (rest.zipIdx (done.length + 1)) := by
      rw [List.zipIdx_cons, cutAll, List.foldlM_cons, Option.bind_eq_bind, Option.bind_eq_bind,
        Option.bind_assoc]
      rfl
    rw [hfirst, cutStep, stretches]
    by_cases hcut : t = .comma ∧ c.depth = 0
    · have hstretch : slice (done ++ t :: rest) c.start done.length = some (done.drop c.start) := by
        rw [slice_of_le h (by simp), List.drop_append_of_le_length h,
          List.take_append_of_le_length (by simp), List.take_of_length_le (by simp)]
      have hnext := hgo ⟨c.clauses ++ [done.drop c.start], done.length + 1, 0⟩ (Nat.le_refl _)
      have hempty : (done ++ [t]).drop (done.length + 1) = [] := List.drop_of_length_le (by simp)
      rw [hempty, prependFirst_nil (stretches_ne_nil 0 rest), List.append_assoc] at hnext
      rw [if_pos hcut, if_pos (by simpa using hcut), hstretch]
      simpa [prependFirst] using hnext
    · have hnext := hgo ⟨c.clauses, c.start, depthAfter c.depth t⟩ (Nat.le_succ_of_le h)
      rw [List.drop_append_of_le_length h,
        ← prependFirst_prependFirst _ _ (stretches_ne_nil _ _),
        prependFirst_singleton _ (stretches_ne_nil _ _)] at hnext
      rw [if_neg hcut, if_neg (by simpa using hcut)]
      exact hnext

theorem splitAt_eq (ts : List Token) : splitAt ts = some (splitClauses ts) := by
  have hcut := cutAll_eq [] ts (c := ⟨[], 0, 0⟩) (Nat.le_refl 0)
  simp only [List.nil_append, List.length_nil, List.drop_nil,
    prependFirst_nil (stretches_ne_nil 0 ts)] at hcut
  rw [splitAt, hcut]
  rfl

end SchemaGraph.Sql.Scan
