import SchemaGraph.Sql.Statement

/-!
# Nested groups and the commas outside of them

Lists of tokens whose parentheses match (`Nested`), and those that have no comma outside of
parentheses besides (`Whole`). A group is closed where its contents end, and clauses that are joined
by commas are split into the same clauses again (`splitClauses_joinClauses`). The other way round, a
group that is closed has contents that match, and its stretches are joined to the same tokens
(`joinClauses_stretches`).
-/

namespace SchemaGraph.Sql

/-- The parentheses match. -/
inductive Nested : List Token → Prop where
  | nil : Nested []
  | token {t : Token} {ts : List Token} (hl : t ≠ .leftParen) (hr : t ≠ .rightParen)
    (h : Nested ts) : Nested (t :: ts)
  | group {inner ts : List Token} (hi : Nested inner) (h : Nested ts) :
    Nested (.leftParen :: (inner ++ .rightParen :: ts))

/-- The parentheses match, and all commas stand between them. -/
inductive Whole : List Token → Prop where
  | nil : Whole []
  | token {t : Token} {ts : List Token} (hl : t ≠ .leftParen) (hr : t ≠ .rightParen)
    (hc : t ≠ .comma) (h : Whole ts) : Whole (t :: ts)
  | group {inner ts : List Token} (hi : Nested inner) (h : Whole ts) :
    Whole (.leftParen :: (inner ++ .rightParen :: ts))

theorem Whole.nested {ts : List Token} (h : Whole ts) : Nested ts := by
  induction h with
  | nil => exact .nil
  | token hl hr _ _ ih => exact .token hl hr ih
  | group hi _ ih => exact .group hi ih

theorem Nested.append {ts us : List Token} (ht : Nested ts) (hu : Nested us) :
    Nested (ts ++ us) := by
  induction ht with
  | nil => exact hu
  | token hl hr _ ih => exact .token hl hr ih
  | group hi _ _ ih =>
    rw [List.cons_append, List.append_assoc, List.cons_append]
    exact .group hi ih

theorem Whole.append {ts us : List Token} (ht : Whole ts) (hu : Whole us) : Whole (ts ++ us) := by
  induction ht with
  | nil => exact hu
  | token hl hr hc _ ih => exact .token hl hr hc ih
  | group hi _ ih =>
    rw [List.cons_append, List.append_assoc, List.cons_append]
    exact .group hi ih

/-- Without parentheses there is nothing to match. -/
theorem Nested.of_forall {ts : List Token}
    (h : ∀ t ∈ ts, t ≠ .leftParen ∧ t ≠ .rightParen) : Nested ts := by
  induction ts with
  | nil => exact .nil
  | cons t ts ih =>
    obtain ⟨hl, hr⟩ := h t (List.mem_cons_self ..)
    exact .token hl hr (ih fun u hu => h u (List.mem_cons_of_mem _ hu))

/-- Tokens that are no signs of nesting. -/
theorem Whole.of_forall {ts : List Token}
    (h : ∀ t ∈ ts, t ≠ .leftParen ∧ t ≠ .rightParen ∧ t ≠ .comma) : Whole ts := by
  induction ts with
  | nil => exact .nil
  | cons t ts ih =>
    obtain ⟨hl, hr, hc⟩ := h t (List.mem_cons_self ..)
    exact .token hl hr hc (ih fun u hu => h u (List.mem_cons_of_mem _ hu))

/-! ## Groups -/

/-- Matching parentheses do not end the group that they stand in. -/
theorem balancedGroup_nested {ts : List Token} (h : Nested ts) (depth : Nat) (rest : List Token) :
    balancedGroup depth (ts ++ rest)
      = { balancedGroup depth rest with inside := ts ++ (balancedGroup depth rest).inside } := by
  induction h generalizing depth rest with
  | nil => rfl
  | token hl hr _ ih =>
    rw [List.cons_append, balancedGroup, if_neg hl, if_neg hr, ih]
    rfl
  | group _ _ ihi ih =>
    rw [List.cons_append, List.append_assoc, List.cons_append, balancedGroup, if_pos rfl, ihi,
      balancedGroup, if_neg (by decide), if_pos rfl, if_neg (Nat.succ_ne_zero depth),
      Nat.add_sub_cancel, ih]
    simp [Group.push]

/-- The contents of a group are found up to the parenthesis that closes it. -/
theorem balancedGroup_closed {ts : List Token} (h : Nested ts) (rest : List Token) :
    balancedGroup 0 (ts ++ .rightParen :: rest) = ⟨ts, true, rest⟩ := by
  rw [balancedGroup_nested h, balancedGroup, if_neg (by decide), if_pos rfl, if_pos rfl]
  simp

/-- The tokens close all groups, if that many are open before them, and match besides. -/
def Closing : Nat → List Token → Prop
  | 0, ts => Nested ts
  | depth + 1, ts => ∃ inner rest, ts = inner ++ .rightParen :: rest ∧ Nested inner ∧
      Closing depth rest

theorem Closing.append {ts us : List Token} (ht : Nested ts) {depth : Nat}
    (hu : Closing depth us) : Closing depth (ts ++ us) := by
  cases depth with
  | zero => exact ht.append hu
  | succ depth =>
    obtain ⟨inner, rest, rfl, hinner, hrest⟩ := hu
    exact ⟨ts ++ inner, rest, by rw [List.append_assoc], ht.append hinner, hrest⟩

/-- The contents of a group that is closed match, and stand before the parenthesis that closes it.
-/
theorem closing_of_closed {depth : Nat} {ts : List Token}
    (h : (balancedGroup depth ts).closed = true) :
    ts = (balancedGroup depth ts).inside ++ .rightParen :: (balancedGroup depth ts).after ∧
      Closing depth (balancedGroup depth ts).inside := by
  induction ts generalizing depth with
  | nil => cases h
  | cons t ts ih =>
    by_cases hl : t = .leftParen
    · rw [balancedGroup, if_pos hl] at h ⊢
      obtain ⟨hts, inner, rest, hinside, hinner, hrest⟩ := ih h
      refine ⟨congrArg (t :: ·) hts, ?_⟩
      have hgroup := Closing.append (.group hinner .nil) hrest
      rw [List.cons_append, List.append_assoc, List.singleton_append, ← hinside] at hgroup
      rw [hl]
      exact hgroup
    by_cases hr : t = .rightParen
    · cases depth with
      | zero =>
        rw [balancedGroup, if_neg hl, if_pos hr, if_pos rfl]
        exact ⟨congrArg (· :: ts) hr, .nil⟩
      | succ depth =>
        rw [balancedGroup, if_neg hl, if_pos hr, if_neg (Nat.succ_ne_zero depth)] at h ⊢
        obtain ⟨hts, hclosing⟩ := ih h
        refine ⟨congrArg (t :: ·) hts, [], _, ?_, .nil, hclosing⟩
        rw [hr]
        rfl
    · rw [balancedGroup, if_neg hl, if_neg hr] at h ⊢
      obtain ⟨hts, hclosing⟩ := ih h
      exact ⟨congrArg (t :: ·) hts, .append (.token hl hr .nil) hclosing⟩

/-! ## Clauses -/

/-- Tokens put before the first of several lists. -/
def prependFirst (ts : List Token) : List (List Token) → List (List Token)
  | [] => [ts]
  | clause :: more => (ts ++ clause) :: more

theorem stretches_ne_nil (depth : Nat) (ts : List Token) : stretches depth ts ≠ [] := by
  cases ts with
  | nil => simp [stretches]
  | cons t ts =>
    rw [stretches]
    split
    · simp
    · cases stretches (depthAfter depth t) ts <;> simp [pushFirst]

theorem pushFirst_prependFirst (t : Token) (ts : List Token) {lists : List (List Token)}
    (h : lists ≠ []) : pushFirst t (prependFirst ts lists) = prependFirst (t :: ts) lists := by
  cases lists with
  | nil => exact absurd rfl h
  | cons clause more => rfl

theorem prependFirst_prependFirst (ts us : List Token) {lists : List (List Token)}
    (h : lists ≠ []) : prependFirst ts (prependFirst us lists) = prependFirst (ts ++ us) lists := by
  cases lists with
  | nil => exact absurd rfl h
  | cons clause more => simp [prependFirst]

theorem depthAfter_of_ne {t : Token} (hl : t ≠ .leftParen) (hr : t ≠ .rightParen) (depth : Nat) :
    depthAfter depth t = depth := by
  unfold depthAfter
  split <;> first | rfl | contradiction

/-- Inside a group nothing ends a stretch. -/
theorem stretches_nested {ts : List Token} (h : Nested ts) (depth : Nat) (rest : List Token) :
    stretches (depth + 1) (ts ++ rest) = prependFirst ts (stretches (depth + 1) rest) := by
  induction h generalizing depth rest with
  | nil =>
    cases hrest : stretches (depth + 1) rest with
    | nil => exact absurd hrest (stretches_ne_nil _ _)
    | cons clause more => simp [prependFirst, hrest]
  | token hl hr _ ih =>
    rw [List.cons_append, stretches, if_neg (by simp), depthAfter_of_ne hl hr, ih,
      pushFirst_prependFirst _ _ (stretches_ne_nil _ _)]
  | group _ _ ihi ih =>
    rw [List.cons_append, List.append_assoc, List.cons_append, stretches, if_neg (by simp),
      depthAfter, ihi, stretches, if_neg (by simp), depthAfter, Nat.add_sub_cancel, ih,
      pushFirst_prependFirst _ _ (stretches_ne_nil _ _),
      prependFirst_prependFirst _ _ (stretches_ne_nil _ _),
      pushFirst_prependFirst _ _ (stretches_ne_nil _ _)]

/-- A clause without a comma of its own is part of one stretch. -/
theorem stretches_whole {ts : List Token} (h : Whole ts) (rest : List Token) :
    stretches 0 (ts ++ rest) = prependFirst ts (stretches 0 rest) := by
  induction h generalizing rest with
  | nil =>
    cases hrest : stretches 0 rest with
    | nil => exact absurd hrest (stretches_ne_nil _ _)
    | cons clause more => simp [prependFirst, hrest]
  | token hl hr hc _ ih =>
    rw [List.cons_append, stretches, if_neg (by simp [hc]), depthAfter_of_ne hl hr, ih,
      pushFirst_prependFirst _ _ (stretches_ne_nil _ _)]
  | group hi _ ih =>
    rw [List.cons_append, List.append_assoc, List.cons_append, stretches, if_neg (by simp),
      depthAfter, stretches_nested hi, stretches, if_neg (by simp), depthAfter, Nat.add_sub_cancel,
      ih, pushFirst_prependFirst _ _ (stretches_ne_nil _ _),
      prependFirst_prependFirst _ _ (stretches_ne_nil _ _),
      pushFirst_prependFirst _ _ (stretches_ne_nil _ _)]

/-- Clauses with commas between them. -/
def joinClauses : List (List Token) → List Token
  | [] => []
  | [clause] => clause
  | clause :: rest => clause ++ .comma :: joinClauses rest

theorem nested_joinClauses {clauses : List (List Token)} (h : ∀ c ∈ clauses, Whole c) :
    Nested (joinClauses clauses) := by
  fun_induction joinClauses clauses with
  | case1 => exact .nil
  | case2 clause => exact (h clause (List.mem_cons_self ..)).nested
  | case3 clause rest _ ih =>
    have hrest := ih fun c hc => h c (List.mem_cons_of_mem _ hc)
    exact (h clause (List.mem_cons_self ..)).nested.append
      (.token (by simp) (by simp) hrest)

theorem stretches_joinClauses {clause : List Token} {rest : List (List Token)}
    (h : ∀ c ∈ clause :: rest, Whole c) :
    stretches 0 (joinClauses (clause :: rest)) = clause :: rest := by
  induction rest generalizing clause with
  | nil =>
    have hw := stretches_whole (h clause (List.mem_cons_self ..)) []
    rw [List.append_nil] at hw
    rw [joinClauses, hw]
    simp [stretches, prependFirst]
  | cons next rest ih =>
    rw [joinClauses, stretches_whole (h clause (List.mem_cons_self ..)), stretches,
      if_pos (by simp), ih fun c hc => h c (List.mem_cons_of_mem _ hc)]
    · simp [prependFirst]
    · simp

/-- Clauses that were joined by commas are found again, except for empty ones. -/
theorem splitClauses_joinClauses_filter {clauses : List (List Token)}
    (h : ∀ clause ∈ clauses, Whole clause) :
    splitClauses (joinClauses clauses) = clauses.filter fun clause => !clause.isEmpty := by
  cases clauses with
  | nil => rfl
  | cons clause rest => rw [splitClauses, stretches_joinClauses h]

/-- Clauses that were joined by commas are found again. -/
theorem splitClauses_joinClauses {clauses : List (List Token)} (hw : ∀ c ∈ clauses, Whole c)
    (hne : ∀ c ∈ clauses, c ≠ []) : splitClauses (joinClauses clauses) = clauses := by
  rw [splitClauses_joinClauses_filter hw, List.filter_eq_self]
  intro c hc
  simp [hne c hc]

/-! ## Stretches -/

/-- Between the commas of tokens that match all parentheses match. -/
theorem whole_of_mem_stretches {ts : List Token} (h : Nested ts) :
    ∀ clause ∈ stretches 0 ts, Whole clause := by
  have hprepend : ∀ {front ts : List Token}, Whole front → (∀ c ∈ stretches 0 ts, Whole c) →
      ∀ c ∈ stretches 0 (front ++ ts), Whole c := by
    intro front ts hfront hall
    rw [stretches_whole hfront]
    cases hstretches : stretches 0 ts with
    | nil => exact absurd hstretches (stretches_ne_nil 0 ts)
    | cons clause more =>
      rw [hstretches, List.forall_mem_cons] at hall
      exact List.forall_mem_cons.2 ⟨hfront.append hall.1, hall.2⟩
  induction h with
  | nil => exact List.forall_mem_singleton.2 .nil
  | @token t ts hl hr _ ih =>
    by_cases hc : t = .comma
    · rw [stretches, if_pos (by simp [hc])]
      exact List.forall_mem_cons.2 ⟨.nil, ih⟩
    · exact hprepend (.token hl hr hc .nil) ih
  | group hi _ _ ih =>
    have hgroup := hprepend (.group hi .nil) ih
    rwa [List.cons_append, List.append_assoc, List.singleton_append] at hgroup

theorem joinClauses_cons {clause : List Token} {rest : List (List Token)} (h : rest ≠ []) :
    joinClauses (clause :: rest) = clause ++ .comma :: joinClauses rest := by
  cases rest with
  | nil => exact absurd rfl h
  | cons next rest => rfl

/-- The stretches with the commas between them are the tokens. -/
theorem joinClauses_stretches (depth : Nat) (ts : List Token) :
    joinClauses (stretches depth ts) = ts := by
  induction ts generalizing depth with
  | nil => rfl
  | cons t ts ih =>
    rw [stretches]
    split
    · rename_i hcomma
      rw [joinClauses_cons (stretches_ne_nil 0 ts), ih]
      have ht : t = .comma := by simp_all
      rw [ht]
      rfl
    · have hne := stretches_ne_nil (depthAfter depth t) ts
      have hjoin := ih (depthAfter depth t)
      match hstretches : stretches (depthAfter depth t) ts with
      | [] => exact absurd hstretches hne
      | [clause] =>
        rw [hstretches] at hjoin
        exact congrArg (t :: ·) hjoin
      | clause :: next :: more =>
        rw [hstretches] at hjoin
        exact congrArg (t :: ·) hjoin

end SchemaGraph.Sql
