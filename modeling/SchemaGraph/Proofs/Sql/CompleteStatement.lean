import Mathlib.Data.List.Basic
import SchemaGraph.Proofs.Sql.TableStatement

/-!
# Complete statements

A statement is complete if its reader stops just before the next one: no body and no list of actions
is left open. Where it stops does not depend on what comes next, as long as the statement ends with
a semicolon or another one begins. So a script of complete statements is read one statement after
the other (`statements_script`).
-/

namespace SchemaGraph.Sql

/-- A statement begins, or there are no more tokens. -/
def beginsStatement (ts : List Token) : Bool :=
  ts.head?.all fun t => t == .keyword .create || t == .keyword .alter

/-- The tokens end before the rest: with a semicolon of their own, or because a statement begins
there. -/
def EndsBefore (ts rest : List Token) : Prop :=
  ts.getLast? = some .semicolon ∨ beginsStatement rest = true

/-- The tokens are one complete statement, and are read as `s`, if as anything. If another statement
begins after them they are read just up to it. -/
inductive IsStatement : List Token → Option Statement → Prop where
  | create {ts : List Token} {s : Option Statement} (hname : ∀ found, s ≠ some (.nameless found))
    (h : createStatement (ts ++ [.keyword .create]) = (s, [.keyword .create])) :
    IsStatement (.keyword .create :: ts) s
  | alter {ts : List Token} {s : Option Statement}
    (h : alterTable (ts ++ [.keyword .create]) = (s, [.keyword .create])) :
    IsStatement (.keyword .alter :: ts) s
  /-- Anything that begins with other words. -/
  | other {ts : List Token} (h : ∀ t ∈ ts, t ≠ .keyword .create ∧ t ≠ .keyword .alter) :
    IsStatement ts none

/-- A complete statement, with what it is read as. -/
structure CompleteStatement where
  tokens : List Token
  statement : Option Statement
  complete : IsStatement tokens statement

/-- Each of the statements ends before the next one. -/
def Ended : List CompleteStatement → Prop
  | [] => True
  | s :: ss => EndsBefore s.tokens (ss.flatMap (·.tokens)) ∧ Ended ss

theorem beginsStatement_cases {rest : List Token} (h : beginsStatement rest = true) :
    rest = [] ∨ (∃ more, rest = .keyword .create :: more) ∨
      ∃ more, rest = .keyword .alter :: more := by
  cases rest with
  | nil => exact Or.inl rfl
  | cons t more =>
    rcases (by simpa [beginsStatement] using h : t = .keyword .create ∨ t = .keyword .alter) with
      rfl | rfl
    · exact Or.inr (Or.inl ⟨more, rfl⟩)
    · exact Or.inr (Or.inr ⟨more, rfl⟩)

/-! ## Two continuations -/

/-- The same tokens with two continuations: in `ts` another statement begins after them, in `us` the
tokens `rest` follow, which they end before. -/
inductive SameUpTo (rest : List Token) : List Token → List Token → Prop where
  | next (h : beginsStatement rest = true) : SameUpTo rest [.keyword .create] rest
  | semicolon : SameUpTo rest [.semicolon, .keyword .create] (.semicolon :: rest)
  | token (t : Token) {ts us : List Token} (h : SameUpTo rest ts us) :
    SameUpTo rest (t :: ts) (t :: us)

variable {rest ts us : List Token}

theorem sameUpTo_append (h : EndsBefore ts rest) :
    SameUpTo rest (ts ++ [.keyword .create]) (ts ++ rest) := by
  induction ts with
  | nil =>
    rcases h with h | h
    · cases h
    · exact .next h
  | cons t ts ih =>
    cases ts with
    | nil =>
      rcases h with h | h
      · cases h
        exact .semicolon
      · exact .token t (.next h)
    | cons u ts =>
      refine .token t (ih ?_)
      rwa [EndsBefore, List.getLast?_cons_cons] at h

namespace SameUpTo

theorem eq_of_next (h : SameUpTo rest [.keyword .create] us) : us = rest := by
  cases h with
  | next => rfl
  | token _ h => cases h

/-- Before the next statement there is nothing to be passed over. -/
theorem head?_ne (h : beginsStatement rest = true) {t : Token} (hc : t ≠ .keyword .create)
    (ha : t ≠ .keyword .alter) : rest.head? ≠ some t := by
  rcases beginsStatement_cases h with rfl | ⟨more, rfl⟩ | ⟨more, rfl⟩
  · simp
  · simpa using hc.symm
  · simpa using ha.symm

theorem skipKeyword (h : SameUpTo rest ts us) {k : Keyword} (hc : k ≠ .create) (ha : k ≠ .alter) :
    SameUpTo rest (Sql.skipKeyword k ts) (Sql.skipKeyword k us) := by
  cases h with
  | next hbegin =>
    have hrest : Sql.skipKeyword k rest = rest := by
      rcases beginsStatement_cases hbegin with rfl | ⟨more, rfl⟩ | ⟨more, rfl⟩
      · rfl
      · simp [Sql.skipKeyword, hc.symm]
      · simp [Sql.skipKeyword, ha.symm]
    rw [hrest, Sql.skipKeyword, if_neg (by simpa using hc.symm)]
    exact .next hbegin
  | semicolon => exact .semicolon
  | token t h =>
    rw [Sql.skipKeyword, Sql.skipKeyword]
    split
    · exact h
    · exact .token t h

/-- The two begin with the same token, if with any that begins no statement. -/
theorem head?_iff (h : SameUpTo rest ts us) {t : Token} (hc : t ≠ .keyword .create)
    (ha : t ≠ .keyword .alter) : ts.head? = some t ↔ us.head? = some t := by
  cases h with
  | next hbegin => exact iff_of_false (by simpa using hc.symm) (head?_ne hbegin hc ha)
  | semicolon => exact Iff.rfl
  | token u h => exact Iff.rfl

theorem of_cons {t : Token} (h : SameUpTo rest (t :: ts) us) (hc : t ≠ .keyword .create)
    (hs : t ≠ .semicolon) : ∃ more, us = t :: more ∧ SameUpTo rest ts more := by
  cases h with
  | next => exact absurd rfl hc
  | semicolon => exact absurd rfl hs
  | token _ h => exact ⟨_, rfl, h⟩

theorem skipIfNotExists (h : SameUpTo rest ts us) :
    SameUpTo rest (Sql.skipIfNotExists ts) (Sql.skipIfNotExists us) := by
  have hkeep : ∀ ts : List Token, ts.head? ≠ some (.keyword .ifWord) →
      Sql.skipIfNotExists ts = ts := by
    intro ts hts
    unfold Sql.skipIfNotExists
    split
    · exact absurd rfl hts
    · rfl
  have hiff := h.head?_iff (t := .keyword .ifWord) (by simp) (by simp)
  by_cases hif : ts.head? = some (.keyword .ifWord)
  · cases h with
    | next => cases hif
    | semicolon => cases hif
    | token t h =>
      cases hif
      exact (h.skipKeyword (by simp) (by simp)).skipKeyword (by simp) (by simp)
  · rw [hkeep ts hif, hkeep us (mt hiff.2 hif)]
    exact h

theorem skipIfExistsOnly (h : SameUpTo rest ts us) :
    SameUpTo rest (Sql.skipIfExistsOnly ts) (Sql.skipIfExistsOnly us) := by
  have hkeep : ∀ ts : List Token, ts.head? ≠ some (.keyword .ifWord) →
      Sql.skipIfExistsOnly ts = Sql.skipKeyword .only ts := by
    intro ts hts
    unfold Sql.skipIfExistsOnly
    split
    · exact absurd rfl hts
    · rfl
  have hiff := h.head?_iff (t := .keyword .ifWord) (by simp) (by simp)
  by_cases hif : ts.head? = some (.keyword .ifWord)
  · cases h with
    | next => cases hif
    | semicolon => cases hif
    | token t h =>
      cases hif
      exact (h.skipKeyword (by simp) (by simp)).skipKeyword (by simp) (by simp)
  · rw [hkeep ts hif, hkeep us (mt hiff.2 hif)]
    exact h.skipKeyword (by simp) (by simp)

theorem skipTableModifiers (h : SameUpTo rest ts us) :
    SameUpTo rest (Sql.skipTableModifiers ts) (Sql.skipTableModifiers us) := by
  unfold Sql.skipTableModifiers
  induction h with
  | next hbegin =>
    have hrest : rest.dropWhile isTableModifier = rest := by
      rcases beginsStatement_cases hbegin with rfl | ⟨more, rfl⟩ | ⟨more, rfl⟩ <;> rfl
    rw [hrest]
    exact .next hbegin
  | semicolon => exact .semicolon
  | token t h ih =>
    rw [List.dropWhile_cons, List.dropWhile_cons]
    split
    · exact ih
    · exact .token t h

/-- A name ends before the next statement. -/
theorem qualifiedTail (h : SameUpTo rest ts us) (name : String) :
    (Sql.qualifiedTail name us).1 = (Sql.qualifiedTail name ts).1 ∧
      SameUpTo rest (Sql.qualifiedTail name ts).2 (Sql.qualifiedTail name us).2 := by
  fun_induction Sql.qualifiedTail name ts generalizing us with
  | case1 name t more part hpart ih =>
    cases h with
    | token _ h =>
      cases h with
      | next => cases hpart
      | semicolon => cases hpart
      | token _ h =>
        rw [Sql.qualifiedTail]
        simp only [hpart]
        exact ih h
  | case2 name t more hnone =>
    cases h with
    | token _ h =>
      cases h with
      | next hbegin =>
        have hafter : Sql.qualifiedTail name (.dot :: rest) = (name, rest) := by
          rcases beginsStatement_cases hbegin with rfl | ⟨more, rfl⟩ | ⟨more, rfl⟩ <;> rfl
        rw [hafter]
        exact ⟨rfl, .next hbegin⟩
      | semicolon => exact ⟨rfl, .semicolon⟩
      | token _ h =>
        rw [Sql.qualifiedTail]
        simp only [hnone]
        exact ⟨trivial, .token t h⟩
  | case3 =>
    cases h with
    | token _ h => cases h
  | case4 name ts hnot hdot =>
    have hhead : ts.head? ≠ some .dot := by
      intro hts
      cases ts with
      | nil => cases hts
      | cons t ts =>
        cases hts
        cases ts with
        | nil => exact hdot rfl
        | cons u ts => exact hnot u ts rfl
    rw [qualifiedTail_of_head? (mt (h.head?_iff (by simp) (by simp)).2 hhead)]
    exact ⟨rfl, h⟩

theorem qualifiedName? (h : SameUpTo rest ts us) {name : String} {more : List Token}
    (hread : Sql.qualifiedName? ts = some (name, more)) :
    ∃ more', Sql.qualifiedName? us = some (name, more') ∧ SameUpTo rest more more' := by
  cases h with
  | next => cases hread
  | semicolon => cases hread
  | token t h =>
    rw [Sql.qualifiedName?, Option.map_eq_some_iff] at hread
    obtain ⟨first, hfirst, htail⟩ := hread
    obtain ⟨hname, hsame⟩ := h.qualifiedTail first
    rw [htail] at hname hsame
    refine ⟨_, ?_, hsame⟩
    rw [Sql.qualifiedName?, hfirst, Option.map_some]
    exact congrArg some (Prod.ext hname rfl)

theorem qualifiedName?_none (h : SameUpTo rest ts us) (hread : Sql.qualifiedName? ts = none) :
    Sql.qualifiedName? us = none := by
  cases h with
  | next hbegin =>
    rcases beginsStatement_cases hbegin with rfl | ⟨more, rfl⟩ | ⟨more, rfl⟩ <;> rfl
  | semicolon => rfl
  | token t h =>
    rw [Sql.qualifiedName?, Option.map_eq_none_iff] at hread ⊢
    exact hread

/-- A statement that is passed over ends before the next one. -/
theorem skipStatement (h : SameUpTo rest ts us)
    (hread : Sql.skipStatement ts = [.keyword .create]) : Sql.skipStatement us = rest := by
  induction h with
  | next hbegin =>
    rcases beginsStatement_cases hbegin with rfl | ⟨more, rfl⟩ | ⟨more, rfl⟩ <;> rfl
  | semicolon => rfl
  | @token t ts us h ih =>
    by_cases hs : t = .semicolon
    · subst hs
      rw [Sql.skipStatement] at hread ⊢
      rw [hread] at h
      exact h.eq_of_next
    by_cases hc : t = .keyword .create
    · subst hc
      rw [Sql.skipStatement] at hread
      cases hread
      cases h
    by_cases ha : t = .keyword .alter
    · subst ha
      rw [Sql.skipStatement] at hread
      cases hread
    rw [Sql.skipStatement] at hread ⊢ <;> first | assumption | exact ih hread

/-- A group that is closed ends before the next statement. -/
theorem balancedGroup (h : SameUpTo rest ts us) {depth : Nat}
    (hafter : (Sql.balancedGroup depth ts).after ≠ []) :
    (Sql.balancedGroup depth ts).inside = (Sql.balancedGroup depth us).inside ∧
      (Sql.balancedGroup depth us).closed = (Sql.balancedGroup depth ts).closed ∧
      SameUpTo rest (Sql.balancedGroup depth ts).after (Sql.balancedGroup depth us).after := by
  induction h generalizing depth with
  | next hbegin => exact absurd rfl hafter
  | semicolon => exact absurd rfl hafter
  | @token t ts us h ih =>
    rw [Sql.balancedGroup] at hafter
    rw [Sql.balancedGroup, Sql.balancedGroup]
    split
    · rename_i hl
      rw [if_pos hl] at hafter
      obtain ⟨hinside, hclosed, hsame⟩ := ih hafter
      exact ⟨congrArg (t :: ·) hinside, hclosed, hsame⟩
    · rename_i hl
      rw [if_neg hl] at hafter
      split
      · rename_i hr
        rw [if_pos hr] at hafter
        split
        · exact ⟨rfl, rfl, h⟩
        · rename_i hdepth
          rw [if_neg hdepth] at hafter
          obtain ⟨hinside, hclosed, hsame⟩ := ih hafter
          exact ⟨congrArg (t :: ·) hinside, hclosed, hsame⟩
      · rename_i hr
        rw [if_neg hr] at hafter
        obtain ⟨hinside, hclosed, hsame⟩ := ih hafter
        exact ⟨congrArg (t :: ·) hinside, hclosed, hsame⟩

/-- Actions of which none is left open end before the next statement. -/
theorem actionTokens (h : SameUpTo rest ts us) {depth : Nat} {actions : List Token}
    (hread : Sql.actionTokens depth ts = (actions, [.keyword .create])) :
    Sql.actionTokens depth us = (actions, rest) := by
  induction h generalizing depth actions with
  | next hbegin =>
    by_cases hdepth : depth = 0
    · subst hdepth
      cases hread
      rcases beginsStatement_cases hbegin with rfl | ⟨more, rfl⟩ | ⟨more, rfl⟩ <;> rfl
    · simp [Sql.actionTokens, hdepth] at hread
  | semicolon =>
    by_cases hdepth : depth = 0
    · subst hdepth
      cases hread
      rfl
    · simp [Sql.actionTokens, depthAfter, hdepth] at hread
  | @token t ts us h ih =>
    rw [Sql.actionTokens] at hread ⊢
    split at hread
    · rename_i hend
      rw [if_pos hend]
      cases hread
      rw [h.eq_of_next]
    · rename_i hend
      rw [if_neg hend]
      split at hread
      · cases hread
        cases h
      · rename_i hbegin
        rw [if_neg hbegin]
        cases hmore : Sql.actionTokens (depthAfter depth t) ts with
        | mk inner after =>
          rw [hmore] at hread
          cases hread
          rw [ih hmore]

/-! ## Statements -/

theorem createTable (h : SameUpTo rest ts us) {s : Statement} (hname : ∀ found, s ≠ .nameless found)
    (hread : Sql.createTable ts = (s, [.keyword .create])) :
    Sql.createTable us = (s, rest) := by
  have hskip := h.skipIfNotExists
  unfold Sql.createTable at hread ⊢
  dsimp only at hread ⊢
  split at hread
  · exact absurd (Prod.mk.inj hread).1.symm (hname _)
  · rename_i name more hq
    obtain ⟨more', hq', hsame⟩ := hskip.qualifiedName? hq
    obtain ⟨rfl, hafter⟩ := Prod.mk.inj hread
    cases hsame with
    | token _ hsame =>
      have hne : (Sql.balancedGroup 0 more).after ≠ [] := by
        intro hnil
        rw [hnil] at hafter
        cases hafter
      obtain ⟨hinside, hclosed, hsame⟩ := hsame.balancedGroup hne
      rw [hq']
      dsimp only
      rw [hsame.skipStatement hafter, hinside, hclosed]
  · rename_i name more hparen hq
    obtain ⟨more', hq', hsame⟩ := hskip.qualifiedName? hq
    obtain ⟨rfl, hafter⟩ := Prod.mk.inj hread
    have hparen' : more'.head? ≠ some .leftParen := by
      refine mt (hsame.head?_iff (by simp) (by simp)).2 fun hhead => ?_
      cases more with
      | nil => cases hhead
      | cons t more =>
        cases hhead
        exact hparen more rfl
    rw [hq']
    split
    · cases ‹_›
    · rename_i heq
      cases heq
      exact absurd rfl hparen'
    · rename_i heq
      cases heq
      rw [hsame.skipStatement hafter]

theorem createStatement (h : SameUpTo rest ts us) {s : Option Statement}
    (hname : ∀ found, s ≠ some (.nameless found))
    (hread : Sql.createStatement ts = (s, [.keyword .create])) :
    Sql.createStatement us = (s, rest) := by
  have hskip := h.skipTableModifiers
  have hiff := hskip.head?_iff (t := .keyword .table) (by simp) (by simp)
  unfold Sql.createStatement at hread ⊢
  split at hread
  · rename_i more htable
    obtain ⟨rfl, hafter⟩ := Prod.mk.inj hread
    rw [htable] at hskip
    obtain ⟨more', htable', hsame⟩ := hskip.of_cons (by simp) (by simp)
    have hcreate := hsame.createTable (fun found heq => hname found (congrArg some heq))
      (Prod.ext rfl hafter)
    rw [htable']
    dsimp only
    rw [hcreate]
  · rename_i htable
    obtain ⟨rfl, hafter⟩ := Prod.mk.inj hread
    have htable' : (Sql.skipTableModifiers us).head? ≠ some (.keyword .table) := by
      refine mt hiff.2 fun hhead => ?_
      cases hskip' : Sql.skipTableModifiers ts with
      | nil => simp [hskip'] at hhead
      | cons t more =>
        rw [hskip'] at hhead
        cases hhead
        exact htable more hskip'
    split
    · rename_i heq
      rw [heq] at htable'
      exact absurd rfl htable'
    · rw [hskip.skipStatement hafter]

theorem alterTable (h : SameUpTo rest ts us) {s : Option Statement}
    (hread : Sql.alterTable ts = (s, [.keyword .create])) :
    Sql.alterTable us = (s, rest) := by
  have hiff := h.head?_iff (t := .keyword .table) (by simp) (by simp)
  unfold Sql.alterTable at hread ⊢
  split at hread
  · rename_i more
    obtain ⟨more', rfl, hsame⟩ := h.of_cons (by simp) (by simp)
    have hskip := hsame.skipIfExistsOnly
    dsimp only at hread ⊢
    split at hread
    · rename_i hnone
      obtain ⟨rfl, hafter⟩ := Prod.mk.inj hread
      rw [hskip.qualifiedName?_none hnone]
      dsimp only
      rw [hskip.skipStatement hafter]
    · rename_i name after hq
      obtain ⟨rfl, hafter⟩ := Prod.mk.inj hread
      obtain ⟨after', hq', hsame'⟩ := hskip.qualifiedName? hq
      rw [hq']
      dsimp only
      rw [hsame'.actionTokens (Prod.ext rfl hafter)]
  · rename_i htable
    obtain ⟨rfl, hafter⟩ := Prod.mk.inj hread
    have htable' : us.head? ≠ some (.keyword .table) := by
      refine mt hiff.2 fun hhead => ?_
      cases ts with
      | nil => cases hhead
      | cons t ts =>
        cases hhead
        exact htable ts rfl
    split
    · exact absurd rfl htable'
    · rw [h.skipStatement hafter]

end SameUpTo

/-! ## Scripts -/

theorem endsBefore_of_cons {t : Token} (h : EndsBefore (t :: ts) rest) (ht : t ≠ .semicolon) :
    EndsBefore ts rest := by
  cases ts with
  | nil =>
    rcases h with h | h
    · exact absurd (Option.some.inj h) ht
    · exact Or.inr h
  | cons u ts => rwa [EndsBefore, List.getLast?_cons_cons] at h

/-- Other words than `CREATE` and `ALTER` are passed over. -/
theorem statements_append_other (h : ∀ t ∈ ts, t ≠ .keyword .create ∧ t ≠ .keyword .alter)
    (rest : List Token) : statements (ts ++ rest) = statements rest := by
  induction ts with
  | nil => rfl
  | cons t ts ih =>
    rw [List.forall_mem_cons] at h
    rw [List.cons_append, statements, ih h.2]
    · exact h.1.1
    · exact h.1.2

/-- A complete statement is read on its own, if it ends before the rest. -/
theorem statements_append {s : Option Statement} (hs : IsStatement ts s)
    (h : EndsBefore ts rest) : statements (ts ++ rest) = s.toList ++ statements rest := by
  cases hs with
  | create hname hread =>
    have hsame := sameUpTo_append (endsBefore_of_cons h (by simp))
    rw [List.cons_append, statements, hsame.createStatement hname hread]
  | alter hread =>
    have hsame := sameUpTo_append (endsBefore_of_cons h (by simp))
    rw [List.cons_append, statements, hsame.alterTable hread]
  | other hwords => exact statements_append_other hwords rest

/-- A script of complete statements is read one statement after the other. -/
theorem statements_script {ss : List CompleteStatement} (h : Ended ss) :
    statements (ss.flatMap (·.tokens)) = ss.flatMap (·.statement.toList) := by
  induction ss with
  | nil => rw [List.flatMap_nil, statements, List.flatMap_nil]
  | cons s ss ih =>
    rw [List.flatMap_cons, List.flatMap_cons, statements_append s.complete h.1, ih h.2]

/-! ## Putting scripts together -/

theorem beginsStatement_append (h : beginsStatement (ts ++ us) = true)
    (hrest : beginsStatement rest = true) : beginsStatement (ts ++ rest) = true := by
  cases ts with
  | nil => exact hrest
  | cons t ts => exact h

theorem ended_of_append {ss ss' : List CompleteStatement} (h : Ended (ss ++ ss')) : Ended ss' := by
  induction ss with
  | nil => exact h
  | cons s ss ih => exact ih h.2

/-- What begins with a statement may be replaced by anything else that does. -/
theorem ended_append {ss old new : List CompleteStatement} (h : Ended (ss ++ old))
    (hnew : Ended new) (hbegin : beginsStatement (new.flatMap (·.tokens)) = true) :
    Ended (ss ++ new) := by
  induction ss with
  | nil => exact hnew
  | cons s ss ih =>
    rw [List.cons_append, Ended, List.flatMap_append] at h ⊢
    refine ⟨h.1.imp_right fun hold => beginsStatement_append hold hbegin, ih h.2⟩

namespace TableStatement

/-- The statement, with a semicolon or without one, is complete. -/
def complete (s : TableStatement) (semicolon : Bool) : CompleteStatement where
  tokens := s.tokens ++ if semicolon then [.semicolon] else []
  statement := some s.statement
  complete := by
    have hread := createStatement_tableStatement s
      ((if semicolon then [.semicolon] else []) ++ [.keyword .create])
    rw [← List.append_assoc] at hread
    refine .create (fun found => by simp [statement]) (hread.trans ?_)
    cases semicolon <;> rfl

/-- Only the semicolon matters for where the statement ends. -/
theorem endsBefore_complete (s : TableStatement) (semicolon : Bool) (rest : List Token) :
    EndsBefore (s.complete semicolon).tokens rest ↔
      semicolon = true ∨ beginsStatement rest = true := by
  cases semicolon with
  | true => simp [EndsBefore, complete]
  | false =>
    have hlast : s.tokens.getLast? ≠ some .semicolon := by
      have hshape : s.tokens = (.keyword .create :: (s.modifiers ++ .keyword .table ::
          (s.guard ++ (s.qualified ++ .leftParen :: s.body)))) ++ .rightParen :: s.options := by
        simp [tokens]
      intro hlast
      rw [hshape, List.getLast?_append_cons] at hlast
      rcases List.mem_cons.1 (List.mem_of_getLast? hlast) with heq | hmem
      · cases heq
      · exact (s.options_free _ hmem).1 rfl
    simp [EndsBefore, complete, hlast]

end TableStatement

end SchemaGraph.Sql
