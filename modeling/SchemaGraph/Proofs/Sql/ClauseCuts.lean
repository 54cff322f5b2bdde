import SchemaGraph.Proofs.Sql.Nesting
import SchemaGraph.Proofs.Sql.Openings
import SchemaGraph.Proofs.Sql.TextCuts

/-!
# Scripts with one clause less

A clause of the body of a `CREATE TABLE` is deleted from the tokens of a script (`WithoutClause`):
the commas around it stay, or one of them goes with it. In both cases the statement has the other
clauses, in their order, and no other statement changes (`statements_without`). In the text of a
script each clause of a closed body stands between two signs, and what is left when it is deleted
there has the tokens of a script with one clause less (`exists_withoutClause`).
-/

namespace SchemaGraph.Sql

/-! ## Clauses between signs -/

theorem joinClauses_cons_eq (clause : List Token) (post : List (List Token)) :
    joinClauses (clause :: post) = clause ++ post.flatMap (.comma :: ·) := by
  induction post generalizing clause with
  | nil => simp [joinClauses]
  | cons next post ih => rw [joinClauses_cons (List.cons_ne_nil next post), ih]; rfl

theorem joinClauses_append (pre : List (List Token)) {post : List (List Token)} (h : post ≠ []) :
    joinClauses (pre ++ post) = pre.flatMap (· ++ [.comma]) ++ joinClauses post := by
  induction pre with
  | nil => rfl
  | cons clause pre ih =>
    rw [List.cons_append, joinClauses_cons (List.append_ne_nil_of_right_ne_nil pre h), ih]
    simp

/-- A clause comes after the parenthesis or after a comma. -/
theorem exists_signBefore {opening : List Token} (h : opening.getLast? = some .leftParen)
    (pre : List (List Token)) :
    ∃ front t, t.isDelimiter = true ∧
      (∀ post, post ≠ [] →
        opening ++ joinClauses (pre ++ post) = front ++ t :: joinClauses post) ∧
      (t = .comma → ∀ post,
        opening ++ joinClauses (pre ++ post) = front ++ post.flatMap (.comma :: ·)) := by
  rcases List.eq_nil_or_concat pre with rfl | ⟨pre, last, rfl⟩
  · obtain ⟨front, rfl⟩ := List.getLast?_eq_some_iff.1 h
    refine ⟨front, .leftParen, rfl, fun post _ => ?_, fun ht => by cases ht⟩
    rw [List.append_assoc]
    rfl
  · refine ⟨opening ++ (pre.flatMap (· ++ [.comma]) ++ last), .comma, rfl,
      fun post hpost => ?_, fun _ post => ?_⟩
    · rw [joinClauses_append _ hpost]
      simp
    · rw [List.concat_eq_append, List.append_assoc, joinClauses_append _ (by simp),
        List.singleton_append, joinClauses_cons_eq]
      simp

/-- A clause comes before the parenthesis or before a comma. -/
theorem exists_signAfter (post : List (List Token)) (rest : List Token) :
    ∃ t back, t.isDelimiter = true ∧
      post.flatMap (.comma :: ·) ++ .rightParen :: rest = t :: back ∧
      (t = .comma → post ≠ [] ∧ joinClauses post ++ .rightParen :: rest = back) := by
  cases post with
  | nil => exact ⟨.rightParen, rest, rfl, rfl, fun ht => by cases ht⟩
  | cons clause post =>
    refine ⟨.comma, joinClauses (clause :: post) ++ .rightParen :: rest, rfl, ?_,
      fun _ => ⟨by simp, rfl⟩⟩
    rw [joinClauses_cons_eq]
    simp

/-- An entry that is kept by a filter, in the unfiltered list. -/
theorem exists_of_getElem?_filter {α : Type} {p : α → Bool} {l : List α} {i : Nat} {a : α}
    (h : (l.filter p)[i]? = some a) :
    ∃ pre post, l = pre ++ a :: post ∧ (pre.filter p).length = i := by
  induction l generalizing i with
  | nil => simp at h
  | cons b l ih =>
    by_cases hb : p b = true
    · rw [List.filter_cons_of_pos hb] at h
      cases i with
      | zero =>
        cases h
        exact ⟨[], l, rfl, rfl⟩
      | succ i =>
        obtain ⟨pre, post, rfl, hlength⟩ := ih h
        exact ⟨b :: pre, post, rfl, by rw [List.filter_cons_of_pos hb, List.length_cons, hlength]⟩
    · rw [List.filter_cons_of_neg hb] at h
      obtain ⟨pre, post, rfl, hlength⟩ := ih h
      exact ⟨b :: pre, post, rfl, by rw [List.filter_cons_of_neg hb, hlength]⟩

/-- Each clause of a body whose parentheses match stands among others, joined by commas. -/
theorem exists_clauses {body clause : List Token} {i : Nat} (h : Nested body)
    (hclause : (splitClauses body)[i]? = some clause) :
    ∃ pre post, body = joinClauses (pre ++ clause :: post) ∧
      (∀ c ∈ pre ++ clause :: post, Whole c) ∧ (pre.filter fun c => !c.isEmpty).length = i := by
  obtain ⟨pre, post, hstretches, hplace⟩ := exists_of_getElem?_filter hclause
  have hwhole := whole_of_mem_stretches h
  have hjoin := joinClauses_stretches 0 body
  rw [hstretches] at hwhole hjoin
  exact ⟨pre, post, hjoin.symm, hwhole, hplace⟩

/-- A closed body stands between its opening and the parenthesis that closes it. -/
theorem exists_closedBody {ts : List Token} {before after : List Statement} {name : String}
    {body : List Token} (h : statements ts = before ++ .createTable name body true :: after) :
    ∃ opening rest, ts = opening ++ (body ++ .rightParen :: rest) ∧
      Opening before name opening ∧ Nested body := by
  obtain ⟨opening, more, rfl, hopening⟩ := exists_opening h
  rw [hopening.read] at h
  obtain ⟨hstatement, -⟩ := List.cons.inj (List.append_cancel_left h)
  injection hstatement with _ hbody hclosed
  obtain ⟨hmore, hnested⟩ := closing_of_closed hclosed
  rw [hbody] at hmore hnested
  exact ⟨opening, _, congrArg (opening ++ ·) hmore, hopening, hnested⟩

/-! ## Tokens without a clause -/

/-- `ts'` are the tokens `ts` without the clause at position `i` of the body of a `CREATE TABLE`,
the one after the statements `before`. Stretches without tokens are no clauses. The commas around
the clause stay, or one of them goes with it. -/
inductive WithoutClause (before : List Statement) (name : String) (i : Nat) (clause : List Token)
    (ts ts' : List Token) : Prop where
  | intro {opening rest : List Token} {pre post kept : List (List Token)}
    (hopening : Opening before name opening) (hwhole : ∀ c ∈ pre ++ clause :: post, Whole c)
    (hplace : (pre.filter fun c => !c.isEmpty).length = i)
    (hkept : kept = pre ++ [] :: post ∨ kept = pre ++ post)
    (hts : ts = opening ++ (joinClauses (pre ++ clause :: post) ++ .rightParen :: rest))
    (hts' : ts' = opening ++ (joinClauses kept ++ .rightParen :: rest))

/-- The body that is made up of the clauses. -/
theorem Opening.statements_joinClauses {before : List Statement} {name : String}
    {opening : List Token} (h : Opening before name opening) {clauses : List (List Token)}
    (hwhole : ∀ c ∈ clauses, Whole c) (rest : List Token) :
    statements (opening ++ (joinClauses clauses ++ .rightParen :: rest))
        = before ++ .createTable name (joinClauses clauses) true
          :: statements (skipStatement rest) ∧
      splitClauses (joinClauses clauses) = clauses.filter fun c => !c.isEmpty := by
  refine ⟨?_, splitClauses_joinClauses_filter hwhole⟩
  rw [h.read, balancedGroup_closed (nested_joinClauses hwhole)]

/-- The statement lacks the clause, and all else is the same. -/
theorem statements_without {before : List Statement} {name : String} {i : Nat}
    {clause ts ts' : List Token} (h : WithoutClause before name i clause ts ts')
    (hclause : clause ≠ []) :
    ∃ body body' after pre post,
      statements ts = before ++ .createTable name body true :: after ∧
      statements ts' = before ++ .createTable name body' true :: after ∧
      splitClauses body = pre ++ clause :: post ∧ splitClauses body' = pre ++ post ∧
      pre.length = i := by
  obtain @⟨opening, rest, pre, post, kept, hopening, hwhole, hplace, hkept, rfl, rfl⟩ := h
  have hwhole' : ∀ c ∈ kept, Whole c := by
    obtain ⟨hpre, hpost⟩ := List.forall_mem_append.1 hwhole
    rw [List.forall_mem_cons] at hpost
    rcases hkept with rfl | rfl
    · exact List.forall_mem_append.2 ⟨hpre, List.forall_mem_cons.2 ⟨.nil, hpost.2⟩⟩
    · exact List.forall_mem_append.2 ⟨hpre, hpost.2⟩
  obtain ⟨hstatements, hsplit⟩ := hopening.statements_joinClauses hwhole rest
  obtain ⟨hstatements', hsplit'⟩ := hopening.statements_joinClauses hwhole' rest
  refine ⟨_, _, _, _, post.filter fun c => !c.isEmpty, hstatements, hstatements', ?_, ?_, hplace⟩
  · rw [hsplit, List.filter_append, List.filter_cons_of_pos (by simpa using hclause)]
  · rcases hkept with rfl | rfl
    · rw [hsplit', List.filter_append, List.filter_cons_of_neg (by simp)]
    · rw [hsplit', List.filter_append]

/-! ## Texts without a clause -/

/-- What is left of a text when what stands between two of its signs is deleted, and maybe a comma
with it. -/
inductive LeftOver (u : List Char) (c d : Char) (w : List Char) : List Char → Prop where
  | between : LeftOver u c d w (u ++ c :: d :: w)
  | withCommaBefore (hc : c = ',') : LeftOver u c d w (u ++ d :: w)
  | withCommaAfter (hd : d = ',') : LeftOver u c d w (u ++ c :: w)

/-- A text of signs and what stands between them. -/
theorem tokens_append_sign {escapes : Bool} {u : List Char} (hu : Complete escapes u) {c : Char}
    {t : Token} (hc : sign? c = some t) (ht : t.isDelimiter = true) (w : List Char) :
    tokens escapes (u ++ c :: w) = tokens escapes u ++ t :: tokens escapes w := by
  have hapart : Apart u (c :: w) :=
    Or.inr (by simpa using separates_of_isDelimiter (isDelimiter_of_sign hc ht))
  rw [tokens_append hu hapart, tokens_sign hc]

theorem sign?_comma {c : Char} {t : Token} (h : sign? c = some t) (hc : c = ',') : t = .comma := by
  subst hc
  cases h
  rfl

/-- In the text of a script each clause of a closed body stands between two signs. -/
theorem exists_withoutClause {escapes : Bool} {text : List Char} {before after : List Statement}
    {name : String} {body clause : List Token} {i : Nat}
    (h : statements (tokens escapes text) = before ++ .createTable name body true :: after)
    (hclause : (splitClauses body)[i]? = some clause) :
    ∃ u c v d w, text = u ++ c :: (v ++ d :: w) ∧ tokens escapes v = clause ∧
      ∀ cs, LeftOver u c d w cs →
        WithoutClause before name i clause (tokens escapes text) (tokens escapes cs) := by
  obtain ⟨opening, rest, htokens, hopening, hnested⟩ := exists_closedBody h
  obtain ⟨pre, post, rfl, hwhole, hplace⟩ := exists_clauses hnested hclause
  have hwithout : ∀ kept cs, kept = pre ++ [] :: post ∨ kept = pre ++ post →
      tokens escapes cs = opening ++ (joinClauses kept ++ .rightParen :: rest) →
      WithoutClause before name i clause (tokens escapes text) (tokens escapes cs) :=
    fun kept cs hkept hcs => .intro hopening hwhole hplace hkept htokens hcs
  -- the signs around the clause
  obtain ⟨front, t, ht, hfront, hcommaBefore⟩ := exists_signBefore hopening.paren pre
  obtain ⟨t', back, ht', hback, hcommaAfter⟩ := exists_signAfter post rest
  have hsigns : ∀ clause, opening ++ (joinClauses (pre ++ clause :: post) ++ .rightParen :: rest)
      = front ++ t :: (clause ++ t' :: back) := by
    intro clause
    rw [← List.append_assoc, hfront _ (List.cons_ne_nil clause post), joinClauses_cons_eq,
      List.append_assoc, List.cons_append, List.append_assoc, hback]
  obtain ⟨u, c, more, rfl, hc, hu, hfronts, htail⟩ := exists_cut ht (htokens.trans (hsigns clause))
  obtain ⟨v, d, w, rfl, hd, hv, hclauses, hbacks⟩ := exists_cut ht' htail
  refine ⟨u, c, v, d, w, rfl, hclauses, fun cs hcs => ?_⟩
  cases hcs with
  | between =>
    refine hwithout _ _ (Or.inl rfl) ?_
    rw [tokens_append_sign hu hc ht, tokens_sign hd, hfronts, hbacks, hsigns]
    rfl
  | withCommaBefore hcomma =>
    refine hwithout _ _ (Or.inr rfl) ?_
    rw [tokens_append_sign hu hd ht', hfronts, hbacks, ← List.append_assoc,
      hcommaBefore (sign?_comma hc hcomma), List.append_assoc, hback]
  | withCommaAfter hcomma =>
    refine hwithout _ _ (Or.inr rfl) ?_
    obtain ⟨hpost, hlast⟩ := hcommaAfter (sign?_comma hd hcomma)
    rw [tokens_append_sign hu hc ht, hfronts, hbacks, ← List.append_assoc, hfront _ hpost,
      List.append_assoc, List.cons_append, hlast]

end SchemaGraph.Sql
