import Mathlib.Data.List.Basic
import SchemaGraph.Proofs.Sql.Nesting

/-!
# Bodies are cut exactly

One reader looks for the end of a group, another for the commas between its clauses, and each counts
parentheses on its own. Here parentheses are counted without a reader: they match if none is closed
before it is opened and all are closed in the end (`Balanced`), and a comma splits clauses if as
many groups were closed before it as were opened (`SplitsAt`). Both readers find what the count says
(`bodies_cutExactly`). The count is followed token by token from any depth, as the readers do it.
-/

namespace SchemaGraph.Sql

/-! ## Counting parentheses -/

/-- With so many groups open before the tokens, no more are ever closed than are open. -/
def Opened (depth : Nat) (ts : List Token) : Prop :=
  ∀ i, (ts.take i).count .rightParen ≤ depth + (ts.take i).count .leftParen

/-- The parentheses match: nowhere have more groups been closed than opened, and in the end all
are closed. -/
structure Balanced (ts : List Token) : Prop where
  opened : ∀ i, (ts.take i).count .rightParen ≤ (ts.take i).count .leftParen
  closed : ts.count .rightParen = ts.count .leftParen

/-- With so many groups open before the tokens, there is a comma at the place that stands in no
group. -/
def SplitsAt (depth : Nat) (ts : List Token) (i : Nat) : Prop :=
  ts[i]? = some .comma ∧ (ts.take i).count .rightParen = depth + (ts.take i).count .leftParen

instance (depth : Nat) (ts : List Token) (i : Nat) : Decidable (SplitsAt depth ts i) :=
  inferInstanceAs (Decidable (_ ∧ _))

section
variable {depth : Nat} {t : Token} {ts : List Token}

/-- The depth after a token, by the counts on both sides of it. -/
theorem count_cons_depthAfter (ht : t = .rightParen → 0 < depth) (us : List Token) :
    depth + (t :: us).count .leftParen + us.count .rightParen
      = depthAfter depth t + us.count .leftParen + (t :: us).count .rightParen := by
  by_cases hl : t = .leftParen
  · subst hl
    simp [depthAfter]
    omega
  by_cases hr : t = .rightParen
  · have hpos := ht hr
    subst hr
    simp [depthAfter]
    omega
  · simp [depthAfter_of_ne hl hr, hl, hr]

theorem opened_cons :
    Opened depth (t :: ts) ↔ (t = .rightParen → 0 < depth) ∧ Opened (depthAfter depth t) ts := by
  constructor
  · intro h
    have ht : t = .rightParen → 0 < depth := by
      rintro rfl
      have hfirst := h 1
      simpa [Nat.lt_iff_add_one_le] using hfirst
    refine ⟨ht, fun i => ?_⟩
    have hnext := h (i + 1)
    have hcount := count_cons_depthAfter ht (ts.take i)
    rw [List.take_succ_cons] at hnext
    omega
  · rintro ⟨ht, h⟩ i
    cases i with
    | zero => simp
    | succ i =>
      have hnext := h i
      have hcount := count_cons_depthAfter ht (ts.take i)
      rw [List.take_succ_cons]
      omega

theorem splitsAt_cons_zero : SplitsAt depth (t :: ts) 0 ↔ t = .comma ∧ depth = 0 := by
  simp [SplitsAt, eq_comm]

theorem splitsAt_cons_succ (ht : t = .rightParen → 0 < depth) (i : Nat) :
    SplitsAt depth (t :: ts) (i + 1) ↔ SplitsAt (depthAfter depth t) ts i := by
  have hcount := count_cons_depthAfter ht (ts.take i)
  rw [SplitsAt, SplitsAt, List.getElem?_cons_succ, List.take_succ_cons]
  exact and_congr_right fun _ => by omega

/-- If the first token does not split, a comma that does stands among the others. -/
theorem exists_of_splitsAt_cons (hc : t = .comma → 0 < depth) (ht : t = .rightParen → 0 < depth)
    {i : Nat} (h : SplitsAt depth (t :: ts) i) :
    ∃ j, i = j + 1 ∧ SplitsAt (depthAfter depth t) ts j := by
  cases i with
  | zero =>
    obtain ⟨hcomma, hzero⟩ := splitsAt_cons_zero.1 h
    exact absurd hzero (Nat.pos_iff_ne_zero.1 (hc hcomma))
  | succ i => exact ⟨i, rfl, (splitsAt_cons_succ ht i).1 h⟩

end

/-! ## Matching parentheses, counted and paired -/

section
variable {depth : Nat} {ts : List Token}

theorem count_nested (h : Nested ts) : ts.count .rightParen = ts.count .leftParen := by
  induction h with
  | nil => rfl
  | token hl hr _ ih => simp [hl, hr, ih]
  | group _ _ ihi ih =>
    simp [ihi, ih]
    omega

theorem opened_nested (h : Nested ts) (rest : List Token) :
    Opened depth (ts ++ rest) ↔ Opened depth rest := by
  induction h generalizing depth rest with
  | nil => rfl
  | token hl hr _ ih =>
    rw [List.cons_append, opened_cons, depthAfter_of_ne hl hr, ih]
    simp [hr]
  | group _ _ ihi ih =>
    rw [List.cons_append, List.append_assoc, List.cons_append, opened_cons, depthAfter, ihi,
      opened_cons, depthAfter, Nat.add_sub_cancel, ih]
    simp

/-- What closes all open groups by the count closes them one after the other. -/
theorem closing_of_opened (h : Opened depth ts)
    (hclosed : ts.count .rightParen = depth + ts.count .leftParen) : Closing depth ts := by
  induction ts generalizing depth with
  | nil =>
    have hzero : 0 = depth := by simpa using hclosed
    rw [← hzero]
    exact Nested.nil
  | cons t ts ih =>
    obtain ⟨ht, hts⟩ := opened_cons.1 h
    have hcount := count_cons_depthAfter ht ts
    have hrest := ih hts (by omega)
    by_cases hl : t = .leftParen
    · subst hl
      obtain ⟨inner, rest, rfl, hinner, hafter⟩ := hrest
      have hgroup := Closing.append (.group hinner .nil) hafter
      rwa [List.cons_append, List.append_assoc] at hgroup
    by_cases hr : t = .rightParen
    · subst hr
      obtain ⟨below, rfl⟩ := Nat.exists_eq_add_of_le' (ht rfl)
      exact ⟨[], ts, rfl, .nil, hrest⟩
    · rw [depthAfter_of_ne hl hr] at hrest
      exact Closing.append (.token hl hr .nil) hrest

/-- Parentheses match by the count exactly if they can be paired. -/
theorem balanced_iff : Balanced ts ↔ Nested ts := by
  constructor
  · rintro ⟨hopened, hclosed⟩
    have hzero : Opened 0 ts := fun i => by simpa using hopened i
    exact closing_of_opened hzero (by simpa using hclosed)
  · intro h
    have hopened : Opened 0 (ts ++ []) := (opened_nested h []).2 fun i => by simp
    rw [List.append_nil] at hopened
    exact ⟨fun i => by simpa using hopened i, count_nested h⟩

end

/-! ## The end of a group -/

section
variable {depth : Nat} {ts : List Token}

/-- Without its closing parenthesis a group is all that follows. -/
theorem balancedGroup_unclosed (h : (balancedGroup depth ts).closed = false) :
    balancedGroup depth ts = ⟨ts, false, []⟩ := by
  fun_induction balancedGroup depth ts with
  | case1 => rfl
  | case2 depth rest ih => rw [ih h]; rfl
  | case3 => cases h
  | case4 depth rest _ _ ih => rw [ih h]; rfl
  | case5 depth t rest _ _ ih => rw [ih h]; rfl

/-- A group is closed exactly if matching parentheses stand before one that closes it. -/
theorem balancedGroup_cases (ts : List Token) :
    (∃ inside after, balancedGroup 0 ts = ⟨inside, true, after⟩ ∧
        ts = inside ++ .rightParen :: after ∧ Balanced inside) ∨
      (balancedGroup 0 ts = ⟨ts, false, []⟩ ∧
        ∀ inside after, ts = inside ++ .rightParen :: after → ¬ Balanced inside) := by
  cases hclosed : (balancedGroup 0 ts).closed with
  | true =>
    obtain ⟨hts, hnested⟩ := closing_of_closed hclosed
    exact Or.inl ⟨_, _, by rw [← hclosed], hts, balanced_iff.2 hnested⟩
  | false =>
    refine Or.inr ⟨balancedGroup_unclosed hclosed, fun inside after hts hbalanced => ?_⟩
    rw [hts, balancedGroup_closed (balanced_iff.1 hbalanced)] at hclosed
    cases hclosed

/-- The actions of an `ALTER TABLE` go on after the groups in them, each of which is closed where it
is, or else at the end of the script. -/
theorem actionTokens_group (depth : Nat) (ts : List Token) :
    actionTokens (depth + 1) ts
      = ((balancedGroup depth ts).inside
            ++ .rightParen :: (actionTokens 0 (balancedGroup depth ts).after).1,
          (actionTokens 0 (balancedGroup depth ts).after).2) := by
  induction ts generalizing depth with
  | nil => rfl
  | cons t ts ih =>
    rw [actionTokens, if_neg (by simp), if_neg (by simp), balancedGroup]
    by_cases hl : t = .leftParen
    · rw [if_pos hl, hl, depthAfter, ih]
      rfl
    rw [if_neg hl]
    by_cases hr : t = .rightParen
    · rw [if_pos hr, hr, depthAfter, Nat.add_sub_cancel]
      cases depth with
      | zero => rfl
      | succ depth =>
        rw [if_neg (Nat.succ_ne_zero depth), ih]
        rfl
    · rw [if_neg hr, depthAfter_of_ne hl hr, ih]
      rfl

end

/-! ## The commas between clauses -/

section
variable {depth : Nat} {ts : List Token}

/-- Inside a group there is no comma between clauses. -/
theorem splitsAt_nested (h : Nested ts) {rest : List Token} {i : Nat}
    (hi : SplitsAt (depth + 1) (ts ++ rest) i) :
    ∃ j, i = ts.length + j ∧ SplitsAt (depth + 1) rest j := by
  induction h generalizing depth rest i with
  | nil => exact ⟨i, by simp, hi⟩
  | token hl hr _ ih =>
    rw [List.cons_append] at hi
    obtain ⟨j, rfl, hj⟩ := exists_of_splitsAt_cons (by simp) (by simp) hi
    rw [depthAfter_of_ne hl hr] at hj
    obtain ⟨k, rfl, hk⟩ := ih hj
    exact ⟨k, by simp; omega, hk⟩
  | group _ _ ihi ih =>
    rw [List.cons_append, List.append_assoc, List.cons_append] at hi
    obtain ⟨_, rfl, hopened⟩ := exists_of_splitsAt_cons (by simp) (by simp) hi
    obtain ⟨_, rfl, hinner⟩ := ihi hopened
    obtain ⟨_, rfl, hclosed⟩ := exists_of_splitsAt_cons (by simp) (by simp) hinner
    obtain ⟨k, rfl, hk⟩ := ih hclosed
    exact ⟨k, by simp; omega, hk⟩

theorem not_splitsAt_whole (h : Whole ts) (i : Nat) : ¬ SplitsAt 0 ts i := by
  intro hi
  induction h generalizing i with
  | nil => simp [SplitsAt] at hi
  | token hl hr hc _ ih =>
    obtain ⟨j, rfl, hj⟩ := exists_of_splitsAt_cons (by simp [hc]) (by simp [hr]) hi
    rw [depthAfter_of_ne hl hr] at hj
    exact ih j hj
  | group hgroup _ ih =>
    obtain ⟨_, rfl, hopened⟩ := exists_of_splitsAt_cons (by simp) (by simp) hi
    obtain ⟨_, rfl, hinner⟩ := splitsAt_nested hgroup hopened
    obtain ⟨j, rfl, hclosed⟩ := exists_of_splitsAt_cons (by simp) (by simp) hinner
    exact ih j hclosed

theorem splitsAt_append (h : Nested ts) (rest : List Token) (i : Nat) :
    SplitsAt 0 (ts ++ rest) (ts.length + i) ↔ SplitsAt 0 rest i := by
  have hcount := count_nested h
  simp only [SplitsAt, List.getElem?_append_right (Nat.le_add_right _ i), Nat.add_sub_cancel_left,
    List.take_length_add_append, List.count_append]
  exact and_congr_right fun _ => by omega

/-- By the count: the parentheses match, and no comma stands outside of them. -/
theorem whole_iff : Whole ts ↔ Balanced ts ∧ ∀ i, ¬ SplitsAt 0 ts i := by
  constructor
  · exact fun h => ⟨balanced_iff.2 h.nested, not_splitsAt_whole h⟩
  · rintro ⟨hbalanced, huncut⟩
    have hnested := balanced_iff.1 hbalanced
    clear hbalanced
    induction hnested with
    | nil => exact .nil
    | @token t ts hl hr _ ih =>
      refine .token hl hr (fun hc => huncut 0 (splitsAt_cons_zero.2 ⟨hc, rfl⟩)) (ih fun i hi => ?_)
      refine huncut (i + 1) ?_
      rwa [splitsAt_cons_succ (by simp [hr]), depthAfter_of_ne hl hr]
    | @group inner ts hi _ _ ih =>
      refine .group hi (ih fun i hsplit => ?_)
      have hgroup := (splitsAt_append (.group hi .nil) ts i).2 hsplit
      rw [List.cons_append, List.append_assoc, List.singleton_append] at hgroup
      exact huncut _ hgroup

theorem flatten_pushFirst (t : Token) (lists : List (List Token)) :
    (pushFirst t lists).flatten = t :: lists.flatten := by cases lists <;> simp [pushFirst]

/-- The stretches one after the other are the tokens without the commas between clauses. -/
theorem flatten_stretches (h : Opened depth ts) :
    (stretches depth ts).flatten
      = (ts.zipIdx.filter fun p => ¬ SplitsAt depth ts p.2).map Prod.fst := by
  induction ts generalizing depth with
  | nil => rfl
  | cons t ts ih =>
    obtain ⟨ht, hts⟩ := opened_cons.1 h
    have hrest : (((t :: ts).zipIdx.tail).filter fun p => ¬ SplitsAt depth (t :: ts) p.2).map
        Prod.fst = (stretches (depthAfter depth t) ts).flatten := by
      rw [ih hts, List.zipIdx_cons', List.tail_cons, List.filter_map, List.map_map]
      simp only [Function.comp_def, Prod.map, splitsAt_cons_succ ht, id_eq]
    have hfirst : (¬ SplitsAt depth (t :: ts) 0) ↔ ¬ (t = .comma && depth = 0) = true := by
      simp [splitsAt_cons_zero]
    rw [List.zipIdx_cons, List.tail_cons] at hrest
    rw [List.zipIdx_cons, List.filter_cons, stretches]
    simp only [hfirst, decide_eq_true_eq, ite_not]
    split
    · rename_i hsplit
      rw [hrest]
      simp_all [depthAfter]
    · rw [List.map_cons, hrest, flatten_pushFirst]

end

/-! ## Pieces -/

theorem joinClauses_eq_intercalate (pieces : List (List Token)) :
    joinClauses pieces = [.comma].intercalate pieces := by
  fun_induction joinClauses pieces with
  | case1 => rfl
  | case2 piece => exact List.intercalate_singleton.symm
  | case3 piece rest hne ih =>
    obtain ⟨next, more, rfl⟩ := List.exists_cons_of_ne_nil (by simpa using hne)
    rw [ih, List.intercalate_cons_cons, List.append_assoc]
    rfl

/-- The pieces between the commas of a body: with commas between them they are the body, in each of
them the parentheses match, and in none of them a comma stands outside of parentheses. -/
structure CutInto (body : List Token) (pieces : List (List Token)) : Prop where
  ne_nil : pieces ≠ []
  joined : [Token.comma].intercalate pieces = body
  balanced : ∀ piece ∈ pieces, Balanced piece
  uncut : ∀ piece ∈ pieces, ∀ i, ¬ SplitsAt 0 piece i

section
variable {body : List Token}

theorem cutInto_stretches (h : Balanced body) : CutInto body (stretches 0 body) where
  ne_nil := stretches_ne_nil 0 body
  joined := by rw [← joinClauses_eq_intercalate, joinClauses_stretches]
  balanced piece hpiece := (whole_iff.1 (whole_of_mem_stretches (balanced_iff.1 h) piece hpiece)).1
  uncut piece hpiece := (whole_iff.1 (whole_of_mem_stretches (balanced_iff.1 h) piece hpiece)).2

/-- There is one way only to cut a body. -/
theorem CutInto.eq_stretches {pieces : List (List Token)} (h : CutInto body pieces) :
    pieces = stretches 0 body := by
  obtain ⟨piece, more, rfl⟩ := List.exists_cons_of_ne_nil h.ne_nil
  have hwhole : ∀ p ∈ piece :: more, Whole p := fun p hp =>
    whole_iff.2 ⟨h.balanced p hp, h.uncut p hp⟩
  rw [← h.joined, ← joinClauses_eq_intercalate, stretches_joinClauses hwhole]

/-- **Bodies are cut exactly.** The group that begins before any tokens ends at the parenthesis
before which all parentheses match; if there is none it is all of the tokens, and counts as not
closed. The groups in the actions of an `ALTER TABLE` are the same ones. Now take a body whose
parentheses match. Each of its clauses is not empty, has matching parentheses and no comma outside
of them; one after the other they are the body without its commas outside of parentheses, and
nothing else is missing. There is exactly one way to cut the body at such commas, and the clauses
are the pieces that are not empty. -/
theorem bodies_cutExactly (ts : List Token) :
    ((∃ inside after, balancedGroup 0 ts = ⟨inside, true, after⟩ ∧
          .leftParen :: ts = .leftParen :: inside ++ .rightParen :: after ∧ Balanced inside) ∨
        (balancedGroup 0 ts = ⟨ts, false, []⟩ ∧
          ∀ inside after, ts = inside ++ .rightParen :: after → ¬ Balanced inside)) ∧
      (let g := balancedGroup 0 ts; let more := actionTokens 0 g.after
        actionTokens 0 (.leftParen :: ts)
          = (.leftParen :: g.inside ++ .rightParen :: more.1, more.2)) ∧
      ∀ body, Balanced body →
        (∀ clause ∈ splitClauses body,
          clause ≠ [] ∧ Balanced clause ∧ ∀ i, ¬ SplitsAt 0 clause i) ∧
        (splitClauses body).flatten
          = (body.zipIdx.filter fun p => ¬ SplitsAt 0 body p.2).map Prod.fst ∧
        (∃! pieces, CutInto body pieces) ∧
        ∀ pieces, CutInto body pieces →
          splitClauses body = pieces.filter fun piece => !piece.isEmpty := by
  refine ⟨?_, ?_, fun body hbody => ⟨fun clause hclause => ?_, ?_, ?_, fun pieces hpieces => ?_⟩⟩
  · rcases balancedGroup_cases ts with ⟨inside, after, hgroup, hts, hbalanced⟩ | hunclosed
    · exact Or.inl ⟨inside, after, hgroup, congrArg (.leftParen :: ·) hts, hbalanced⟩
    · exact Or.inr hunclosed
  · have hopening : actionTokens 0 (.leftParen :: ts)
        = (.leftParen :: (actionTokens 1 ts).1, (actionTokens 1 ts).2) := rfl
    rw [hopening, actionTokens_group]
    rfl
  · obtain ⟨hmem, hne⟩ := List.mem_filter.1 hclause
    have hcut := cutInto_stretches hbody
    exact ⟨by simpa using hne, hcut.balanced clause hmem, hcut.uncut clause hmem⟩
  · have hopened : Opened 0 body := fun i => by simpa using hbody.opened i
    rw [splitClauses, List.flatten_filter_not_isEmpty, flatten_stretches hopened]
  · exact ⟨stretches 0 body, cutInto_stretches hbody, fun _ h => h.eq_stretches⟩
  · rw [splitClauses, hpieces.eq_stretches]

/-- A body with an empty clause, and with a comma and a group within a group. -/
def nestedBody : List Token :=
  [.word "a", .comma, .comma, .word "f", .leftParen, .word "b", .comma, .leftParen, .rightParen,
    .rightParen]

theorem bodies_cutExactly_nestedBody :
    Balanced nestedBody ∧
      splitClauses nestedBody = [nestedBody.take 1, nestedBody.drop 3] ∧
      (∃! pieces, CutInto nestedBody pieces) ∧
      actionTokens 0 (.leftParen :: nestedBody)
        = (.leftParen :: nestedBody ++ [.rightParen], []) := by
  have hbalanced : Balanced nestedBody := by
    rcases (bodies_cutExactly (nestedBody ++ [.rightParen])).1 with
      ⟨inside, after, hgroup, -, hinside⟩ | ⟨hgroup, -⟩
    · have hread : balancedGroup 0 (nestedBody ++ [.rightParen]) = ⟨nestedBody, true, []⟩ := rfl
      cases hread.symm.trans hgroup
      exact hinside
    · cases hgroup
  obtain ⟨-, hactions, hbodies⟩ := bodies_cutExactly nestedBody
  exact ⟨hbalanced, by decide, (hbodies nestedBody hbalanced).2.2.1, hactions⟩

end

end SchemaGraph.Sql
