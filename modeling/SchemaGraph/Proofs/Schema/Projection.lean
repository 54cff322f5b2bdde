import Mathlib.Data.List.Flatten
import Mathlib.Data.List.Forall2
import Mathlib.Logic.Relation
import SchemaGraph.Proofs.Schema.Targets

/-!
# Relationships are the image of references

The relationships of a schema are computed from its tables alone. Each column whose reference names
a table of the schema gives rise to one of them, and they come in the order of tables and columns
(`InOrder`); references that lead nowhere have no share in them. Identities of relationships are put
together from that of a table and the name of a column, and as all drawn identities have one length,
no two relationships share theirs (`Relationship.resolve_projects`).
-/

namespace SchemaGraph

/-! ## Lists in the order of places -/

/-- The list holds the items that stand at places, one for each place that has an item, in the order
of places. -/
def InOrder {ι β : Type} (before : ι → ι → Prop) (At : ι → β → Prop) (items : List β) : Prop :=
  ∃ places : List ι, places.Pairwise before ∧ (∀ p, p ∈ places ↔ ∃ b, At p b) ∧
    List.Forall₂ At places items

namespace InOrder

variable {ι κ α β : Type} {before : ι → ι → Prop} {At : ι → β → Prop} {items : List β}

theorem nil (h : ∀ p b, ¬ At p b) : InOrder before At [] :=
  ⟨[], .nil, by simpa using h, .nil⟩

/-- Lists whose places follow one another are put together. Every place is one of the first list or
one of the second, and `first` and `second` say which. -/
theorem append {before' : κ → κ → Prop} {At' : κ → β → Prop} {items' : List β} {ν : Type}
    {order : ν → ν → Prop} {Here : ν → β → Prop} (h : InOrder before At items)
    (h' : InOrder before' At' items') (first : ι → ν) (second : κ → ν)
    (hfirst : ∀ p q, before p q → order (first p) (first q))
    (hsecond : ∀ p q, before' p q → order (second p) (second q))
    (hbetween : ∀ p q, order (first p) (second q))
    (hhere : ∀ r b, Here r b ↔
      (∃ p, first p = r ∧ At p b) ∨ ∃ q, second q = r ∧ At' q b) :
    InOrder order Here (items ++ items') := by
  obtain ⟨places, hplaces, hmem, hitems⟩ := h
  obtain ⟨places', hplaces', hmem', hitems'⟩ := h'
  refine ⟨places.map first ++ places'.map second, ?_, fun r => ?_, ?_⟩
  · refine List.pairwise_append.2 ⟨?_, ?_, ?_⟩
    · exact List.pairwise_map.2 (hplaces.imp (hfirst _ _))
    · exact List.pairwise_map.2 (hplaces'.imp (hsecond _ _))
    · simp only [List.forall_mem_map]
      exact fun p _ q _ => hbetween p q
  · simp only [List.mem_append, List.mem_map, hmem, hmem', hhere]
    constructor
    · rintro (⟨p, ⟨b, hb⟩, rfl⟩ | ⟨q, ⟨b, hb⟩, rfl⟩)
      · exact ⟨b, Or.inl ⟨p, rfl, hb⟩⟩
      · exact ⟨b, Or.inr ⟨q, rfl, hb⟩⟩
    · rintro ⟨b, ⟨p, rfl, hb⟩ | ⟨q, rfl, hb⟩⟩
      · exact Or.inl ⟨p, ⟨b, hb⟩, rfl⟩
      · exact Or.inr ⟨q, ⟨b, hb⟩, rfl⟩
  · refine List.rel_append ?_ ?_
    · refine List.forall₂_map_left_iff.2 (hitems.imp fun p b hb => ?_)
      exact (hhere _ _).2 (Or.inl ⟨p, rfl, hb⟩)
    · refine List.forall₂_map_left_iff.2 (hitems'.imp fun q b hb => ?_)
      exact (hhere _ _).2 (Or.inr ⟨q, rfl, hb⟩)

/-- A list of lists is in the order of the outer places, and then of the inner ones. -/
theorem flatMap {inner : α → List β} {At : α → ι → β → Prop} (xs : List α)
    (h : ∀ x ∈ xs, InOrder before (At x) (inner x)) :
    InOrder (Prod.Lex (· < ·) before)
      (fun (p : Nat × ι) b => ∃ x, xs[p.1]? = some x ∧ At x p.2 b) (xs.flatMap inner) := by
  induction xs with
  | nil => exact nil (by simp)
  | cons x xs ih =>
    rw [List.forall_mem_cons] at h
    rw [List.flatMap_cons]
    refine h.1.append (ih h.2) (fun p => (0, p)) (fun q => (q.1 + 1, q.2))
      (fun p q hpq => .right _ hpq) (fun p q hpq => ?_) (fun p q => .left _ _ (Nat.succ_pos _))
      fun r b => ?_
    · rcases hpq with ⟨_, _, hlt⟩ | ⟨_, hlt⟩
      · exact .left _ _ (Nat.succ_lt_succ hlt)
      · exact .right _ hlt
    · obtain ⟨_ | i, p⟩ := r <;> simp

/-- What a list is mapped to is in the order of the list, without the items that are mapped to
nothing. -/
theorem filterMap (f : α → Option β) (xs : List α) :
    InOrder (· < ·) (fun (j : Nat) b => ∃ x, xs[j]? = some x ∧ f x = some b) (xs.filterMap f) := by
  induction xs with
  | nil => exact nil (by simp)
  | cons x xs ih =>
    have hone : InOrder (fun _ _ => False) (fun (_ : Unit) b => f x = some b) (f x).toList := by
      cases hx : f x with
      | none => exact nil (by simp)
      | some b => exact ⟨[()], List.pairwise_singleton _ _, by simp, .cons rfl .nil⟩
    have hcons : (x :: xs).filterMap f = (f x).toList ++ xs.filterMap f := by
      cases hx : f x <;> simp [hx]
    rw [hcons]
    refine hone.append ih (fun _ => 0) (fun j => j + 1) (fun _ _ h => h.elim)
      (fun _ _ => Nat.succ_lt_succ) (fun _ j => Nat.succ_pos j) fun j b => ?_
    cases j <;> simp

end InOrder

/-! ## Single relationships -/

namespace Relationship

variable {K : Type} {ts ts' : List (Table K)}

/-- The column at the place, the number of a table and of a column in it, has a reference to a table
of the list, and the relationship is the one that this reference stands for. -/
def ComesFrom (ts : List (Table K)) (place : Nat × Nat) (r : Relationship) : Prop :=
  ∃ t, ts[place.1]? = some t ∧ ∃ c, t.columns[place.2]? = some c ∧
    ∃ target, c.foreignKey = some target ∧ (∃ u ∈ ts, u.name = target.table) ∧
      r = ofReference t c target

theorem ofColumn?_eq_some {names : List String} {t : Table K} {c : Column} {r : Relationship} :
    ofColumn? names t c = some r ↔
      ∃ target, c.foreignKey = some target ∧ target.table ∈ names ∧ r = ofReference t c target := by
  unfold ofColumn?
  cases c.foreignKey with
  | none => simp
  | some target =>
    by_cases hmem : target.table ∈ names
    · simp [hmem, ofReference, eq_comm]
    · simp [hmem]

/-- The relationships are those of the columns, in the order of tables and columns. -/
theorem inOrder_resolve (ts : List (Table K)) :
    InOrder (Prod.Lex (· < ·) (· < ·)) (ComesFrom ts) (resolve ts) := by
  have hall := InOrder.flatMap ts fun t _ =>
    InOrder.filterMap (ofColumn? (ts.map (·.name)) t) t.columns
  have hplace : (fun (p : Nat × Nat) r => ∃ t, ts[p.1]? = some t ∧
      ∃ c, t.columns[p.2]? = some c ∧ ofColumn? (ts.map (·.name)) t c = some r)
        = ComesFrom ts := by
    funext p r
    simp only [ofColumn?_eq_some, ComesFrom, List.mem_map]
  rwa [hplace] at hall

/-! ## Other orders and other references -/

/-- The relationships of one table, among tables of the given names. -/
def ofTable (names : List String) (t : Table K) : List Relationship :=
  t.columns.filterMap (ofColumn? names t)

theorem ofColumn?_congr {names names' : List String} (h : ∀ x, x ∈ names ↔ x ∈ names')
    (t : Table K) (c : Column) : ofColumn? names t c = ofColumn? names' t c := by
  ext r
  simp only [ofColumn?_eq_some, h]

/-- In another order, the tables have the same relationships each. -/
theorem resolve_of_perm (h : ts'.Perm ts) :
    resolve ts' = ts'.flatMap (ofTable (ts.map (·.name))) := by
  refine List.flatMap_congr fun t _ => List.filterMap_congr fun c _ => ?_
  exact ofColumn?_congr (fun x => (h.map _).mem_iff) t c

/-- The reference, if there is one, leads to none of the tables. -/
def Loose (ts : List (Table K)) (reference : Option ForeignKey) : Prop :=
  ∀ target, reference = some target → ∀ t ∈ ts, t.name ≠ target.table

/-- In one column whose reference led to none of the tables, it was cleared, or set to another one
that leads to none. -/
def Relinked (ts ts' : List (Table K)) : Prop :=
  ∃ before t after, ts = before ++ t :: after ∧
    ∃ index c, t.columns[index]? = some c ∧ Loose ts c.foreignKey ∧
      ∃ reference t', Loose ts reference ∧ t.withForeignKey index reference = .ok t' ∧
        ts' = before ++ t' :: after

theorem ofColumn?_of_loose {c : Column} (h : Loose ts c.foreignKey) (t : Table K) :
    ofColumn? (ts.map (·.name)) t c = none := by
  rw [Option.eq_none_iff_forall_ne_some]
  intro r hr
  obtain ⟨target, htarget, hmem, -⟩ := ofColumn?_eq_some.1 hr
  obtain ⟨u, hu, hname⟩ := List.mem_map.1 hmem
  exact h target htarget u hu hname

theorem filterMap_modify {α β : Type} {f : α → Option β} {g : α → α} {xs : List α} {i : Nat}
    {x : α} (hx : xs[i]? = some x) (hsame : f (g x) = f x) :
    (xs.modify i g).filterMap f = xs.filterMap f := by
  induction xs generalizing i with
  | nil => cases hx
  | cons y xs ih =>
    cases i with
    | zero =>
      cases hx
      rw [List.modify_zero_cons, List.filterMap_cons, List.filterMap_cons, hsame]
    | succ i =>
      rw [List.modify_succ_cons, List.filterMap_cons, List.filterMap_cons, ih hx]

/-- A reference that leads to none of the tables has no share in the relationships. -/
theorem resolve_of_relinked (h : Relinked ts ts') : resolve ts' = resolve ts := by
  obtain ⟨before, t, after, rfl, index, c, hc, hold, reference, t', hnew, hset, rfl⟩ := h
  unfold Table.withForeignKey Table.modifyColumn at hset
  split at hset
  · cases hset
    have hnone := ofColumn?_of_loose hold t
    have hnone' := ofColumn?_of_loose (c := { c with foreignKey := reference }) hnew t
    have hcolumns := filterMap_modify (f := ofColumn? ((before ++ t :: after).map (·.name)) t)
      (g := fun c => { c with foreignKey := reference }) hc (hnone'.trans hnone.symm)
    unfold resolve
    simp only [List.map_append, List.map_cons, List.flatMap_append, List.flatMap_cons] at hcolumns ⊢
    rw [← hcolumns]
    rfl
  · cases hset

/-- And so has none of many. -/
theorem resolve_of_relinkedAll (h : Relation.ReflTransGen Relinked ts ts') :
    resolve ts' = resolve ts := by
  induction h with
  | refl => rfl
  | tail _ hstep ih => exact (resolve_of_relinked hstep).trans ih

/-! ## Identities -/

/-- The tables and the columns that identities are made of can be told apart from each other, if
the identities of both tables have one length. -/
theorem eq_of_idOf_eq {a b : TableId} {c d : String}
    (hlength : a.text.toList.length = b.text.toList.length) (h : idOf a c = idOf b d) :
    a = b ∧ c = d := by
  have hlist := congrArg String.toList h
  simp only [idOf, String.toList_append, List.append_assoc] at hlist
  obtain ⟨htable, hcolumn⟩ := List.append_inj (List.append_cancel_left hlist) hlength
  refine ⟨congrArg TableId.mk (String.toList_inj.1 htable), String.toList_inj.1 ?_⟩
  exact List.append_cancel_left hcolumn

end Relationship

/-- The form of identities that are drawn: `table-` and a UUID of 36 characters. -/
def TableId.IsDrawn (id : TableId) : Prop :=
  ∃ uuid : List Char, uuid.length = 36 ∧ id.text = "table-" ++ String.ofList uuid

theorem IdSupply.isDrawn_draw (s : IdSupply) : s.draw.1.IsDrawn := ⟨_, length_uuid _, rfl⟩

theorem Table.isDrawn_ofDefinitions {K : Type} [Scalar K] (ids : IdSupply)
    (ds : List TableDefinition) : ∀ t ∈ (ofDefinitions (K := K) ids ds).1, t.id.IsDrawn := by
  induction ds generalizing ids with
  | nil => simp [ofDefinitions]
  | cons d ds ih =>
    intro t ht
    rcases List.mem_cons.1 ht with rfl | ht
    · exact ids.isDrawn_draw
    · exact ih _ t ht

theorem TableId.IsDrawn.length {id : TableId} (h : id.IsDrawn) : id.text.toList.length = 42 := by
  obtain ⟨uuid, hlength, htext⟩ := h
  simp [htext, hlength]

namespace Relationship

variable {K : Type} {ts ts' : List (Table K)}

theorem filterMap_sublist_map {α β : Type} {f : α → Option β} {g : α → β}
    (h : ∀ x b, f x = some b → g x = b) {xs : List α} :
    (xs.filterMap f).Sublist (xs.map g) := by
  induction xs with
  | nil => exact .slnil
  | cons x xs ih =>
    rw [List.filterMap_cons, List.map_cons]
    split
    · exact ih.cons _
    · rename_i b hb
      rw [h x b hb]
      exact ih.cons_cons b

/-- The identities of the relationships are among those of the columns. -/
theorem ids_resolve_sublist (ts : List (Table K)) :
    ((resolve ts).map (·.id)).Sublist
      (ts.flatMap fun t => t.columns.map fun c => idOf t.id c.name) := by
  unfold resolve
  dsimp only
  rw [List.map_flatMap]
  refine List.Sublist.flatMap_right ts fun t _ => ?_
  rw [List.map_filterMap]
  refine filterMap_sublist_map fun c id hid => ?_
  obtain ⟨r, hr, rfl⟩ := Option.map_eq_some_iff.1 hid
  obtain ⟨target, -, -, rfl⟩ := ofColumn?_eq_some.1 hr
  rfl

/-- Under drawn identities of tables no two relationships share theirs. -/
theorem nodup_ids_resolve (hids : (ts.map (·.id)).Nodup) (hdrawn : ∀ t ∈ ts, t.id.IsDrawn)
    (hcolumns : ∀ t ∈ ts, (t.columns.map (·.name)).Nodup) : ((resolve ts).map (·.id)).Nodup := by
  refine (ids_resolve_sublist ts).nodup (List.nodup_flatMap.2 ⟨fun t ht => ?_, ?_⟩)
  · have hsplit : t.columns.map (fun c => idOf t.id c.name)
        = (t.columns.map (·.name)).map (idOf t.id) := List.map_map.symm
    rw [hsplit]
    exact (hcolumns t ht).map fun c d h => (eq_of_idOf_eq rfl h).2
  · refine (List.pairwise_map.1 hids).imp_of_mem fun {t u} ht hu hne => ?_
    intro id hid hid'
    obtain ⟨c, -, rfl⟩ := List.mem_map.1 hid
    obtain ⟨d, -, hd⟩ := List.mem_map.1 hid'
    refine hne (eq_of_idOf_eq ?_ hd.symm).1
    rw [(hdrawn t ht).length, (hdrawn u hu).length]

/-! ## The projection -/

/-- The relationships of the tables are the image of their references. -/
structure Projects (ts : List (Table K)) : Prop where
  /-- There is one for each column whose reference names one of the tables, in the order of tables
  and columns, and none besides. -/
  image : InOrder (Prod.Lex (· < ·) (· < ·)) (ComesFrom ts) (resolve ts)
  /-- Each table has its relationships, which go where it goes when the tables are put in another
  order. -/
  permuted : ∀ ts', ts'.Perm ts →
    resolve ts' = ts'.flatMap (ofTable (ts.map (·.name))) ∧ (resolve ts').Perm (resolve ts)
  /-- Nothing changes when references that lead to no table are cleared, or set to others that lead
  to none. -/
  relinked : ∀ ts', Relation.ReflTransGen Relinked ts ts' → resolve ts' = resolve ts
  /-- Under drawn identities of tables no two relationships share theirs. -/
  distinct : (ts.map (·.id)).Nodup → (∀ t ∈ ts, t.id.IsDrawn) →
    (∀ t ∈ ts, (t.columns.map (·.name)).Nodup) → ((resolve ts).map (·.id)).Nodup

/-- **Relationships are the image of references.** Whatever the tables are, there is one
relationship for each column whose reference names one of them, in the order of tables and columns.
The tables may be put in another order, and then so are the relationships; and references that lead
to no table have no share in them. Under identities that are drawn, all relationships have
identities of their own. -/
theorem resolve_projects (ts : List (Table K)) : Projects ts where
  image := inOrder_resolve ts
  permuted ts' h := by
    refine ⟨resolve_of_perm h, ?_⟩
    rw [resolve_of_perm h]
    exact h.flatMap_right _
  relinked _ := resolve_of_relinkedAll
  distinct := nodup_ids_resolve

/-- Tables with references to each other, to themselves and, in the column `team`, the given one.
The names of two columns are such that a part of them could be taken for the end of an identity. -/
def forumTables (team : Option ForeignKey) : List (Table Rat) :=
  (Table.ofDefinitions ⟨5, 0⟩
    [⟨"posts", [⟨"-id", "INT", true, true, none⟩,
        ⟨"author-id", "INT", false, true, some ⟨"users", "id"⟩⟩,
        ⟨"team", "INT", false, false, team⟩,
        ⟨"-author-id", "INT", false, false, some ⟨"posts", "-id"⟩⟩]⟩,
      ⟨"users", [⟨"id", "INT", true, true, none⟩,
        ⟨"author-id", "INT", false, false, some ⟨"posts", "-id"⟩⟩]⟩]).1

/-- There are no teams, so it does not matter what the column refers to. -/
theorem resolve_projects_forumTables :
    let ts := forumTables (some ⟨"teams", "id"⟩)
    (resolve ts).map (fun r => (r.fromTable, r.fromColumn, r.toTable, r.toColumn))
        = [("posts", "author-id", "users", "id"), ("posts", "-author-id", "posts", "-id"),
          ("users", "author-id", "posts", "-id")] ∧
      InOrder (Prod.Lex (· < ·) (· < ·)) (ComesFrom ts) (resolve ts) ∧
      (resolve ts.reverse).Perm (resolve ts) ∧
      resolve (forumTables (some ⟨"clubs", "id"⟩)) = resolve ts ∧
      ((resolve ts).map (·.id)).Nodup := by
  intro ts
  obtain ⟨himage, hperm, hrelinked, hdistinct⟩ := resolve_projects ts
  have hloose : Loose ts (some ⟨"teams", "id"⟩) ∧ Loose ts (some ⟨"clubs", "id"⟩) := by
    constructor
    all_goals
      rintro target ⟨⟩
      decide +kernel
  have hstep : Relinked ts (forumTables (some ⟨"clubs", "id"⟩)) :=
    ⟨[], _, _, rfl, 2, _, rfl, hloose.1, _, _, hloose.2, rfl, rfl⟩
  have hdrawn : ∀ t ∈ ts, t.id.IsDrawn := Table.isDrawn_ofDefinitions _ _
  exact ⟨by decide +kernel, himage, (hperm _ (List.reverse_perm _)).2, hrelinked _ (.single hstep),
    hdistinct (by decide +kernel) hdrawn (by decide +kernel)⟩

end Relationship

end SchemaGraph
