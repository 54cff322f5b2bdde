import Mathlib.Data.Set.Finite.List
import Mathlib.Data.Finite.Prod
import Mathlib.Order.Bounds.Basic
import Mathlib.Order.WellFounded
import Mathlib.Data.Fintype.Card
import SchemaGraph.Proofs.Canvas.PlacementOrder

/-!
# Rows by depth

References between tables form a graph. A table from which no cycle is reached has a depth, the
length of the longest path that begins at it, and that is the number of its row; all other tables
are in the row below the deepest of these (`OnRow`). `peelRows` takes rows off from the top: after
`i` rows, the names that have been placed are those from which no path of length `i` begins.
-/

namespace SchemaGraph.Canvas

open Relation

/-! ## Paths -/

section
variable {α : Type} (r : α → α → Prop)

/-- Some path of `n` references begins at `a`. -/
def HasPath (a : α) (n : Nat) : Prop := ∃ path, (a :: path).IsChain r ∧ path.length = n

/-- No cycle is reached from `a`. -/
def Grounded (a : α) : Prop := ∀ b, ReflTransGen r a b → ¬ TransGen r b b

/-- The row of `a` among the names: its depth if it is grounded, and otherwise the first row below
those of all grounded names. -/
def OnRow (names : List α) (a : α) (k : Nat) : Prop :=
  (Grounded r a ∧ IsGreatest {n | HasPath r a n} k) ∨
    (¬ Grounded r a ∧ IsLeast {m | ∀ b ∈ names, Grounded r b → ∀ n, HasPath r b n → n < m} k)

variable {r} {names : List α} {a b : α} {k m n : Nat}

theorem hasPath_zero (a : α) : HasPath r a 0 := ⟨[], by simp, rfl⟩

theorem hasPath_succ : HasPath r a (n + 1) ↔ ∃ b, r a b ∧ HasPath r b n := by
  constructor
  · rintro ⟨_ | ⟨b, path⟩, hchain, hlength⟩
    · cases hlength
    · rw [List.isChain_cons_cons] at hchain
      exact ⟨b, hchain.1, path, hchain.2, by simpa using hlength⟩
  · rintro ⟨b, hab, path, hchain, rfl⟩
    exact ⟨b :: path, List.isChain_cons_cons.2 ⟨hab, hchain⟩, rfl⟩

theorem HasPath.of_le (h : HasPath r a n) (hm : m ≤ n) : HasPath r a m := by
  obtain ⟨path, hchain, hlength⟩ := h
  refine ⟨path.take m, ?_, by simp [hlength, hm]⟩
  rw [← List.take_succ_cons]
  exact hchain.take _

theorem isGreatest_hasPath : IsGreatest {n | HasPath r a n} k ↔
    HasPath r a k ∧ ¬ HasPath r a (k + 1) := by
  refine and_congr_right fun _ => ⟨fun hup hmore => ?_, fun hno n hn => ?_⟩
  · exact absurd (hup hmore) (by omega)
  · by_contra hlt
    exact hno (HasPath.of_le hn (by omega))

theorem OnRow.unique (h : OnRow r names a k) (h' : OnRow r names a m) : k = m := by
  rcases h with ⟨hg, h⟩ | ⟨hg, h⟩ <;> rcases h' with ⟨hg', h'⟩ | ⟨hg', h'⟩
  · exact h.unique h'
  · exact absurd hg hg'
  · exact absurd hg' hg
  · exact h.unique h'

/-- Where paths from finitely many names are bounded, they have one bound. -/
theorem exists_bound {P : α → Prop} (names : List α)
    (h : ∀ b ∈ names, P b → ∃ n, ¬ HasPath r b n) : ∃ n, ∀ b ∈ names, P b → ¬ HasPath r b n := by
  induction names with
  | nil => exact ⟨0, by simp⟩
  | cons c names ih =>
    rw [List.forall_mem_cons] at h
    obtain ⟨n, hn⟩ := ih h.2
    by_cases hc : P c
    · obtain ⟨m, hm⟩ := h.1 hc
      refine ⟨max m n, ?_⟩
      rw [List.forall_mem_cons]
      exact ⟨fun _ hp => hm (hp.of_le (le_max_left m n)),
        fun b hb hP hp => hn b hb hP (hp.of_le (le_max_right m n))⟩
    · refine ⟨n, ?_⟩
      rw [List.forall_mem_cons]
      exact ⟨fun hP => absurd hP hc, hn⟩

/-- Paths that reach a cycle go on for ever. -/
theorem grounded_of_not_hasPath (h : ¬ HasPath r a n) : Grounded r a := by
  intro b hab hcycle
  have hlong : ∀ n x, TransGen r x b → HasPath r x n := by
    intro n
    induction n with
    | zero => exact fun x _ => hasPath_zero x
    | succ n ih =>
      intro x hx
      obtain ⟨c, hxc, hcb⟩ := TransGen.head'_iff.1 hx
      exact hasPath_succ.2 ⟨c, hxc, ih c (TransGen.trans_right hcb hcycle)⟩
  exact h (hlong n a (TransGen.trans_right hab hcycle))

/-- Among finitely many names, paths that reach no cycle are bounded. The induction is on the names
that are reached: without a cycle, references among them lead downwards only. -/
theorem Grounded.exists_not_hasPath (h : Grounded r a) (hmem : ∀ x y, r x y → y ∈ names)
    (ha : a ∈ names) : ∃ n, ¬ HasPath r a n := by
  let Reached := {x // x ∈ names ∧ ReflTransGen r a x}
  have hfinite : Finite Reached :=
    (names.finite_toSet.subset fun _ hx => hx.1 : {x | x ∈ names ∧ ReflTransGen r a x}.Finite)
  let below (y x : Reached) : Prop := TransGen r x.1 y.1
  have htrans : IsTrans Reached below := ⟨fun x y z hxy hyz => hyz.trans hxy⟩
  have hirrefl : Std.Irrefl below := ⟨fun x hx => h x.1 x.2.2 hx⟩
  have hall : ∀ x : Reached, ∃ n, ¬ HasPath r x.1 n := by
    intro x
    induction x using (Finite.wellFounded_of_trans_of_irrefl below).induction with
    | _ x ih =>
      obtain ⟨n, hn⟩ := exists_bound (P := r x.1) names fun b hb hxb =>
        ih ⟨b, hb, x.2.2.tail hxb⟩ (TransGen.single hxb)
      refine ⟨n + 1, fun hp => ?_⟩
      obtain ⟨b, hxb, hb⟩ := hasPath_succ.1 hp
      exact hn b (hmem _ _ hxb) hxb hb
  exact hall ⟨a, ha, ReflTransGen.refl⟩

/-- A grounded name has a depth. -/
theorem Grounded.exists_depth (h : Grounded r a) (hmem : ∀ x y, r x y → y ∈ names)
    (ha : a ∈ names) : ∃ k, HasPath r a k ∧ ¬ HasPath r a (k + 1) := by
  obtain ⟨n, hn⟩ := h.exists_not_hasPath hmem ha
  induction n with
  | zero => exact absurd (hasPath_zero a) hn
  | succ n ih =>
    by_cases hp : HasPath r a n
    · exact ⟨n, hp, hn⟩
    · exact ih hp

end

/-! ## Rows from the top -/

section
variable (parents : String → List String)

/-- The second name is one of the parents of the first. -/
def Below (a b : String) : Prop := b ∈ parents a

variable {parents} {names placed pending : List String} {name : String} {i : Nat}

theorem mem_readyNames : name ∈ readyNames parents placed pending ↔
    name ∈ pending ∧ ∀ b ∈ parents name, b ∈ placed := by
  simp [readyNames]

theorem mem_waitingNames : name ∈ waitingNames parents placed pending ↔
    name ∈ pending ∧ ¬ ∀ b ∈ parents name, b ∈ placed := by
  simp [waitingNames]

/-- After `i` rows, those names are placed from which no path of length `i` begins, and each of the
rows holds some name. -/
structure Peeled (parents : String → List String) (names placed pending : List String) (i : Nat) :
    Prop where
  mem : ∀ a, a ∈ names ↔ a ∈ placed ∨ a ∈ pending
  disjoint : ∀ a ∈ pending, a ∉ placed
  placed_iff : ∀ a ∈ names, a ∈ placed ↔ ¬ HasPath (Below parents) a i
  filled : ∀ m < i, ∃ b ∈ names,
    HasPath (Below parents) b m ∧ ¬ HasPath (Below parents) b (m + 1)

theorem peeled_start (parents : String → List String) (names : List String) :
    Peeled parents names [] names 0 where
  mem a := by simp
  disjoint a _ := List.not_mem_nil
  placed_iff a _ := by simp [hasPath_zero]
  filled m hm := by omega

section
variable (hparents : ∀ a, ∀ b ∈ parents a, b ∈ names) (h : Peeled parents names placed pending i)
include hparents h

/-- The next row holds the names of that depth. -/
theorem Peeled.mem_ready {a : String} (ha : a ∈ names) :
    a ∈ readyNames parents placed pending ↔
      HasPath (Below parents) a i ∧ ¬ HasPath (Below parents) a (i + 1) := by
  have hpending : a ∈ pending ↔ HasPath (Below parents) a i := by
    have hmem := (h.mem a).1 ha
    have hdisjoint := h.disjoint a
    have hplaced := h.placed_iff a ha
    tauto
  have hall : (∀ b ∈ parents a, b ∈ placed) ↔ ¬ HasPath (Below parents) a (i + 1) := by
    rw [hasPath_succ, not_exists]
    refine forall_congr' fun b => ?_
    rw [not_and]
    exact forall_congr' fun hb => h.placed_iff b (hparents a b hb)
  rw [mem_readyNames, hpending, hall]

theorem Peeled.next (hsome : (readyNames parents placed pending).isEmpty ≠ true) :
    Peeled parents names (placed ++ readyNames parents placed pending)
      (waitingNames parents placed pending) (i + 1) := by
  have hready : ∀ a ∈ readyNames parents placed pending, a ∈ names := fun a ha =>
    (h.mem a).2 (Or.inr (mem_readyNames.1 ha).1)
  refine ⟨fun a => ?_, fun a ha => ?_, fun a ha => ?_, fun m hm => ?_⟩
  · rw [h.mem, List.mem_append, mem_readyNames, mem_waitingNames]
    tauto
  · have hdisjoint := h.disjoint a
    rw [mem_waitingNames] at ha
    rw [List.mem_append, mem_readyNames]
    tauto
  · rw [List.mem_append, h.placed_iff a ha, h.mem_ready hparents ha]
    have hless : HasPath (Below parents) a (i + 1) → HasPath (Below parents) a i := fun hp =>
      hp.of_le (by omega)
    tauto
  · rcases Nat.lt_succ_iff_lt_or_eq.1 hm with hlt | rfl
    · exact h.filled m hlt
    · obtain ⟨a, ha⟩ := List.exists_mem_of_ne_nil _ (mt List.isEmpty_iff.2 hsome)
      exact ⟨a, hready a ha, (h.mem_ready hparents (hready a ha)).1 ha⟩

/-- Once no name is ready, those that are left have paths of every length. -/
theorem Peeled.hasPath_of_stuck (hnone : (readyNames parents placed pending).isEmpty = true)
    {a : String} (ha : a ∈ names) (hp : HasPath (Below parents) a i) (n : Nat) :
    HasPath (Below parents) a n := by
  have hmore : ∀ b ∈ names, HasPath (Below parents) b i → HasPath (Below parents) b (i + 1) := by
    intro b hb hpb
    by_contra hno
    have hready := (h.mem_ready hparents hb).2 ⟨hpb, hno⟩
    rw [List.isEmpty_iff.1 hnone] at hready
    cases hready
  induction n generalizing a with
  | zero => exact hasPath_zero a
  | succ n ih =>
    obtain ⟨b, hab, hb⟩ := hasPath_succ.1 (hmore a ha hp)
    exact hasPath_succ.2 ⟨b, hab, ih (hparents a b hab) hb⟩

/-- Then the names that are placed are the grounded ones, and the next row is the first below
theirs. -/
theorem Peeled.stuck (hnone : (readyNames parents placed pending).isEmpty = true) :
    (∀ a ∈ names, a ∈ pending ↔ ¬ Grounded (Below parents) a) ∧
      IsLeast {m | ∀ b ∈ names, Grounded (Below parents) b →
        ∀ n, HasPath (Below parents) b n → n < m} i := by
  have hgrounded : ∀ a ∈ names, Grounded (Below parents) a → ¬ HasPath (Below parents) a i := by
    intro a ha hg hp
    obtain ⟨n, hn⟩ := hg.exists_not_hasPath (fun x y hxy => hparents x y hxy) ha
    exact hn (h.hasPath_of_stuck hparents hnone ha hp n)
  refine ⟨fun a ha => ?_, fun b hb hg n hp => ?_, fun m hm => ?_⟩
  · have hmem := (h.mem a).1 ha
    have hdisjoint := h.disjoint a
    have hplaced := h.placed_iff a ha
    have hground := hgrounded a ha
    have hback : ¬ HasPath (Below parents) a i → Grounded (Below parents) a :=
      grounded_of_not_hasPath
    tauto
  · by_contra hlt
    exact hgrounded b hb hg (hp.of_le (by omega))
  · by_contra hlt
    obtain ⟨b, hb, hp, hno⟩ := h.filled m (by omega)
    exact lt_irrefl m (hm b hb (grounded_of_not_hasPath hno) m hp)

/-- Each row holds the names that belong to it. -/
theorem Peeled.mem_row {j : Nat} {row : List String}
    (hrow : (peelRows parents placed pending)[j]? = some row) {a : String} (ha : a ∈ names) :
    a ∈ row ↔ OnRow (Below parents) names a (i + j) := by
  fun_induction peelRows parents placed pending generalizing i j with
  | case1 => simp at hrow
  | case2 placed pending hnone =>
    obtain ⟨rfl, rfl⟩ : j = 0 ∧ pending = row := by
      cases j <;> simp_all
    obtain ⟨hpending, hleast⟩ := h.stuck hparents hnone
    rw [hpending a ha, OnRow, isGreatest_hasPath]
    constructor
    · exact fun hg => Or.inr ⟨hg, hleast⟩
    · rintro (⟨-, hp, hno⟩ | ⟨hg, -⟩)
      · exact absurd (h.hasPath_of_stuck hparents hnone ha hp _) hno
      · exact hg
  | case3 placed pending hsome ih =>
    have hnext := h.next hparents hsome
    cases j with
    | succ j =>
      rw [List.getElem?_cons_succ] at hrow
      rw [ih hnext hrow]
      congr! 1
      omega
    | zero =>
      cases hrow
      rw [h.mem_ready hparents ha, OnRow, isGreatest_hasPath, Nat.add_zero]
      constructor
      · exact fun hp => Or.inl ⟨grounded_of_not_hasPath hp.2, hp⟩
      · rintro (⟨-, hp⟩ | ⟨-, hleast⟩)
        · exact hp
        · -- the row holds a grounded name, so the row below all of those is not this one
          obtain ⟨b, hb, hpb, hno⟩ := hnext.filled i (by omega)
          exact absurd (hleast.1 b hb (grounded_of_not_hasPath hno) i hpb) (lt_irrefl i)

end

/-- Every name is in one row, and no row is empty. -/
theorem flatten_peelRows_perm (parents : String → List String) (placed pending : List String) :
    (peelRows parents placed pending).flatten.Perm pending ∧
      ∀ row ∈ peelRows parents placed pending, row ≠ [] := by
  fun_induction peelRows parents placed pending with
  | case1 placed pending hnone hempty => simp [List.isEmpty_iff.1 hempty]
  | case2 placed pending hnone hempty => simpa using mt List.isEmpty_iff.2 hempty
  | case3 placed pending hsome ih =>
    rw [List.flatten_cons, List.forall_mem_cons]
    refine ⟨(ih.1.append_left _).trans ?_, mt List.isEmpty_iff.2 hsome, ih.2⟩
    exact List.filter_append_perm _ pending

end

/-! ## Rows in order -/

/-- A row in the order of names. -/
def sortedRow (row : List String) : List String := row.mergeSort fun a b => decide (a ≤ b)

theorem sortedRow_perm (row : List String) : (sortedRow row).Perm row := List.mergeSort_perm _ _

theorem pairwise_sortedRow (row : List String) : (sortedRow row).Pairwise (· ≤ ·) :=
  List.pairwise_mergeSort' _ row

/-- Rows of the names: each name is in one of them, the one of its depth; no row is empty, and each
is in the order of names. -/
structure RowsByDepth (r : String → String → Prop) (names : List String)
    (rows : List (List String)) : Prop where
  perm : rows.flatten.Perm names
  filled : ∀ row ∈ rows, row ≠ []
  sorted : ∀ row ∈ rows, row.Pairwise (· ≤ ·)
  depth : ∀ k row, rows[k]? = some row → ∀ a ∈ names, (a ∈ row ↔ OnRow r names a k)

theorem rowsByDepth_peelRows {parents : String → List String} {names : List String}
    (hparents : ∀ a, ∀ b ∈ parents a, b ∈ names) :
    RowsByDepth (Below parents) names ((peelRows parents [] names).map sortedRow) := by
  obtain ⟨hperm, hfilled⟩ := flatten_peelRows_perm parents [] names
  refine ⟨?_, fun row hrow => ?_, fun row hrow => ?_, fun k row hrow a ha => ?_⟩
  · have hsort := List.Perm.flatMap_left (peelRows parents [] names) (f := sortedRow) (g := id)
      fun row _ => sortedRow_perm row
    rw [List.flatMap_def, List.flatMap_id] at hsort
    exact hsort.trans hperm
  · obtain ⟨peeled, hpeeled, rfl⟩ := List.mem_map.1 hrow
    intro hnil
    have := (sortedRow_perm peeled).symm
    rw [hnil] at this
    exact hfilled peeled hpeeled this.eq_nil
  · obtain ⟨peeled, hpeeled, rfl⟩ := List.mem_map.1 hrow
    exact pairwise_sortedRow peeled
  · rw [List.getElem?_map, Option.map_eq_some_iff] at hrow
    obtain ⟨peeled, hpeeled, rfl⟩ := hrow
    rw [(sortedRow_perm peeled).mem_iff, (peeled_start parents names).mem_row hparents hpeeled ha,
      Nat.zero_add]

namespace RowsByDepth

variable {r : String → String → Prop} {names : List String} {rows : List (List String)}

/-- Every name has a row. -/
theorem exists_row (h : RowsByDepth r names rows) {a : String} (ha : a ∈ names) :
    ∃ (k : Nat) (row : List String), rows[k]? = some row ∧ a ∈ row := by
  rw [← h.perm.mem_iff, List.mem_flatten] at ha
  obtain ⟨row, hrow, harow⟩ := ha
  obtain ⟨k, hk⟩ := List.mem_iff_getElem?.1 hrow
  exact ⟨k, row, hk, harow⟩

theorem mem_names (h : RowsByDepth r names rows) {k : Nat} {row : List String}
    (hrow : rows[k]? = some row) {a : String} (ha : a ∈ row) : a ∈ names :=
  h.perm.subset (List.mem_flatten.2 ⟨row, List.mem_of_getElem? hrow, ha⟩)

/-- The row of a name is a row. -/
theorem mem_of_onRow (h : RowsByDepth r names rows) {a : String} (ha : a ∈ names) {k : Nat}
    (hk : OnRow r names a k) : ∃ row, rows[k]? = some row ∧ a ∈ row := by
  obtain ⟨m, row, hrow, harow⟩ := h.exists_row ha
  obtain rfl := hk.unique ((h.depth m row hrow a ha).1 harow)
  exact ⟨row, hrow, harow⟩

theorem nodup (h : RowsByDepth r names rows) (hd : names.Nodup) {row : List String}
    (hrow : row ∈ rows) : row.Nodup :=
  (List.nodup_flatten.1 (h.perm.nodup_iff.2 hd)).1 row hrow

end RowsByDepth

end SchemaGraph.Canvas
