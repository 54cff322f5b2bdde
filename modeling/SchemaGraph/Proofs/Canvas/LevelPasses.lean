import Mathlib.Logic.Function.Basic
import SchemaGraph.Proofs.Canvas.Depth

/-!
# Levels found in any order

Rows can also be found by a loop over a table of levels: a name without a level gets one as soon as
all its parents have levels, and passes over all names are made until one of them changes nothing.
A name may be visited at any point of a pass, and each pass may have another order. The loop ends
(`exists_unchanged`), and whatever the orders were, it has found the levels of the grounded names
(`level_of_unchanged`), so that the rows are those that are peeled off
(`RowsByDepth.rowsByLevel_eq`).
-/

namespace SchemaGraph.Canvas

/-- The levels that have been found. -/
abbrev Levels := String → Option Nat

/-- Names without parents have the first level. -/
def groundLevels (parents : String → List String) (names : List String) : Levels := fun name =>
  if names.contains name && (parents name).isEmpty then some 0 else none

/-- Visits a name: it gets the level below that of its deepest parent, once all parents have one. -/
def visit (parents : String → List String) (levels : Levels) (name : String) : Levels :=
  if (levels name).isSome then levels
  else if (parents name).all fun p => (levels p).isSome then
    Function.update levels name (some (((parents name).filterMap levels).max?.getD 0 + 1))
  else levels

/-- Visits names in order. -/
def pass (parents : String → List String) (levels : Levels) (order : List String) : Levels :=
  order.foldl (visit parents) levels

/-- The levels after a number of passes, each in its order. -/
def passes (parents : String → List String) (names : List String) (orders : Nat → List String) :
    Nat → Levels
  | 0 => groundLevels parents names
  | n + 1 => pass parents (passes parents names orders n) (orders n)

/-- The first level after all that have been found. -/
def nextLevel (levels : Levels) (order : List String) : Nat :=
  match (order.filterMap levels).max? with
  | some deepest => deepest + 1
  | none => 0

/-- The level of a name; names for which none was found share the next one. -/
def levelOf (levels : Levels) (order : List String) (name : String) : Nat :=
  (levels name).getD (nextLevel levels order)

/-- The rows of names, each with the names of one level, that are not empty. -/
def rowsByLevel (levels : Levels) (order : List String) : List (List String) :=
  let top := ((order.map (levelOf levels order)).max?).getD 0
  ((List.range (top + 1)).map fun k =>
    sortedRow (order.filter fun name => levelOf levels order name == k)).filter (!·.isEmpty)

section
variable {parents : String → List String} {names order : List String} {levels : Levels}
  {a : String} {k n : Nat}

/-! ## Levels are found once -/

theorem visit_of_isSome {b : String} (h : levels b = some k) (name : String) :
    visit parents levels name b = some k := by
  unfold visit
  split
  · exact h
  split
  · rename_i hname _
    have hne : b ≠ name := by
      rintro rfl
      simp [h] at hname
    rw [Function.update_of_ne hne, h]
  · exact h

theorem pass_of_isSome {b : String} (h : levels b = some k) (order : List String) :
    pass parents levels order b = some k := by
  unfold pass
  induction order generalizing levels with
  | nil => exact h
  | cons name order ih => exact ih (visit_of_isSome h name)

/-- A name whose parents have levels has one itself after a pass over it. -/
theorem isSome_pass (ha : a ∈ order) (hall : ∀ b ∈ parents a, (levels b).isSome) :
    (pass parents levels order a).isSome := by
  obtain ⟨before, after, rfl⟩ := List.append_of_mem ha
  have hparents : ∀ b ∈ parents a, (pass parents levels before b).isSome := by
    intro b hb
    obtain ⟨m, hm⟩ := Option.isSome_iff_exists.1 (hall b hb)
    rw [pass_of_isSome hm]
    rfl
  have hvisit : (visit parents (pass parents levels before) a a).isSome := by
    unfold visit
    split
    · assumption
    · rw [if_pos (List.all_eq_true.2 hparents), Function.update_self]
      rfl
  obtain ⟨m, hm⟩ := Option.isSome_iff_exists.1 hvisit
  rw [pass, List.foldl_append, List.foldl_cons]
  have hkeep : pass parents (visit parents (pass parents levels before) a) after a = some m :=
    pass_of_isSome hm after
  exact Option.isSome_iff_exists.2 ⟨m, hkeep⟩

/-! ## Levels are depths -/

/-- The levels that have been found are depths of names, and names without parents have one. -/
structure Sound (parents : String → List String) (names : List String) (levels : Levels) :
    Prop where
  depth : ∀ a k, levels a = some k →
    a ∈ names ∧ HasPath (Below parents) a k ∧ ¬ HasPath (Below parents) a (k + 1)
  ground : ∀ a ∈ names, parents a = [] → (levels a).isSome

theorem sound_groundLevels : Sound parents names (groundLevels parents names) where
  depth a k h := by
    unfold groundLevels at h
    split at h
    · rename_i hground
      cases h
      simp only [List.contains_eq_mem, Bool.and_eq_true, decide_eq_true_eq,
        List.isEmpty_iff] at hground
      refine ⟨hground.1, hasPath_zero a, fun hp => ?_⟩
      obtain ⟨b, hab, -⟩ := hasPath_succ.1 hp
      rw [Below, hground.2] at hab
      cases hab
    · cases h
  ground a ha hnone := by simp [groundLevels, ha, hnone]

/-- A name is as deep as its deepest parent, and one level more. -/
theorem Sound.deepest (h : Sound parents names levels) (ha : a ∈ names) (hnew : levels a = none)
    (hall : ∀ b ∈ parents a, (levels b).isSome) {deepest : Nat}
    (hd : ((parents a).filterMap levels).max?.getD 0 = deepest) :
    HasPath (Below parents) a (deepest + 1) ∧ ¬ HasPath (Below parents) a (deepest + 2) := by
  have hsome : (parents a).filterMap levels ≠ [] := by
    intro hnil
    rw [List.filterMap_eq_nil_iff] at hnil
    have hnone : parents a = [] := by
      refine List.eq_nil_iff_forall_not_mem.2 fun b hb => ?_
      have hlevel := hall b hb
      rw [hnil b hb] at hlevel
      cases hlevel
    have hlevel := h.ground a ha hnone
    rw [hnew] at hlevel
    cases hlevel
  obtain ⟨m, hm⟩ : ∃ m, ((parents a).filterMap levels).max? = some m := by
    rw [← Option.isSome_iff_exists, Option.isSome_iff_ne_none]
    simpa using hsome
  rw [hm, Option.getD_some] at hd
  subst hd
  obtain ⟨hmem, hmax⟩ := List.max?_eq_some_iff.1 hm
  rw [List.mem_filterMap] at hmem
  constructor
  · obtain ⟨b, hb, hlevel⟩ := hmem
    exact hasPath_succ.2 ⟨b, hb, (h.depth b m hlevel).2.1⟩
  · intro hp
    obtain ⟨c, hc, hpc⟩ := hasPath_succ.1 hp
    obtain ⟨l, hl⟩ := Option.isSome_iff_exists.1 (hall c hc)
    have hle : l ≤ m := hmax l (List.mem_filterMap.2 ⟨c, hc, hl⟩)
    exact (h.depth c l hl).2.2 (hpc.of_le (by omega))

theorem Sound.visit (h : Sound parents names levels) (ha : a ∈ names) :
    Sound parents names (visit parents levels a) := by
  refine ⟨fun b k hb => ?_, fun b hb hnone => ?_⟩
  · unfold Canvas.visit at hb
    split at hb
    · exact h.depth b k hb
    rename_i hnew
    split at hb
    · rename_i hall
      by_cases hba : b = a
      · subst hba
        rw [Function.update_self, Option.some.injEq] at hb
        subst hb
        exact ⟨ha, h.deepest ha (by simpa using hnew) (by simpa using hall) rfl⟩
      · rw [Function.update_of_ne hba] at hb
        exact h.depth b k hb
    · exact h.depth b k hb
  · obtain ⟨m, hm⟩ := Option.isSome_iff_exists.1 (h.ground b hb hnone)
    rw [visit_of_isSome hm]
    rfl

theorem Sound.pass (h : Sound parents names levels) (horder : order ⊆ names) :
    Sound parents names (pass parents levels order) := by
  unfold Canvas.pass
  induction order generalizing levels with
  | nil => exact h
  | cons name order ih =>
    rw [List.cons_subset] at horder
    exact ih (h.visit horder.1) horder.2

end

/-! ## The loop -/

section
variable {parents : String → List String} {names order : List String} {orders : Nat → List String}
  {levels : Levels} {a : String} {k n : Nat}

theorem sound_passes (horders : ∀ n, (orders n).Perm names) (n : Nat) :
    Sound parents names (passes parents names orders n) := by
  induction n with
  | zero => exact sound_groundLevels
  | succ n ih => exact ih.pass (horders n).subset

/-- Each pass finds one level at least. -/
theorem isSome_passes (hparents : ∀ a, ∀ b ∈ parents a, b ∈ names)
    (horders : ∀ n, (orders n).Perm names) (ha : a ∈ names)
    (h : ¬ HasPath (Below parents) a (n + 1)) : (passes parents names orders n a).isSome := by
  induction n generalizing a with
  | zero =>
    refine sound_groundLevels.ground a ha (List.eq_nil_iff_forall_not_mem.2 fun b hb => h ?_)
    exact hasPath_succ.2 ⟨b, hb, hasPath_zero b⟩
  | succ n ih =>
    refine isSome_pass ((horders n).mem_iff.2 ha) fun b hb => ih (hparents a b hb) fun hp => ?_
    exact h (hasPath_succ.2 ⟨b, hb, hp⟩)

/-- The loop ends: some pass changes nothing. -/
theorem exists_unchanged (hparents : ∀ a, ∀ b ∈ parents a, b ∈ names)
    (horders : ∀ n, (orders n).Perm names) :
    ∃ n, passes parents names orders (n + 1) = passes parents names orders n := by
  obtain ⟨n, hn⟩ := exists_bound (r := Below parents) names fun a ha hg =>
    Grounded.exists_not_hasPath hg (fun x y hxy => hparents x y hxy) ha
  refine ⟨n, funext fun a => ?_⟩
  cases hlevel : passes parents names orders n a with
  | some k => exact pass_of_isSome hlevel (orders n)
  | none =>
    rw [← Option.not_isSome_iff_eq_none]
    intro hsome
    obtain ⟨k, hk⟩ := Option.isSome_iff_exists.1 hsome
    obtain ⟨ha, -, hno⟩ := (sound_passes horders (n + 1)).depth a k hk
    have hbound := hn a ha (grounded_of_not_hasPath hno)
    have hfound := isSome_passes hparents horders ha fun hp =>
      hbound (hp.of_le (Nat.le_succ n))
    rw [hlevel] at hfound
    cases hfound

/-- When a pass changes nothing, the levels are those of the grounded names. -/
theorem level_of_unchanged (hparents : ∀ a, ∀ b ∈ parents a, b ∈ names)
    (h : Sound parents names levels) (horder : order.Perm names)
    (hsame : pass parents levels order = levels) :
    levels a = some k ↔
      a ∈ names ∧ HasPath (Below parents) a k ∧ ¬ HasPath (Below parents) a (k + 1) := by
  have hfound : ∀ n, ∀ a ∈ names, ¬ HasPath (Below parents) a n → (levels a).isSome := by
    intro n
    induction n with
    | zero => exact fun a _ hno => absurd (hasPath_zero a) hno
    | succ n ih =>
      intro a ha hno
      rw [← hsame]
      refine isSome_pass (horder.mem_iff.2 ha) fun b hb => ih b (hparents a b hb) fun hp => ?_
      exact hno (hasPath_succ.2 ⟨b, hb, hp⟩)
  refine ⟨h.depth a k, fun ⟨ha, hp, hno⟩ => ?_⟩
  obtain ⟨m, hm⟩ := Option.isSome_iff_exists.1 (hfound (k + 1) a ha hno)
  obtain ⟨-, hpm, hnom⟩ := h.depth a m hm
  rw [hm, (isGreatest_hasPath.2 ⟨hpm, hnom⟩).unique (isGreatest_hasPath.2 ⟨hp, hno⟩)]

end

/-! ## Rows by level -/

section
variable {r : String → String → Prop} {names order : List String} {levels : Levels}
  {rows : List (List String)}

variable (hmem : ∀ x y, r x y → y ∈ names) (horder : order.Perm names)
  (hlevel : ∀ a k, levels a = some k ↔ a ∈ names ∧ HasPath r a k ∧ ¬ HasPath r a (k + 1))
include hmem horder hlevel

/-- The next level is the first below those of all grounded names. -/
theorem isLeast_nextLevel :
    IsLeast {m | ∀ b ∈ names, Grounded r b → ∀ n, HasPath r b n → n < m}
      (nextLevel levels order) := by
  have hfound : ∀ b ∈ names, Grounded r b →
      ∃ k ∈ order.filterMap levels, HasPath r b k ∧ ¬ HasPath r b (k + 1) := by
    intro b hb hg
    obtain ⟨k, hk⟩ := hg.exists_depth hmem hb
    exact ⟨k, List.mem_filterMap.2 ⟨b, horder.mem_iff.2 hb, (hlevel b k).2 ⟨hb, hk⟩⟩, hk⟩
  unfold nextLevel
  split
  · rename_i deepest hdeepest
    obtain ⟨hin, hmax⟩ := List.max?_eq_some_iff.1 hdeepest
    refine ⟨fun b hb hg n hp => ?_, fun m hm => ?_⟩
    · obtain ⟨k, hk, hdepth⟩ := hfound b hb hg
      have hnk : n ≤ k := (isGreatest_hasPath.2 hdepth).2 hp
      have hkd : k ≤ deepest := hmax k hk
      omega
    · obtain ⟨b, -, hb⟩ := List.mem_filterMap.1 hin
      obtain ⟨hb, hp, hno⟩ := (hlevel b deepest).1 hb
      exact hm b hb (grounded_of_not_hasPath hno) deepest hp
  · rename_i hnone
    refine ⟨fun b hb hg n hp => ?_, fun m _ => Nat.zero_le m⟩
    obtain ⟨k, hk, -⟩ := hfound b hb hg
    rw [List.max?_eq_none_iff.1 hnone] at hk
    cases hk

/-- The level of a name is the number of its row. -/
theorem onRow_levelOf {a : String} (ha : a ∈ names) :
    OnRow r names a (levelOf levels order a) := by
  cases hfound : levels a with
  | some k =>
    have hk := (hlevel a k).1 hfound
    rw [levelOf, hfound, Option.getD_some]
    exact Or.inl ⟨grounded_of_not_hasPath hk.2.2, isGreatest_hasPath.2 hk.2⟩
  | none =>
    rw [levelOf, hfound, Option.getD_none]
    refine Or.inr ⟨fun hg => ?_, isLeast_nextLevel hmem horder hlevel⟩
    obtain ⟨k, hk⟩ := hg.exists_depth hmem ha
    rw [(hlevel a k).2 ⟨ha, hk⟩] at hfound
    cases hfound

namespace RowsByDepth

variable (h : RowsByDepth r names rows)
include h

/-- The names of one level, in order, are the row of that number. -/
theorem sortedRow_level (hd : names.Nodup) {k : Nat} {row : List String}
    (hrow : rows[k]? = some row) :
    sortedRow (order.filter fun name => levelOf levels order name == k) = row := by
  have hin : row ∈ rows := List.mem_of_getElem? hrow
  have hperm : (order.filter fun name => levelOf levels order name == k).Perm row := by
    rw [List.perm_ext_iff_of_nodup ((horder.nodup_iff.2 hd).filter _) (h.nodup hd hin)]
    intro a
    rw [List.mem_filter, horder.mem_iff, beq_iff_eq]
    constructor
    · rintro ⟨ha, rfl⟩
      exact (h.depth _ row hrow a ha).2 (onRow_levelOf hmem horder hlevel ha)
    · intro ha
      have hnames := h.mem_names hrow ha
      exact ⟨hnames, (onRow_levelOf hmem horder hlevel hnames).unique
        ((h.depth k row hrow a hnames).1 ha)⟩
  exact ((sortedRow_perm _).trans hperm).eq_of_pairwise' (pairwise_sortedRow _)
    (h.sorted row hin)

/-- The deepest level is that of the last row. -/
theorem max?_levelOf {above : List (List String)} {last : List String}
    (hrows : rows = above ++ [last]) :
    (order.map (levelOf levels order)).max? = some above.length := by
  have hlast : rows[above.length]? = some last := hrows ▸ List.getElem?_concat_length
  rw [List.max?_eq_some_iff]
  refine ⟨?_, fun k hk => ?_⟩
  · obtain ⟨a, ha⟩ := List.exists_mem_of_ne_nil last (h.filled last (List.mem_of_getElem? hlast))
    have hnames := h.mem_names hlast ha
    refine List.mem_map.2 ⟨a, horder.mem_iff.2 hnames, ?_⟩
    exact (onRow_levelOf hmem horder hlevel hnames).unique ((h.depth _ last hlast a hnames).1 ha)
  · obtain ⟨a, ha, rfl⟩ := List.mem_map.1 hk
    have hnames := horder.mem_iff.1 ha
    obtain ⟨row, hrow, -⟩ := h.mem_of_onRow hnames (onRow_levelOf hmem horder hlevel hnames)
    have hlt := (List.getElem?_eq_some_iff.1 hrow).1
    rw [hrows, List.length_append, List.length_singleton] at hlt
    omega

/-- The rows by level are the rows by depth, in whatever order the names are taken. -/
theorem rowsByLevel_eq (hd : names.Nodup) : rowsByLevel levels order = rows := by
  rcases rows.eq_nil_or_concat' with hnil | ⟨above, last, hrows⟩
  · subst hnil
    have hnames : names = [] := h.perm.symm.eq_nil
    obtain rfl : order = [] := (hnames ▸ horder).eq_nil
    simp [rowsByLevel, sortedRow]
  have hmap : (List.range (above.length + 1)).map (fun k =>
      sortedRow (order.filter fun name => levelOf levels order name == k)) = rows := by
    refine List.ext_getElem (by simp [hrows]) fun k hk hk' => ?_
    rw [List.getElem_map, List.getElem_range]
    exact h.sortedRow_level hmem horder hlevel hd (List.getElem?_eq_getElem hk')
  rw [rowsByLevel, h.max?_levelOf hmem horder hlevel hrows, Option.getD_some, hmap,
    List.filter_eq_self]
  intro row hin
  simpa using h.filled row hin

end RowsByDepth

end

end SchemaGraph.Canvas
