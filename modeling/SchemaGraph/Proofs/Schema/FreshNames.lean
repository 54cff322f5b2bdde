import Mathlib.Data.List.Nodup
import Mathlib.Data.List.Perm.Subperm
import Mathlib.Order.Bounds.Defs
import SchemaGraph.Schema.Editor

/-!
# The search for a fresh name

A fresh name is found by trying one number after the other. Different numbers give different names,
so one of any stretch of numbers is free that is longer than the list of names (`exists_free`). The
search therefore ends, at the least free number, and within the stretch that is looked through
(`isFresh_freshNumber`). New tables and new columns get their names in this way
(`isFresh_of_added`).
-/

namespace SchemaGraph

theorem numberedName_injective (stem : String) : Function.Injective (numberedName stem) := by
  intro m n h
  have htext := congrArg String.toList h
  rw [numberedName, numberedName, String.toList_append, String.toList_append,
    List.append_cancel_left_eq] at htext
  have hdigits : Nat.toDigits 10 m = Nat.toDigits 10 n := by
    rw [← Nat.toList_repr, ← Nat.toList_repr]
    exact htext
  rw [← Nat.ofDigitChars_ten_toDigits (n := m), hdigits, Nat.ofDigitChars_ten_toDigits]

/-- The search tries one number after the other, from the first one given, and stops at the second
one: it is free, and all before it are taken. -/
inductive StopsAt (stem : String) (taken : List String) : Nat → Nat → Prop where
  | here {n : Nat} (h : numberedName stem n ∉ taken) : StopsAt stem taken n n
  | next {n k : Nat} (h : numberedName stem n ∈ taken) (hnext : StopsAt stem taken (n + 1) k) :
    StopsAt stem taken n k

/-- `n` is the number of a fresh name: the least free one beyond the number of names. -/
structure IsFresh (stem : String) (taken : List String) (n : Nat) : Prop where
  least : IsLeast {k | taken.length + 1 ≤ k ∧ numberedName stem k ∉ taken} n
  le : n ≤ 2 * taken.length + 1
  stops : StopsAt stem taken (taken.length + 1) n
  /-- It is found among the numbers that are looked through, so nothing has to stand in for it. -/
  found : ((List.range' (taken.length + 1) (taken.length + 1)).find? fun k =>
    !taken.contains (numberedName stem k)) = some n

section
variable {stem : String} {taken : List String}

/-- Among one more candidates than there are names, one is free. -/
theorem exists_free (stem : String) (taken : List String) (start : Nat) :
    ∃ n ∈ List.range' start (taken.length + 1), numberedName stem n ∉ taken := by
  by_contra hnone
  push Not at hnone
  have hsub : (List.range' start (taken.length + 1)).map (numberedName stem) ⊆ taken := by
    intro name hname
    obtain ⟨n, hn, rfl⟩ := List.mem_map.1 hname
    exact hnone n hn
  have hnodup := List.Nodup.map (numberedName_injective stem)
    (List.nodup_range' (s := start) (n := taken.length + 1))
  have hlen := (List.subperm_of_subset hnodup hsub).length_le
  rw [List.length_map, List.length_range'] at hlen
  omega

/-- The first free number of a stretch is the least one from its beginning on. -/
theorem isLeast_of_find? {start count n : Nat}
    (h : ((List.range' start count).find? fun k => !taken.contains (numberedName stem k))
      = some n) :
    n < start + count ∧ IsLeast {k | start ≤ k ∧ numberedName stem k ∉ taken} n := by
  obtain ⟨hfree, hmem, hfirst⟩ := List.find?_range'_eq_some.1 h
  rw [List.mem_range'_1] at hmem
  refine ⟨hmem.2, ⟨hmem.1, by simpa using hfree⟩, fun k hk => ?_⟩
  by_contra hlt
  have htaken := hfirst k hk.1 (Nat.lt_of_not_le hlt)
  exact hk.2 (by simpa using htaken)

/-- The search goes on over taken numbers, so it stops at the least free one. -/
theorem stopsAt_of_isLeast {start n : Nat}
    (h : IsLeast {k | start ≤ k ∧ numberedName stem k ∉ taken} n) : StopsAt stem taken start n := by
  obtain ⟨⟨hle, hfree⟩, hleast⟩ := h
  -- The induction is on the number of steps that are still to be made.
  obtain ⟨steps, rfl⟩ := Nat.exists_eq_add_of_le hle
  clear hle
  induction steps generalizing start with
  | zero => exact .here hfree
  | succ steps ih =>
    have htaken : numberedName stem start ∈ taken := by
      by_contra hstart
      have hle := hleast ⟨Nat.le_refl start, hstart⟩
      omega
    have hshift : start + (steps + 1) = start + 1 + steps := by omega
    rw [hshift] at hfree hleast ⊢
    exact .next htaken (ih (fun k hk => hleast ⟨Nat.le_of_succ_le hk.1, hk.2⟩) hfree)

theorem isFresh_freshNumber (stem : String) (taken : List String) :
    IsFresh stem taken (freshNumber stem taken (taken.length + 1)) := by
  obtain ⟨k, hk, hfree⟩ := exists_free stem taken (taken.length + 1)
  have hsome : ((List.range' (taken.length + 1) (taken.length + 1)).find? fun k =>
      !taken.contains (numberedName stem k)).isSome :=
    List.find?_isSome.2 ⟨k, hk, by simpa using hfree⟩
  obtain ⟨n, hn⟩ := Option.isSome_iff_exists.1 hsome
  obtain ⟨hlt, hleast⟩ := isLeast_of_find? hn
  have hnumber : freshNumber stem taken (taken.length + 1) = n := by
    rw [freshNumber, hn, Option.getD_some]
  rw [hnumber]
  exact ⟨hleast, by omega, stopsAt_of_isLeast hleast, hn⟩

/-- A fresh name is the name of nothing yet. -/
theorem freshName_not_mem (stem : String) (taken : List String) : freshName stem taken ∉ taken :=
  (isFresh_freshNumber stem taken).least.1.2

end

/-- **Generated names are fresh and minimal.** Whatever tables a schema has, a table that is added
comes last and is named `Table` with the least free number beyond the number of tables; and whatever
columns a draft has, even if names come twice, a column that is added comes last and is named
`column` with the least free number beyond the number of columns. Both searches stop within as many
numbers as there are names, and one more. -/
theorem isFresh_of_added {K : Type} [Scalar K] :
    (∀ (m : Model K) (ids : IdSupply), ∃ n, IsFresh "Table" (m.tables.map (·.name)) n ∧
      (m.addTable ids).2.1.tables = m.tables ++
        [⟨⟨numberedName "Table" n, Table.starterColumns⟩, (m.addTable ids).1,
          Table.defaultPosition⟩]) ∧
    ∀ e : TableEditor K, ∃ n, IsFresh "column" (e.draft.columns.map (·.name)) n ∧
      e.addColumn = { e with draft := { e.draft with
        columns := e.draft.columns ++ [.plain (numberedName "column" n) defaultColumnType] } } :=
  ⟨fun m _ => ⟨_, isFresh_freshNumber "Table" (m.tables.map (·.name)), rfl⟩,
    fun e => ⟨_, isFresh_freshNumber "column" (e.draft.columns.map (·.name)), rfl⟩⟩

/-- Names that look like generated ones are passed over. -/
example : freshName "column" ["column4", "id", "column5", "column4"] = "column6" := by
  decide +kernel

end SchemaGraph
