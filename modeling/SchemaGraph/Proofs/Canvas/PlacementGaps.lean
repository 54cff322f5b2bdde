import SchemaGraph.Proofs.Canvas.TableRows
import SchemaGraph.Proofs.Canvas.ZoomRange

/-!
# Placed tables do not overlap

Tables that are placed keep their distance. In a row each table begins beyond the ends of all tables
before it, because no table has a negative width, and each row begins below all tables of the rows
above it, because a row is as high as its highest table (`arrange_spaced`). How wide a text is makes
no difference to this.
-/

namespace SchemaGraph.Canvas

/-! ## Distances add up -/

section
variable {α : Type} {extent : α → Rat}

theorem le_foldl_add (h : ∀ x, 0 ≤ extent x) (xs : List α) (start : Rat) :
    start ≤ xs.foldl (fun position x => position + extent x) start := by
  induction xs generalizing start with
  | nil => exact le_rfl
  | cons x xs ih => exact (le_add_of_nonneg_right (h x)).trans (ih _)

/-- What comes later begins beyond the end of what came before. -/
theorem foldl_take_add_le (h : ∀ x, 0 ≤ extent x) {xs : List α} {j k : Nat} {x : α}
    (hx : xs[j]? = some x) (hlt : j < k) (start : Rat) :
    (xs.take j).foldl (fun position x => position + extent x) start + extent x
      ≤ (xs.take k).foldl (fun position x => position + extent x) start := by
  obtain ⟨n, rfl⟩ : ∃ n, k = j + 1 + n := ⟨k - (j + 1), by omega⟩
  rw [List.take_add, List.take_add_one, hx, List.foldl_append, List.foldl_append]
  exact le_foldl_add h _ _

theorem le_foldl_larger {x start : Rat} {xs : List Rat} (h : x ≤ start ∨ x ∈ xs) :
    x ≤ xs.foldl Scalar.larger start := by
  induction xs generalizing start with
  | nil => simpa using h
  | cons y xs ih =>
    rw [List.foldl_cons]
    refine ih ?_
    rw [Scalar.larger_rat, List.mem_cons] at *
    rcases h with h | rfl | h
    · exact Or.inl (h.trans (le_max_left _ _))
    · exact Or.inl (le_max_right _ _)
    · exact Or.inr h

end

/-! ## Sizes -/

/-- Neither measure is negative. -/
def Size.NonNegative (s : Size Rat) : Prop := 0 ≤ s.width ∧ 0 ≤ s.height

/-- No table is smaller than the least size, however wide texts are. -/
theorem TableMetrics.nonNegative_tableSizeBy {m : TableMetrics Rat} (hwidth : 0 ≤ m.minTableWidth)
    (hheight : 0 ≤ m.minTableHeight) (width : String → Rat) (t : TableDefinition) :
    (m.tableSizeBy width t).NonNegative := by
  simp only [Size.NonNegative, tableSizeBy, Scalar.larger_rat]
  exact ⟨hwidth.trans (le_max_right _ _), hheight.trans (le_max_right _ _)⟩

section
variable {size : TableDefinition → Size Rat} {ds : List TableDefinition}

theorem nonNegative_sizeNamed (h : ∀ d, (size d).NonNegative) (ds : List TableDefinition)
    (name : String) : (sizeNamed size ds name).NonNegative := by
  unfold sizeNamed
  split
  · exact h _
  · exact ⟨le_rfl, le_rfl⟩

theorem sizeNamed_name (hd : (ds.map (·.name)).Nodup) {d : TableDefinition} (hmem : d ∈ ds) :
    sizeNamed size ds d.name = size d := by
  rw [sizeNamed, (lastNamed?_eq_some hd).2 ⟨hmem, rfl⟩]

end

/-! ## Rows -/

section
variable {size : String → Size Rat} {row : List String} {rows : List (List String)} {a : String}

theorem height_le_rowHeight (h : a ∈ row) : (size a).height ≤ rowHeight size row :=
  le_foldl_larger (Or.inr (List.mem_map_of_mem h))

theorem rowHeight_nonneg (size : String → Size Rat) (row : List String) :
    0 ≤ rowHeight size row :=
  le_foldl_larger (Or.inl le_rfl)

theorem leftOf_add_le (hsize : ∀ a, (size a).NonNegative) {j k : Nat} (ha : row[j]? = some a)
    (hlt : j < k) : leftOf size row j + (size a).width + 60 ≤ leftOf size row k := by
  have hextent : ∀ a, 0 ≤ (size a).width + (columnGap : Rat) := fun a =>
    add_nonneg (hsize a).1 (by decide)
  have hgap := foldl_take_add_le hextent ha hlt placementOrigin.x
  rwa [← add_assoc] at hgap

theorem topOf_add_le (size : String → Size Rat) {j k : Nat} (hrow : rows[j]? = some row)
    (ha : a ∈ row) (hlt : j < k) :
    topOf size rows j + (size a).height + 80 ≤ topOf size rows k := by
  have hextent : ∀ row, 0 ≤ rowHeight size row + (rowGap : Rat) := fun row =>
    add_nonneg (rowHeight_nonneg size row) (by decide)
  calc topOf size rows j + (size a).height + 80
      ≤ topOf size rows j + (rowHeight size row + rowGap) := by
        rw [add_assoc]
        exact add_le_add_right (add_le_add_left (height_le_rowHeight ha) _) _
    _ ≤ topOf size rows k := foldl_take_add_le hextent hrow hlt placementOrigin.y

end

/-! ## Boxes -/

/-- The box of a table, for a given size of each. -/
def boxOf (size : TableDefinition → Size Rat) (t : Table Rat) : Rect Rat :=
  ⟨t.position, size t.toTableDefinition⟩

namespace Rect

/-- No point is in both rectangles, or on their edges. -/
def Apart (r r' : Rect Rat) : Prop := ∀ p, r.contains p = true → r'.contains p = false

variable {r r' : Rect Rat}

theorem Apart.symm (h : r.Apart r') : r'.Apart r := by
  intro p hp'
  rw [← Bool.not_eq_true]
  intro hp
  rw [h p hp] at hp'
  cases hp'

theorem contains_iff {p : Point Rat} :
    r.contains p = true ↔
      (r.origin.x ≤ p.x ∧ p.x ≤ r.right) ∧ r.origin.y ≤ p.y ∧ p.y ≤ r.bottom := by
  simp [contains, Scalar.atMost, and_assoc]

theorem apart_of_right_lt (h : r.right < r'.origin.x) : r.Apart r' := by
  intro p hp
  rw [← Bool.not_eq_true, contains_iff]
  intro hp'
  exact (h.trans_le hp'.1.1).not_ge (contains_iff.1 hp).1.2

theorem apart_of_bottom_lt (h : r.bottom < r'.origin.y) : r.Apart r' := by
  intro p hp
  rw [← Bool.not_eq_true, contains_iff]
  intro hp'
  exact (h.trans_le hp'.2.1).not_ge (contains_iff.1 hp).2.2

end Rect

/-- The tables lie in the rows, and keep their distance. -/
structure Spaced (size : TableDefinition → Size Rat) (rows : List (List String))
    (ts : List (Table Rat)) : Prop where
  /-- Each table is in one row, and once. -/
  once : rows.flatten.Perm (ts.map (·.name))
  /-- In a row, a table is on a level with those that come before it, and at least 60 to their
  right. -/
  beside : ∀ row ∈ rows, ∀ j k : Nat, j < k → ∀ t ∈ ts, ∀ u ∈ ts, row[j]? = some t.name →
    row[k]? = some u.name → t.position.y = u.position.y ∧
      (boxOf size t).right + 60 ≤ (boxOf size u).origin.x
  /-- A table is at least 80 below those of the rows above it. -/
  below : ∀ j k : Nat, j < k → ∀ row row' : List String, rows[j]? = some row →
    rows[k]? = some row' → ∀ t ∈ ts, ∀ u ∈ ts, t.name ∈ row → u.name ∈ row' →
      (boxOf size t).bottom + 80 ≤ (boxOf size u).origin.y

section
variable {size : TableDefinition → Size Rat} {rows : List (List String)} {ts : List (Table Rat)}
  {t u : Table Rat}

namespace Spaced

variable (h : Spaced size rows ts)
include h

theorem exists_row (ht : t ∈ ts) :
    ∃ (k : Nat) (row : List String), rows[k]? = some row ∧ t.name ∈ row := by
  obtain ⟨row, hrow, hname⟩ := List.mem_flatten.1 (h.once.symm.subset (List.mem_map_of_mem ht))
  obtain ⟨k, hk⟩ := List.mem_iff_getElem?.1 hrow
  exact ⟨k, row, hk, hname⟩

theorem apart_of_lt_row {j k : Nat} (hlt : j < k) {row row' : List String}
    (hrow : rows[j]? = some row) (hrow' : rows[k]? = some row') (ht : t ∈ ts) (hu : u ∈ ts)
    (htrow : t.name ∈ row) (hurow : u.name ∈ row') : (boxOf size t).Apart (boxOf size u) :=
  Rect.apart_of_bottom_lt <| (lt_add_of_pos_right _ (by decide)).trans_le <|
    h.below j k hlt row row' hrow hrow' t ht u hu htrow hurow

theorem apart_of_lt_index {row : List String} (hrow : row ∈ rows) {j k : Nat} (hlt : j < k)
    (ht : t ∈ ts) (hu : u ∈ ts) (hj : row[j]? = some t.name) (hk : row[k]? = some u.name) :
    (boxOf size t).Apart (boxOf size u) :=
  Rect.apart_of_right_lt <| (lt_add_of_pos_right _ (by decide)).trans_le <|
    (h.beside row hrow j k hlt t ht u hu hj hk).2

/-- The boxes of two tables have no point in common. -/
theorem apart (ht : t ∈ ts) (hu : u ∈ ts) (hne : t.name ≠ u.name) :
    (boxOf size t).Apart (boxOf size u) := by
  obtain ⟨k, row, hrow, htrow⟩ := h.exists_row ht
  obtain ⟨k', row', hrow', hurow⟩ := h.exists_row hu
  rcases lt_trichotomy k k' with hlt | rfl | hlt
  · exact h.apart_of_lt_row hlt hrow hrow' ht hu htrow hurow
  · obtain rfl : row = row' := Option.some.inj (hrow.symm.trans hrow')
    have hin := List.mem_of_getElem? hrow
    obtain ⟨j, hj⟩ := List.mem_iff_getElem?.1 htrow
    obtain ⟨j', hj'⟩ := List.mem_iff_getElem?.1 hurow
    rcases lt_trichotomy j j' with hlt | rfl | hlt
    · exact h.apart_of_lt_index hin hlt ht hu hj hj'
    · exact absurd (Option.some.inj (hj.symm.trans hj')) hne
    · exact (h.apart_of_lt_index hin hlt hu ht hj' hj).symm
  · exact (h.apart_of_lt_row hlt hrow' hrow hu ht hurow htrow).symm

end Spaced

/-! ## Placing tables -/

theorem definitions_arrangeBy (hd : (ts.map (·.name)).Nodup) :
    (arrangeBy size ts).map (·.toTableDefinition) = ts.map (·.toTableDefinition) := by
  rw [arrangeBy_eq hd, List.map_map]
  rfl

/-- A table that was placed has the size that its name stands for. -/
theorem sizeNamed_of_mem_arrangeBy (hd : (ts.map (·.name)).Nodup) (ht : t ∈ arrangeBy size ts) :
    sizeNamed size (ts.map (·.toTableDefinition)) t.name = size t.toTableDefinition := by
  have hmem := List.mem_map_of_mem (f := (·.toTableDefinition)) ht
  rw [definitions_arrangeBy hd] at hmem
  exact sizeNamed_name (names_definitions ts ▸ hd) hmem

/-- It lies at its index in its row. -/
theorem position_of_mem_arrangeBy (hd : (ts.map (·.name)).Nodup) (ht : t ∈ arrangeBy size ts)
    {j k : Nat} {row : List String}
    (hrow : (rowsOf (ts.map (·.toTableDefinition)))[k]? = some row) (hj : row[j]? = some t.name) :
    t.position = ⟨leftOf (sizeNamed size (ts.map (·.toTableDefinition))) row j,
      topOf (sizeNamed size (ts.map (·.toTableDefinition)))
        (rowsOf (ts.map (·.toTableDefinition))) k⟩ := by
  rw [arrangeBy_eq hd] at ht
  obtain ⟨u, -, rfl⟩ := List.mem_map.1 ht
  exact placeOf_placesBy (names_definitions ts ▸ hd) hrow hj

/-- Tables of different names keep their distance, if no size is negative. -/
theorem spaced_arrangeBy (hsize : ∀ d, (size d).NonNegative) (hd : (ts.map (·.name)).Nodup) :
    Spaced size (rowsOf (ts.map (·.toTableDefinition))) (arrangeBy size ts) where
  once := by
    rw [← names_definitions (arrangeBy size ts), definitions_arrangeBy hd]
    exact (rowsByDepth_rowsOf (names_definitions ts ▸ hd)).perm
  beside row hrow j k hlt t ht u hu hj hk := by
    obtain ⟨i, hi⟩ := List.mem_iff_getElem?.1 hrow
    have hgap := leftOf_add_le (nonNegative_sizeNamed hsize (ts.map (·.toTableDefinition))) hj hlt
    rw [sizeNamed_of_mem_arrangeBy hd ht] at hgap
    rw [boxOf, boxOf, Rect.right, position_of_mem_arrangeBy hd ht hi hj,
      position_of_mem_arrangeBy hd hu hi hk]
    exact ⟨rfl, hgap⟩
  below j k hlt row row' hrow hrow' t ht u hu htrow hurow := by
    obtain ⟨m, hm⟩ := List.mem_iff_getElem?.1 htrow
    obtain ⟨n, hn⟩ := List.mem_iff_getElem?.1 hurow
    have hgap := topOf_add_le (sizeNamed size (ts.map (·.toTableDefinition))) hrow htrow hlt
    rw [sizeNamed_of_mem_arrangeBy hd ht] at hgap
    rw [boxOf, boxOf, Rect.bottom, position_of_mem_arrangeBy hd ht hrow hm,
      position_of_mem_arrangeBy hd hu hrow' hn]
    exact hgap

end

/-- **Placed tables do not overlap.** Tables of different names are placed with nothing but their
places changed. Two tables of one row are at least 60 apart from side to side, two tables of
different rows at least 80 from top to bottom, and no two boxes have a point in common. For this the
least width and the least height of a table must not be negative; all other measures, and the widths
of texts, may be anything. -/
theorem arrange_spaced {m : TableMetrics Rat} (hwidth : 0 ≤ m.minTableWidth)
    (hheight : 0 ≤ m.minTableHeight) {ts : List (Table Rat)} (hd : (ts.map (·.name)).Nodup) :
    let rows := rowsOf (ts.map (·.toTableDefinition))
    (∀ width : String → Rat,
      let size := m.tableSizeBy width
      let placed := arrangeBy size ts
      placed.map (·.toTableDefinition) = ts.map (·.toTableDefinition) ∧ Spaced size rows placed ∧
        ∀ t ∈ placed, ∀ u ∈ placed, t.name ≠ u.name → (boxOf size t).Apart (boxOf size u)) ∧
    Spaced m.tableSize rows (arrange m ts) ∧
      ∀ t ∈ arrange m ts, ∀ u ∈ arrange m ts, t.name ≠ u.name →
        (m.tableRect t).Apart (m.tableRect u) := by
  intro rows
  have hspaced : ∀ width : String → Rat,
      Spaced (m.tableSizeBy width) rows (arrangeBy (m.tableSizeBy width) ts) := fun width =>
    spaced_arrangeBy (TableMetrics.nonNegative_tableSizeBy hwidth hheight width) hd
  refine ⟨fun width => ⟨definitions_arrangeBy hd, hspaced width, fun t ht u hu hne => ?_⟩,
    hspaced m.textWidth, fun t ht u hu hne => ?_⟩
  · exact (hspaced width).apart ht hu hne
  · exact (hspaced m.textWidth).apart ht hu hne

/-- Measures under which a box is as large as its texts. -/
def bareMetrics : TableMetrics Rat := ⟨1, 0, 0, 0, 0, 0, 0⟩

/-- Where texts have no width either, the boxes are points. -/
theorem arrange_spaced_knotted :
    (knotted.map (·.name)).Nodup ∧ rowsOf (knotted.map (·.toTableDefinition))
        = [["users"], ["posts"], ["notes"], ["a", "b", "c"]] ∧
      Spaced (bareMetrics.tableSizeBy fun _ => 0)
        [["users"], ["posts"], ["notes"], ["a", "b", "c"]]
        (arrangeBy (bareMetrics.tableSizeBy fun _ => 0) knotted) ∧
      ∀ t ∈ arrange bareMetrics knotted, ∀ u ∈ arrange bareMetrics knotted, t.name ≠ u.name →
        (bareMetrics.tableRect t).Apart (bareMetrics.tableRect u) := by
  have hd : (knotted.map (·.name)).Nodup := by decide
  have hrows : rowsOf (knotted.map (·.toTableDefinition))
      = [["users"], ["posts"], ["notes"], ["a", "b", "c"]] := by cbv
  obtain ⟨hall, -, hapart⟩ := arrange_spaced (m := bareMetrics) le_rfl le_rfl hd
  exact ⟨hd, hrows, hrows ▸ (hall fun _ => 0).2.1, hapart⟩

end SchemaGraph.Canvas
