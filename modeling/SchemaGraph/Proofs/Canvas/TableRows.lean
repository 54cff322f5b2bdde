import Mathlib.Data.List.Permutation
import SchemaGraph.Proofs.Canvas.LevelPasses
import SchemaGraph.Proofs.Schema.Checks

/-!
# The rows of tables

Tables of different names are placed in the rows of their depth (`rowsByDepth_rowsOf`): row below
row, and from left to right in each (`placeOf_placesBy`). The same rows come out of the loop over
levels, in whatever order it visits the tables, and the order of the tables themselves does not
matter either (`arrange_eq_of_perm`).
-/

namespace SchemaGraph

theorem names_definitions {K : Type} (ts : List (Table K)) :
    (ts.map (·.toTableDefinition)).map (·.name) = ts.map (·.name) := List.map_map

namespace Canvas

/-! ## References between tables -/

/-- Some column of the table `a` refers to another table `b` of the list. -/
def RefersTo (ds : List TableDefinition) (a b : String) : Prop :=
  b ≠ a ∧ b ∈ ds.map (·.name) ∧ ∃ d ∈ ds, d.name = a ∧ ∃ c ∈ d.columns, c.refersTo b = true

section
variable {ds : List TableDefinition} {a b : String}

theorem lastNamed?_eq_some (hd : (ds.map (·.name)).Nodup) {d : TableDefinition} :
    lastNamed? ds a = some d ↔ d ∈ ds ∧ d.name = a := by
  rw [← List.mem_reverse]
  refine find?_key_eq_some _ ?_
  rw [List.map_reverse, List.nodup_reverse]
  exact hd

theorem mem_parentsOf {names : List String} {d : TableDefinition} :
    b ∈ parentsOf names d ↔ b ≠ d.name ∧ b ∈ names ∧ ∃ c ∈ d.columns, c.refersTo b = true := by
  simp only [parentsOf, List.mem_filter, List.mem_filterMap, Option.map_eq_some_iff,
    List.contains_eq_mem, Bool.and_eq_true, bne_iff_ne, decide_eq_true_eq, Column.refersTo,
    Option.any_eq_true, beq_iff_eq]
  tauto

/-- The parents of a table are the other tables it refers to. -/
theorem below_parentNames (hd : (ds.map (·.name)).Nodup) :
    Below (parentNames ds) = RefersTo ds := by
  funext a b
  refine propext ?_
  rw [Below, parentNames, RefersTo]
  cases hlast : lastNamed? ds a with
  | none =>
    have hnone : ∀ d ∈ ds, d.name ≠ a := fun d hmem hname =>
      Option.some_ne_none d (((lastNamed?_eq_some hd).2 ⟨hmem, hname⟩).symm.trans hlast)
    simp only [List.not_mem_nil, false_iff]
    rintro ⟨-, -, d, hmem, hname, -⟩
    exact hnone d hmem hname
  | some d =>
    obtain ⟨hmem, rfl⟩ := (lastNamed?_eq_some hd).1 hlast
    simp only
    rw [mem_parentsOf]
    refine and_congr_right fun _ => and_congr_right fun _ => ⟨fun h => ⟨d, hmem, rfl, h⟩, ?_⟩
    rintro ⟨e, he, hname, h⟩
    rwa [← List.inj_on_of_nodup_map hd he hmem hname]

theorem mem_of_mem_parentNames (hd : (ds.map (·.name)).Nodup) :
    ∀ a, ∀ b ∈ parentNames ds a, b ∈ ds.map (·.name) := by
  intro a b hb
  have href : RefersTo ds a b := below_parentNames hd ▸ hb
  exact href.2.1

/-- The rows of tables are the rows of their depths. -/
theorem rowsByDepth_rowsOf (hd : (ds.map (·.name)).Nodup) :
    RowsByDepth (RefersTo ds) (ds.map (·.name)) (rowsOf ds) := by
  rw [← below_parentNames hd, rowsOf, distinctNames_of_nodup hd]
  exact rowsByDepth_peelRows (mem_of_mem_parentNames hd)

/-- The loop over levels ends, and finds the same rows. -/
theorem rowsByLevel_passes (hd : (ds.map (·.name)).Nodup) {orders : Nat → List String}
    (horders : ∀ n, (orders n).Perm (ds.map (·.name))) {n : Nat}
    (hsame : passes (parentNames ds) (ds.map (·.name)) orders (n + 1)
      = passes (parentNames ds) (ds.map (·.name)) orders n)
    {order : List String} (horder : order.Perm (ds.map (·.name))) :
    rowsByLevel (passes (parentNames ds) (ds.map (·.name)) orders n) order = rowsOf ds := by
  have hparents := mem_of_mem_parentNames hd
  have hrows := rowsByDepth_rowsOf hd
  rw [← below_parentNames hd] at hrows
  exact hrows.rowsByLevel_eq (fun x y hxy => hparents x y hxy) horder
    (fun a k => level_of_unchanged hparents (sound_passes horders n) (horders n) hsame) hd

end

/-! ## Positions -/

section
variable {K : Type} [Scalar K]

/-- The left edge of the table at an index of a row. -/
def leftOf (size : String → Size K) (row : List String) (index : Nat) : K :=
  (row.take index).foldl (fun x name => x + ((size name).width + columnGap)) placementOrigin.x

/-- The upper edge of the row of a number. -/
def topOf (size : String → Size K) (rows : List (List String)) (number : Nat) : K :=
  (rows.take number).foldl (fun y row => y + (rowHeight size row + rowGap)) placementOrigin.y

variable {size : String → Size K} {row : List String} {rows : List (List String)} {name : String}

theorem mem_placeRow {j : Nat} (h : row[j]? = some name) (x y : K) :
    (name, ⟨(row.take j).foldl (fun x name => x + ((size name).width + columnGap)) x, y⟩)
      ∈ placeRow size y x row := by
  induction row generalizing x j with
  | nil => cases h
  | cons first row ih =>
    cases j with
    | zero =>
      cases h
      exact List.mem_cons_self ..
    | succ j =>
      rw [List.getElem?_cons_succ] at h
      exact List.mem_cons_of_mem _ (ih h _)

theorem mem_placeRows {j k : Nat} (hrow : rows[k]? = some row) (h : row[j]? = some name) (y : K) :
    (name, ⟨leftOf size row j,
      (rows.take k).foldl (fun y row => y + (rowHeight size row + rowGap)) y⟩)
      ∈ placeRows size y rows := by
  induction rows generalizing y k with
  | nil => cases hrow
  | cons first rows ih =>
    rw [placeRows, List.mem_append]
    cases k with
    | zero =>
      cases hrow
      exact Or.inl (mem_placeRow h _ _)
    | succ k =>
      rw [List.getElem?_cons_succ] at hrow
      exact Or.inr (ih hrow _)

theorem names_placeRow (x y : K) : (placeRow size y x row).map Prod.fst = row := by
  induction row generalizing x with
  | nil => rfl
  | cons first row ih => rw [placeRow, List.map_cons, ih]

theorem names_placeRows (y : K) : (placeRows size y rows).map Prod.fst = rows.flatten := by
  induction rows generalizing y with
  | nil => rfl
  | cons first rows ih => rw [placeRows, List.map_append, names_placeRow, ih, List.flatten_cons]

variable {ds : List TableDefinition} {sizeOf : TableDefinition → Size K}

theorem names_placesBy_perm (hd : (ds.map (·.name)).Nodup) :
    ((placesBy sizeOf ds).map Prod.fst).Perm (ds.map (·.name)) := by
  rw [placesBy, names_placeRows]
  exact (rowsByDepth_rowsOf hd).perm

/-- A table goes to its index in its row. -/
theorem placeOf_placesBy (hd : (ds.map (·.name)).Nodup) {j k : Nat}
    (hrow : (rowsOf ds)[k]? = some row) (h : row[j]? = some name) :
    placeOf (placesBy sizeOf ds) name
      = ⟨leftOf (sizeNamed sizeOf ds) row j, topOf (sizeNamed sizeOf ds) (rowsOf ds) k⟩ := by
  have hnodup : ((placesBy sizeOf ds).map Prod.fst).Nodup := (names_placesBy_perm hd).nodup_iff.2 hd
  rw [placeOf, (find?_key_eq_some Prod.fst hnodup).2 ⟨mem_placeRows hrow h placementOrigin.y, rfl⟩]
  rfl

/-- Tables of different names go where their names do. -/
theorem putAt_eq {places : List (String × Point K)} {ts : List (Table K)}
    (hd : (ts.map (·.name)).Nodup) (hall : ∀ t ∈ ts, t.name ∈ places.map Prod.fst) :
    putAt places ts = ts.map fun t => t.movedTo (placeOf places t.name) := by
  induction ts with
  | nil => rfl
  | cons t ts ih =>
    rw [List.map_cons, List.nodup_cons] at hd
    rw [List.forall_mem_cons] at hall
    have hlast := any_name_eq_false hd.1
    obtain ⟨place, hplace, hname⟩ := List.mem_map.1 hall.1
    have hsome : (places.find? fun p => p.1 == t.name).isSome :=
      List.find?_isSome.2 ⟨place, hplace, beq_iff_eq.2 hname⟩
    obtain ⟨found, hfound⟩ := Option.isSome_iff_exists.1 hsome
    rw [putAt, List.map_cons, ih hd.2 hall.2, hlast, if_neg (by simp), placeOf, hfound]

/-- Tables of different names all have a place. -/
theorem arrangeBy_eq {ts : List (Table K)} (hd : (ts.map (·.name)).Nodup) :
    arrangeBy sizeOf ts = ts.map fun t =>
      t.movedTo (placeOf (placesBy sizeOf (ts.map (·.toTableDefinition))) t.name) := by
  have hdefs : ((ts.map (·.toTableDefinition)).map (·.name)).Nodup := names_definitions ts ▸ hd
  refine putAt_eq hd fun t ht => ?_
  rw [(names_placesBy_perm hdefs).mem_iff, names_definitions]
  exact List.mem_map_of_mem ht

/-- And it is the same for tables in another order. -/
theorem arrange_eq_of_perm (metrics : TableMetrics K) {ts ts' : List (Table K)}
    (hperm : ts'.Perm ts) (hd : (ts.map (·.name)).Nodup) :
    arrange metrics ts' = ts'.map fun t =>
      t.movedTo (placeOf (placesBy metrics.tableSize (ts.map (·.toTableDefinition))) t.name) := by
  have hdefs : ((ts.map (·.toTableDefinition)).map (·.name)).Nodup := names_definitions ts ▸ hd
  rw [placesBy_of_perm _ (hperm.map (·.toTableDefinition)).symm hdefs]
  exact arrangeBy_eq ((hperm.map _).nodup_iff.2 hd)

end

/-! ## Placing tables -/

section
variable {K : Type} [Scalar K]

/-- The tables are placed in the rows by depth. That goes for the tables in every order, and also
for the rows that the loop over levels ends with, in whatever orders it visits them. -/
structure ArrangedByDepth (metrics : TableMetrics K) (ts : List (Table K))
    (rows : List (List String)) : Prop where
  depth : RowsByDepth (RefersTo (ts.map (·.toTableDefinition))) (ts.map (·.name)) rows
  placed : ∃ place : String → Point K,
    (∀ ts' : List (Table K), ts'.Perm ts →
      arrange metrics ts' = ts'.map fun t => t.movedTo (place t.name)) ∧
    ∀ (k j : Nat) (row : List String) (name : String),
      rows[k]? = some row → row[j]? = some name → place name =
        ⟨leftOf (sizeNamed metrics.tableSize (ts.map (·.toTableDefinition))) row j,
          topOf (sizeNamed metrics.tableSize (ts.map (·.toTableDefinition))) rows k⟩
  looped : ∀ ts' : List (Table K), ts'.Perm ts → ∀ orders : Nat → List String,
    (∀ n, (orders n).Perm (ts.map (·.name))) →
      let levels := passes (parentNames (ts'.map (·.toTableDefinition))) (ts'.map (·.name)) orders
      (∃ n, levels (n + 1) = levels n) ∧
        ∀ n, levels (n + 1) = levels n → ∀ order : List String, order.Perm (ts.map (·.name)) →
          rowsByLevel (levels n) order = rows

/-- Tables of different names are placed in rows by depth. -/
theorem arrange_byDepth (metrics : TableMetrics K) (ts : List (Table K))
    (hd : (ts.map (·.name)).Nodup) :
    ArrangedByDepth metrics ts (rowsOf (ts.map (·.toTableDefinition))) := by
  have hdefs : ((ts.map (·.toTableDefinition)).map (·.name)).Nodup := names_definitions ts ▸ hd
  refine ⟨names_definitions ts ▸ rowsByDepth_rowsOf hdefs, ⟨_, fun ts' hperm =>
    arrange_eq_of_perm metrics hperm hd, fun k j row name => placeOf_placesBy hdefs⟩,
    fun ts' hperm orders horders => ?_⟩
  have hsame := names_definitions ts'
  have hpermNames := hperm.map (·.name)
  have hdefs' := hsame.symm ▸ hpermNames.nodup_iff.2 hd
  have horders' := fun n => hsame.symm ▸ (horders n).trans hpermNames.symm
  rw [rowsOf_of_perm (hperm.map (·.toTableDefinition)).symm hdefs, ← hsame]
  refine ⟨exists_unchanged (mem_of_mem_parentNames hdefs') horders', fun n hend order horder => ?_⟩
  exact rowsByLevel_passes hdefs' horders' hend (hsame.symm ▸ horder.trans hpermNames.symm)

/-- A table of the given name with a reference to each of the targets. -/
def referring (name : String) (targets : List String) : Table Rat where
  name
  columns := targets.map fun target => ⟨target, "INT", false, false, some ⟨target, "id"⟩⟩
  id := ⟨name⟩
  position := .zero

/-- Tables with a cycle, a table above it and one below it, and a reference of a table to itself. -/
def knotted : List (Table Rat) :=
  [referring "posts" ["users", "posts"], referring "b" ["a"], referring "users" [],
    referring "c" ["a"], referring "a" ["b", "users"], referring "notes" ["posts", "users"]]

theorem arrange_byDepth_knotted :
    (knotted.map (·.name)).Nodup ∧
      ArrangedByDepth .standard knotted [["users"], ["posts"], ["notes"], ["a", "b", "c"]] := by
  have hd : (knotted.map (·.name)).Nodup := by decide
  have hrows : rowsOf (knotted.map (·.toTableDefinition))
      = [["users"], ["posts"], ["notes"], ["a", "b", "c"]] := by cbv
  exact ⟨hd, hrows ▸ arrange_byDepth .standard knotted hd⟩

end

end Canvas

end SchemaGraph
