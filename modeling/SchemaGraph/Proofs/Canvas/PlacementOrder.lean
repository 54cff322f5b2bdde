import Mathlib.Data.List.Nodup
import Mathlib.Data.List.Sort
import Mathlib.Data.String.Basic
import SchemaGraph.Proofs.Schema.Imported

/-!
# The order of tables does not matter to their places

Where a table of a script is placed depends on the tables of the script, and not on their order, as
long as their names are distinct: the rows are the same up to the order in them, and each row is put
in the order of names. So the tables of an import are permuted with the definitions of the script
(`content_tablesOf_perm`).
-/

namespace SchemaGraph

/-- Under distinct keys, what is found by a key does not depend on the order. -/
theorem find?_key_of_perm {α : Type} (key : α → String) {xs ys : List α} (h : xs.Perm ys)
    (hd : (xs.map key).Nodup) (k : String) :
    xs.find? (fun x => key x == k) = ys.find? (fun y => key y == k) := by
  induction h with
  | nil => rfl
  | cons x _ ih =>
    rw [List.map_cons, List.nodup_cons] at hd
    rw [List.find?_cons, List.find?_cons, ih hd.2]
  | swap x y xs =>
    have hne : key y ≠ key x := by
      intro heq
      simp [heq] at hd
    by_cases hx : key x = k
    · have hy : key y ≠ k := hx ▸ hne
      simp [hx, hy]
    · simp [List.find?_cons, hx]
  | trans h₁ _ ih₁ ih₂ =>
    rw [ih₁ hd, ih₂ ((h₁.map key).nodup_iff.1 hd)]

/-- What a table is apart from its identity. -/
def Table.content {K : Type} (t : Table K) : TableDefinition × Canvas.Point K :=
  (t.toTableDefinition, t.position)

namespace Canvas

/-! ## Tables by name -/

variable {ds ds' : List TableDefinition}

theorem lastNamed?_of_perm (h : ds.Perm ds') (hd : (ds.map (·.name)).Nodup) (name : String) :
    lastNamed? ds name = lastNamed? ds' name := by
  have hreverse : ds.reverse.Perm ds'.reverse :=
    (List.reverse_perm ds).trans (h.trans (List.reverse_perm ds').symm)
  refine find?_key_of_perm _ hreverse ?_ name
  rw [List.map_reverse, List.nodup_reverse]
  exact hd

theorem parentNames_of_perm (h : ds.Perm ds') (hd : (ds.map (·.name)).Nodup) (name : String) :
    parentNames ds name = parentNames ds' name := by
  unfold parentNames
  rw [lastNamed?_of_perm h hd]
  cases lastNamed? ds' name with
  | none => rfl
  | some t =>
    have hnames : ∀ target,
        (ds.map (·.name)).contains target = (ds'.map (·.name)).contains target :=
      fun target => (h.map _).contains_eq
    simp only [parentsOf, hnames]

/-! ## Rows -/

theorem distinctNames_of_nodup {names : List String} (h : names.Nodup) :
    distinctNames names = names := by
  induction names with
  | nil => rfl
  | cons name names ih =>
    rw [List.nodup_cons] at h
    rw [distinctNames, ih h.2, List.filter_eq_self.2]
    intro other hother
    rw [bne_iff_ne]
    rintro rfl
    exact h.1 hother

section
variable (parents : String → List String) {placed placed' pending pending' : List String}

theorem all_contains_of_perm (h : placed.Perm placed') (names : List String) :
    names.all placed.contains = names.all placed'.contains := by
  congr 1
  funext name
  exact h.contains_eq

theorem readyNames_perm (hplaced : placed.Perm placed') (hpending : pending.Perm pending') :
    (readyNames parents placed pending).Perm (readyNames parents placed' pending') := by
  simp only [readyNames, all_contains_of_perm hplaced]
  exact hpending.filter _

theorem waitingNames_perm (hplaced : placed.Perm placed') (hpending : pending.Perm pending') :
    (waitingNames parents placed pending).Perm (waitingNames parents placed' pending') := by
  simp only [waitingNames, all_contains_of_perm hplaced]
  exact hpending.filter _

/-- The rows are the same for whatever does not see the order in a row. -/
theorem map_peelRows_of_perm {β : Type} {f : List String → β}
    (hf : ∀ {row row' : List String}, row.Perm row' → f row = f row')
    (hplaced : placed.Perm placed') (hpending : pending.Perm pending') :
    (peelRows parents placed pending).map f = (peelRows parents placed' pending').map f := by
  have hready := readyNames_perm parents hplaced hpending
  have hwaiting := waitingNames_perm parents hplaced hpending
  fun_induction peelRows parents placed pending generalizing placed' pending' with
  | case1 placed pending hnone hempty =>
    rw [peelRows, if_pos (hready.isEmpty_eq ▸ hnone), if_pos (hpending.isEmpty_eq ▸ hempty)]
  | case2 placed pending hnone hempty =>
    rw [peelRows, if_pos (hready.isEmpty_eq ▸ hnone), if_neg (hpending.isEmpty_eq ▸ hempty)]
    rw [List.map_singleton, List.map_singleton, hf hpending]
  | case3 placed pending hsome ih =>
    have hnext := hplaced.append hready
    rw [peelRows.eq_1 parents placed' pending', if_neg (hready.isEmpty_eq ▸ hsome), List.map_cons,
      List.map_cons, hf hready,
      ih hnext hwaiting (readyNames_perm parents hnext hwaiting)
        (waitingNames_perm parents hnext hwaiting)]

end

theorem rowsOf_of_perm (h : ds.Perm ds') (hd : (ds.map (·.name)).Nodup) :
    rowsOf ds = rowsOf ds' := by
  have hd' : (ds'.map (·.name)).Nodup := (h.map _).nodup_iff.1 hd
  have hsort : ∀ {row row' : List String}, row.Perm row' →
      (row.mergeSort fun a b => decide (a ≤ b)) = row'.mergeSort fun a b => decide (a ≤ b) := by
    intro row row' hrow
    refine List.Perm.eq_of_pairwise' (r := (· ≤ ·)) ?_ ?_ ?_
    · exact List.pairwise_mergeSort' _ row
    · exact List.pairwise_mergeSort' _ row'
    · exact (List.mergeSort_perm _ _).trans (hrow.trans (List.mergeSort_perm _ _).symm)
  unfold rowsOf
  rw [distinctNames_of_nodup hd, distinctNames_of_nodup hd', funext (parentNames_of_perm h hd)]
  exact map_peelRows_of_perm _ hsort (List.Perm.refl _) (h.map _)

/-! ## Places -/

section
variable {K : Type} [Scalar K] (size : TableDefinition → Size K)

theorem placesBy_of_perm (h : ds.Perm ds') (hd : (ds.map (·.name)).Nodup) :
    placesBy size ds = placesBy size ds' := by
  have hsize : sizeNamed size ds = sizeNamed size ds' := by
    funext name
    rw [sizeNamed, sizeNamed, lastNamed?_of_perm h hd]
  rw [placesBy, placesBy, hsize, rowsOf_of_perm h hd]

/-- Where a table of the given name goes. -/
def placeOf (places : List (String × Point K)) (name : String) : Point K :=
  match places.find? fun p => p.1 == name with
  | some (_, position) => position
  | none => Table.defaultPosition

theorem any_name_eq_false {K : Type} {ts : List (Table K)} {name : String}
    (h : name ∉ ts.map (·.name)) : (ts.any fun t => t.name == name) = false := by
  rw [List.any_eq_false]
  intro t ht
  rw [beq_iff_eq]
  rintro rfl
  exact h (List.mem_map_of_mem ht)

/-- Tables of different names that have not been placed go where their names do. -/
theorem content_putAt (places : List (String × Point K)) {ts : List (Table K)}
    (hd : (ts.map (·.name)).Nodup) (hnew : ∀ t ∈ ts, t.position = Table.defaultPosition) :
    (putAt places ts).map Table.content
      = ts.map fun t => (t.toTableDefinition, placeOf places t.name) := by
  induction ts with
  | nil => rfl
  | cons t ts ih =>
    rw [List.map_cons, List.nodup_cons] at hd
    have hlast := any_name_eq_false hd.1
    have hrest := ih hd.2 fun u hu => hnew u (List.mem_cons_of_mem _ hu)
    rw [putAt, List.map_cons, List.map_cons, hrest, hlast]
    congr 1
    rw [if_neg (by simp), placeOf]
    cases places.find? fun p => p.1 == t.name with
    | some p => rfl
    | none => exact congrArg (Prod.mk t.toTableDefinition) (hnew t (List.mem_cons_self ..))

theorem content_arrangeBy {ts : List (Table K)} (hd : (ts.map (·.name)).Nodup)
    (hnew : ∀ t ∈ ts, t.position = Table.defaultPosition) :
    (arrangeBy size ts).map Table.content
      = (ts.map (·.toTableDefinition)).map fun d =>
          (d, placeOf (placesBy size (ts.map (·.toTableDefinition))) d.name) := by
  rw [arrangeBy, content_putAt _ hd hnew, List.map_map]
  rfl

end

end Canvas

/-! ## Imports -/

section
variable {K : Type} [Scalar K]

theorem Table.position_ofDefinitions (ids : IdSupply) (ds : List TableDefinition) :
    ∀ t ∈ (Table.ofDefinitions (K := K) ids ds).1, t.position = Table.defaultPosition := by
  induction ds generalizing ids with
  | nil => simp [Table.ofDefinitions]
  | cons d ds ih =>
    intro t ht
    rcases List.mem_cons.1 ht with rfl | ht
    · rfl
    · exact ih _ t ht

/-- The place of a table of an import is decided by the definitions of the script and its name. -/
theorem content_tablesOf (metrics : Canvas.TableMetrics K) (ids : IdSupply) {script : Sql.Script}
    (hd : (script.definitions.map (·.name)).Nodup) :
    (Workspace.tablesOf metrics ids script).1.map Table.content
      = script.definitions.map fun d =>
          (d, Canvas.placeOf (Canvas.placesBy metrics.tableSize script.definitions) d.name) := by
  have hdefs := Table.definitions_ofDefinitions (K := K) ids script.definitions
  have hnames : (Table.ofDefinitions (K := K) ids script.definitions).1.map (·.name)
      = script.definitions.map (·.name) := by
    refine Eq.trans ?_ (congrArg (List.map (·.name)) hdefs)
    rw [List.map_map]
    rfl
  have hcontent := Canvas.content_arrangeBy metrics.tableSize (hnames ▸ hd)
    (Table.position_ofDefinitions ids script.definitions)
  rw [hdefs] at hcontent
  exact hcontent

/-- Scripts with the same definitions in whatever order give the same tables at the same places, in
that order. -/
theorem content_tablesOf_perm {script script' : Sql.Script}
    (h : script.definitions.Perm script'.definitions)
    (hd : (script.definitions.map (·.name)).Nodup) (metrics : Canvas.TableMetrics K)
    (ids ids' : IdSupply) :
    ((Workspace.tablesOf metrics ids script).1.map Table.content).Perm
      ((Workspace.tablesOf metrics ids' script').1.map Table.content) := by
  have hd' : (script'.definitions.map (·.name)).Nodup := (h.map _).nodup_iff.1 hd
  rw [content_tablesOf metrics ids hd, content_tablesOf metrics ids' hd',
    Canvas.placesBy_of_perm _ h hd]
  exact h.map _

end

end SchemaGraph
