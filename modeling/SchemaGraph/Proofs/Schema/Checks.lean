import Mathlib.Data.List.Nodup
import SchemaGraph.Proofs.Schema.Outcomes

/-!
# What the checks of a schema accept

`TableDefinition.Proper` says what is asked of one table: a name, and columns with names of their
own. The checks accept exactly the tables for which this holds, and the lists of such tables in
which no name comes twice (`checkTables_iff`).
-/

namespace SchemaGraph

/-- Under distinct keys, the one item with a key is found by it. -/
theorem find?_key_eq_some {α κ : Type} [BEq κ] [LawfulBEq κ] (key : α → κ) {xs : List α}
    (hd : (xs.map key).Nodup) {x : α} {k : κ} :
    xs.find? (fun y => key y == k) = some x ↔ x ∈ xs ∧ key x = k := by
  have hfound : ∀ {y}, xs.find? (fun y => key y == k) = some y → y ∈ xs ∧ key y = k := by
    intro y hy
    have hkey : (key y == k) = true := List.find?_some (p := fun y => key y == k) hy
    exact ⟨List.mem_of_find?_eq_some hy, beq_iff_eq.1 hkey⟩
  refine ⟨hfound, fun ⟨hmem, hkey⟩ => ?_⟩
  have hsome : (xs.find? fun y => key y == k).isSome :=
    List.find?_isSome.2 ⟨x, hmem, beq_iff_eq.2 hkey⟩
  obtain ⟨y, hy⟩ := Option.isSome_iff_exists.1 hsome
  obtain ⟨hin, hname⟩ := hfound hy
  rw [hy, List.inj_on_of_nodup_map hd hin hmem (hname.trans hkey.symm)]

/-- The table has a name, and its columns have names of their own. -/
structure TableDefinition.Proper (t : TableDefinition) : Prop where
  name : Text.allBlank t.name = false
  columnName : ∀ c ∈ t.columns, Text.allBlank c.name = false
  distinct : (t.columns.map (·.name)).Nodup

/-- All tables are proper, and no two share a name. -/
structure ProperTables (ts : List TableDefinition) : Prop where
  proper : ∀ t ∈ ts, t.Proper
  distinct : (ts.map (·.name)).Nodup

theorem ProperTables.nil : ProperTables [] := ⟨by simp, by simp⟩

/-! ## The checks -/

/-- One more name that was seen is one more that must not come again. -/
theorem seen_cons_iff {α : Type} {P : α → Prop} {name : α → String} {a : String}
    {seen : List String} {xs : List α} :
    ((∀ x ∈ xs, P x ∧ name x ∉ a :: seen) ∧ (xs.map name).Nodup) ↔
      (∀ x ∈ xs, P x ∧ name x ∉ seen) ∧ a ∉ xs.map name ∧ (xs.map name).Nodup := by
  constructor
  · rintro ⟨hall, hd⟩
    refine ⟨fun x hx => ?_, fun h => ?_, hd⟩
    · exact ⟨(hall x hx).1, fun h => (hall x hx).2 (List.mem_cons_of_mem _ h)⟩
    · obtain ⟨x, hx, heq⟩ := List.mem_map.1 h
      exact (hall x hx).2 (heq ▸ List.mem_cons_self ..)
  · rintro ⟨hall, hnot, hd⟩
    refine ⟨fun x hx => ⟨(hall x hx).1, ?_⟩, hd⟩
    rw [List.mem_cons, not_or]
    exact ⟨fun h => hnot (List.mem_map.2 ⟨x, hx, h⟩), (hall x hx).2⟩

namespace Model

variable {K : Type}

theorem checkColumns_iff (table : String) (seen : List String) (cs : List Column) :
    checkColumns table seen cs = .ok () ↔
      (∀ c ∈ cs, Text.allBlank c.name = false ∧ c.name ∉ seen) ∧ (cs.map (·.name)).Nodup := by
  induction cs generalizing seen with
  | nil => simp [checkColumns]
  | cons c cs ih =>
    rw [checkColumns, List.map_cons, List.nodup_cons, List.forall_mem_cons, and_assoc]
    by_cases hb : Text.allBlank c.name = true
    · simp [hb]
    by_cases hs : c.name ∈ seen
    · simp [hb, hs]
    rw [if_neg hb, if_neg (by simpa using hs), ih, seen_cons_iff]
    rw [Bool.not_eq_true] at hb
    exact ⟨fun h => ⟨⟨hb, hs⟩, h⟩, fun h => h.2⟩

/-- A table is accepted if it is proper. -/
theorem checkTable_iff (t : Table K) : checkTable t = .ok () ↔ t.Proper := by
  unfold checkTable
  by_cases hb : Text.allBlank t.name = true
  · rw [if_pos hb]
    constructor
    · intro h
      cases h
    · intro h
      rw [h.name] at hb
      cases hb
  · rw [if_neg hb, checkColumns_iff]
    constructor
    · rintro ⟨hnames, hd⟩
      exact ⟨by simpa using hb, fun c hc => (hnames c hc).1, hd⟩
    · intro h
      exact ⟨fun c hc => ⟨h.columnName c hc, by simp⟩, h.distinct⟩

theorem checkTables_seen_iff (seen : List String) (ts : List (Table K)) :
    checkTables seen ts = .ok () ↔
      (∀ t ∈ ts, t.Proper ∧ t.name ∉ seen) ∧ (ts.map (·.name)).Nodup := by
  induction ts generalizing seen with
  | nil => simp [checkTables]
  | cons t ts ih =>
    rw [checkTables, List.map_cons, List.nodup_cons, List.forall_mem_cons, and_assoc]
    cases hcheck : checkTable t with
    | error e =>
      have hnot : ¬ t.Proper := by
        intro h
        rw [(checkTable_iff t).2 h] at hcheck
        cases hcheck
      simp [hnot]
    | ok _ =>
      have hproper := (checkTable_iff t).1 hcheck
      by_cases hs : t.name ∈ seen
      · simp [hs]
      dsimp only
      rw [if_neg (by simpa using hs), ih, seen_cons_iff]
      exact ⟨fun h => ⟨⟨hproper, hs⟩, h⟩, fun h => h.2⟩

/-- A list of tables is accepted if the tables are proper and their names are different. -/
theorem checkTables_iff (ts : List (Table K)) :
    checkTables [] ts = .ok () ↔ ProperTables (ts.map (·.toTableDefinition)) := by
  rw [checkTables_seen_iff]
  constructor
  · rintro ⟨hproper, hd⟩
    refine ⟨fun t ht => ?_, by rwa [List.map_map]⟩
    obtain ⟨u, hu, rfl⟩ := List.mem_map.1 ht
    exact (hproper u hu).1
  · intro h
    have hd := h.distinct
    rw [List.map_map] at hd
    exact ⟨fun t ht => ⟨h.proper _ (List.mem_map_of_mem ht), by simp⟩, hd⟩

/-- The tables of a schema can be replaced by any proper tables, and by no others. -/
theorem replaceAll_iff (ts : List (Table K)) (m : Model K) :
    replaceAll ts = .ok m ↔
      ProperTables (ts.map (·.toTableDefinition)) ∧ m = withTables ts := by
  rw [replaceAll_eq]
  cases hcheck : checkTables [] ts with
  | error e =>
    have hnot : ¬ ProperTables (ts.map (·.toTableDefinition)) := by
      intro h
      rw [(checkTables_iff ts).2 h] at hcheck
      cases hcheck
    simp [hnot]
  | ok _ =>
    have hproper := (checkTables_iff ts).1 hcheck
    simp [hproper, eq_comm]

end Model

end SchemaGraph
