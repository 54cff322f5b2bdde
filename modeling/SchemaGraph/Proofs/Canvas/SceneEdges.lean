import SchemaGraph.Canvas.Scene
import SchemaGraph.Proofs.Canvas.ZoomRange

/-!
# Edges touch the boxes they join

The boxes of a scene are tables that were brought to the screen, and the ends of its edges are
points of the canvas that were. In a well-formed schema both agree: each relationship is one edge,
and it runs from one drawn header to another (`Scene.edges_of_wellFormed`). No edge is missing,
because the relationships are those of the tables, and none leads to another table, because no name
comes twice.
-/

namespace SchemaGraph

variable {K : Type}

/-- A relationship begins and ends at tables of the schema. -/
theorem Relationship.ends_of_mem_resolve {ts : List (Table K)} {r : Relationship}
    (h : r ∈ resolve ts) : (∃ t ∈ ts, t.name = r.fromTable) ∧ ∃ t ∈ ts, t.name = r.toTable := by
  obtain ⟨t, ht, hr⟩ := List.mem_flatMap.1 h
  obtain ⟨c, -, hcolumn⟩ := List.mem_filterMap.1 hr
  unfold ofColumn? at hcolumn
  split at hcolumn
  · cases hcolumn
  · rename_i target _
    split at hcolumn
    · rename_i hnamed
      cases hcolumn
      exact ⟨⟨t, ht, rfl⟩, List.mem_map.1 (List.contains_iff_mem.1 hnamed)⟩
    · cases hcolumn

namespace Canvas

/-! ## Scenes that are moved -/

section
variable [Scalar K]

def Point.movedBy (p : Point K) (dx dy : K) : Point K := ⟨p.x + dx, p.y + dy⟩

/-- The table drawn elsewhere, in the same size. -/
def SceneTable.movedBy (t : SceneTable K) (dx dy : K) : SceneTable K :=
  { t with rect := ⟨t.rect.origin.movedBy dx dy, t.rect.size⟩ }

def SceneEdge.movedBy (e : SceneEdge K) (dx dy : K) : SceneEdge K :=
  { e with start := e.start.movedBy dx dy, finish := e.finish.movedBy dx dy }

/-- All that is drawn, drawn elsewhere in the same size. -/
def Scene.movedBy (s : Scene K) (dx dy : K) : Scene K where
  zoom := s.zoom
  tables := s.tables.map fun t => t.movedBy dx dy
  edges := s.edges.map fun e => e.movedBy dx dy

/-- The edge is the relationship `r`, drawn from the right end of one header to the left end of
another, half-way down each. -/
structure SceneEdge.Joins (e : SceneEdge K) (r : Relationship) (a b : SceneTable K) : Prop where
  id : e.relationshipId = r.id
  source : a.name = r.fromTable
  target : b.name = r.toTable
  start : e.start = ⟨a.rect.right, a.rect.origin.y + a.headerHeight / Scalar.whole 2⟩
  finish : e.finish = ⟨b.rect.origin.x, b.rect.origin.y + b.headerHeight / Scalar.whole 2⟩

/-- Under distinct names a box is found by the name of its table. -/
theorem rectNamed?_eq_some {m : Model K} (hnames : (m.tables.map (·.name)).Nodup)
    {metrics : TableMetrics K} {t : Table K} (ht : t ∈ m.tables) :
    rectNamed? m metrics t.name = some (metrics.tableRect t) := by
  have hreverse : (m.tables.reverse.map (·.name)).Nodup := by
    rw [List.map_reverse]
    exact List.nodup_reverse.2 hnames
  unfold rectNamed?
  rw [(find?_key_eq_some (fun t : Table K => t.name) hreverse).2 ⟨List.mem_reverse.2 ht, rfl⟩]
  rfl

end

variable {v : Viewport Rat} {metrics : TableMetrics Rat}

/-! ## One edge -/

/-- Where edges leave a box on the canvas, they leave it on the screen. -/
theorem Viewport.toScreen_outlet (v : Viewport Rat) (metrics : TableMetrics Rat) (t : Table Rat) :
    v.toScreen (outlet metrics (metrics.tableRect t))
      = ⟨(drawTable v metrics t).rect.right, (drawTable v metrics t).rect.origin.y
          + (drawTable v metrics t).headerHeight / Scalar.whole 2⟩ := by
  simp only [toScreen, outlet, drawTable, rectToScreen, Rect.right]
  congr 1 <;> ring

/-- Where edges reach a box on the canvas, they reach it on the screen. -/
theorem Viewport.toScreen_inlet (v : Viewport Rat) (metrics : TableMetrics Rat) (t : Table Rat) :
    v.toScreen (inlet metrics (metrics.tableRect t))
      = ⟨(drawTable v metrics t).rect.origin.x, (drawTable v metrics t).rect.origin.y
          + (drawTable v metrics t).headerHeight / Scalar.whole 2⟩ := by
  simp only [toScreen, inlet, drawTable, rectToScreen]
  congr 1
  ring

/-- A relationship of a well-formed schema is drawn, and joins the boxes of its two tables. -/
theorem exists_drawEdge? {m : Model Rat} (h : m.WellFormed) (v : Viewport Rat)
    (metrics : TableMetrics Rat) {r : Relationship} (hr : r ∈ m.relationships) :
    ∃ e, drawEdge? m v metrics r = some e ∧ ∃ a ∈ m.tables, ∃ b ∈ m.tables,
      e.Joins r (drawTable v metrics a) (drawTable v metrics b) := by
  rw [h.relationships] at hr
  obtain ⟨⟨a, ha, hfrom⟩, b, hb, hto⟩ := Relationship.ends_of_mem_resolve hr
  have hdraw : drawEdge? m v metrics r
      = some ⟨r.id, v.toScreen (outlet metrics (metrics.tableRect a)),
          v.toScreen (inlet metrics (metrics.tableRect b))⟩ := by
    unfold drawEdge?
    rw [← hfrom, ← hto, rectNamed?_eq_some h.names ha, rectNamed?_eq_some h.names hb]
  exact ⟨_, hdraw, a, ha, b, hb, rfl, hfrom, hto, v.toScreen_outlet metrics a,
    v.toScreen_inlet metrics b⟩

/-- What is drawn of each item, and what it has to do with the item. -/
theorem forall₂_filterMap {α β : Type} {draw : α → Option β} {R : β → α → Prop} {items : List α}
    (h : ∀ x ∈ items, ∃ y, draw x = some y ∧ R y x) :
    List.Forall₂ R (items.filterMap draw) items := by
  induction items with
  | nil => exact .nil
  | cons x rest ih =>
    obtain ⟨⟨y, hy, hR⟩, hrest⟩ := List.forall_mem_cons.1 h
    rw [List.filterMap_cons_some hy]
    exact .cons hR (ih hrest)

/-! ## Pans -/

theorem Viewport.toScreen_panBy (h : v.zoom ≠ 0) (dx dy : Rat) (p : Point Rat) :
    (v.panBy dx dy).toScreen p = (v.toScreen p).movedBy dx dy := by
  simp only [toScreen, panBy, Point.movedBy]
  congr 1 <;> field_simp <;> ring

theorem drawTable_panBy (h : v.zoom ≠ 0) (dx dy : Rat) (t : Table Rat) :
    drawTable (v.panBy dx dy) metrics t = (drawTable v metrics t).movedBy dx dy := by
  have hzoom : (v.panBy dx dy).zoom = v.zoom := rfl
  simp only [drawTable, Viewport.rectToScreen, Viewport.toScreen_panBy h, hzoom,
    SceneTable.movedBy]

theorem drawEdge?_panBy (h : v.zoom ≠ 0) (dx dy : Rat) (m : Model Rat) (r : Relationship) :
    drawEdge? m (v.panBy dx dy) metrics r
      = (drawEdge? m v metrics r).map fun e => e.movedBy dx dy := by
  unfold drawEdge?
  split
  · simp only [Viewport.toScreen_panBy h, Option.map_some, SceneEdge.movedBy]
  · rfl

/-- A pan moves all that is drawn as far as the pointer went, and changes no size. -/
theorem Scene.build_panBy (h : v.zoom ≠ 0) (dx dy : Rat) (m : Model Rat) :
    build m (v.panBy dx dy) metrics = (build m v metrics).movedBy dx dy := by
  have htables : m.tables.map (drawTable (v.panBy dx dy) metrics)
      = (m.tables.map (drawTable v metrics)).map fun t => t.movedBy dx dy := by
    rw [List.map_map]
    exact List.map_congr_left fun t _ => drawTable_panBy h dx dy t
  have hedges : m.relationships.filterMap (drawEdge? m (v.panBy dx dy) metrics)
      = (m.relationships.filterMap (drawEdge? m v metrics)).map fun e => e.movedBy dx dy := by
    rw [List.map_filterMap]
    exact List.filterMap_congr fun r _ => drawEdge?_panBy h dx dy m r
  unfold build movedBy
  rw [htables, hedges]
  rfl

/-- At zoom zero there are no pans: the distance would be divided by zero. -/
theorem Viewport.panBy_of_zoom_zero (h : v.zoom = 0) (dx dy : Rat) :
    (v.checked.panBy (.number dx) (.number dy)).pan = ⟨.undefined, .undefined⟩ := by
  have hdivided : ∀ x : Rat, (.number x / .number v.zoom : Checked) = .undefined :=
    fun x => if_pos h
  have hadded : ∀ x : Rat, (.number x + .undefined : Checked) = .undefined := fun _ => rfl
  simp only [panBy, checked, Point.checked, hdivided, hadded]

/-- **Edges touch the boxes they join.** The scene of a well-formed schema has one box for each
table, in order and under a name of its own, and one edge for each relationship, in order. The edge
runs from the box of the one table to the box of the other. A pan moves boxes and edges by the same
distance and changes nothing else; only at zoom zero, where it would divide by zero, it is
undefined. -/
theorem Scene.edges_of_wellFormed {m : Model Rat} (h : m.WellFormed) (v : Viewport Rat)
    (metrics : TableMetrics Rat) :
    let scene := build m v metrics
    List.Forall₂ (fun box t => box.id = t.id ∧ box.name = t.name ∧
        box.rect = v.rectToScreen (metrics.tableRect t)) scene.tables m.tables ∧
      (scene.tables.map (·.name)).Nodup ∧
      List.Forall₂ (fun e r => ∃ a ∈ scene.tables, ∃ b ∈ scene.tables, e.Joins r a b)
        scene.edges m.relationships ∧
      ∀ dx dy, (v.zoom ≠ 0 → build m (v.panBy dx dy) metrics = scene.movedBy dx dy) ∧
        (v.zoom = 0 →
          (v.checked.panBy (.number dx) (.number dy)).pan = ⟨.undefined, .undefined⟩) := by
  intro scene
  have hnames : scene.tables.map (·.name) = m.tables.map (·.name) := List.map_map
  refine ⟨?_, hnames ▸ h.names, forall₂_filterMap fun r hr => ?_, fun dx dy =>
    ⟨fun hzoom => build_panBy hzoom dx dy m, fun hzero => v.panBy_of_zoom_zero hzero dx dy⟩⟩
  · exact List.forall₂_map_left_iff.2 (List.forall₂_same.2 fun t _ => ⟨rfl, rfl, rfl⟩)
  · obtain ⟨e, he, a, ha, b, hb, hjoins⟩ := exists_drawEdge? h v metrics hr
    exact ⟨e, he, _, List.mem_map_of_mem ha, _, List.mem_map_of_mem hb, hjoins⟩

/-- A table that refers to itself and to another one that comes later. -/
def nestsModel : Model Rat := .withTables
  [⟨⟨"nests", [⟨"id", "INT", true, true, none⟩,
      ⟨"within", "INT", false, false, some ⟨"nests", "id"⟩⟩,
      ⟨"tree", "TEXT", false, false, some ⟨"trees", "name"⟩⟩]⟩, ⟨"n"⟩, ⟨50, 170⟩⟩,
    ⟨⟨"trees", [⟨"name", "TEXT", true, true, none⟩]⟩, ⟨"t"⟩, ⟨50, 50⟩⟩]

theorem Scene.edges_of_nestsModel :
    nestsModel.WellFormed ∧ nestsModel.relationships.length = 2 ∧
      (let v : Viewport Rat := ((Viewport.ofConfig .standard).panBy 10 20).zoomBy (1 / 3) ⟨0, 0⟩
      let scene := build nestsModel v .standard
      List.Forall₂ (fun e r => ∃ a ∈ scene.tables, ∃ b ∈ scene.tables, e.Joins r a b)
          scene.edges nestsModel.relationships ∧
        build nestsModel (v.panBy 7 (-4)) .standard = scene.movedBy 7 (-4)) := by
  have hwf : nestsModel.WellFormed :=
    Model.wellFormed_withTables (by decide) ((Model.checkTables_iff _).1 (by decide +kernel))
  obtain ⟨-, -, hedges, hpan⟩ := Scene.edges_of_wellFormed hwf
    (((Viewport.ofConfig .standard).panBy 10 20).zoomBy (1 / 3) ⟨0, 0⟩) .standard
  exact ⟨hwf, by decide +kernel, hedges, (hpan 7 (-4)).1 (by decide +kernel)⟩

end Canvas

end SchemaGraph
