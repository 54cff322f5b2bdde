import SchemaGraph.Proofs.Json.ReadBack
import SchemaGraph.Wire.Canvas

/-!
# Stored tables are read back

Each decoder undoes its encoder: for every column, with whatever flags, with or without a reference,
and for every table at a finite place. What is stored of a schema beside its tables is ignored. The
JSON text of a schema is legible as far as the numbers of its places are read back.
-/

namespace SchemaGraph

open Json (Value)

namespace Json

theorem Value.float?_number {x : Float} (h : x.isFinite = true) :
    (Value.number x).float? = some x := by
  simp only [number, if_pos h, float?]

theorem Value.items?_map {α : Type} {decode : Value → Option α} {encode : α → Value} {as : List α}
    (h : ∀ a ∈ as, decode (encode a) = some a) :
    (Value.array (as.map encode)).items? decode = some as := by
  rw [items?]
  induction as with
  | nil => rfl
  | cons a as ih =>
    rw [List.map_cons, List.mapM_cons, h a List.mem_cons_self,
      ih fun b hb => h b (List.mem_cons_of_mem _ hb)]
    rfl

theorem legible_number {x : Float} (h : readsBack x = true) : (Value.number x).Legible := by
  rw [Value.number, if_pos (isFinite_of_readsBack h)]
  exact legible_float h

theorem legible_map {α : Type} {encode : α → Value} {as : List α}
    (h : ∀ a ∈ as, (encode a).Legible) : (Value.array (as.map encode)).Legible :=
  legible_array (List.forall_mem_map.2 h)

end Json

namespace Wire

open Json (readsBack legible_text legible_bool legible_number legible_map legible_record)

/-! ## Decoding what was encoded -/

theorem decodePoint_encodePoint {p : Canvas.Point Float} (hx : p.x.isFinite = true)
    (hy : p.y.isFinite = true) : decodePoint (encodePoint p) = some p := by
  simp [decodePoint, encodePoint, Value.fields?, Value.record, Value.valuesOf, Value.required,
    Value.float?_number, hx, hy]

theorem decodeForeignKey_encodeForeignKey (r : ForeignKey) :
    decodeForeignKey (encodeForeignKey r) = some r := by
  simp [decodeForeignKey, encodeForeignKey, Value.fields?, Value.record, Value.valuesOf,
    Value.required, Value.text?]

theorem decodeColumn_encodeColumn (c : Column) : decodeColumn (encodeColumn c) = some c := by
  obtain ⟨name, typeName, primaryKey, notNull, foreignKey⟩ := c
  cases foreignKey with
  | none =>
    simp [decodeColumn, encodeColumn, foreignKeyField, Value.fields?, Value.record, Value.valuesOf,
      Value.required, Value.optional, Value.text?, Value.bool?]
  | some r =>
    have hnullable : (encodeForeignKey r).nullable? decodeForeignKey = some (some r) :=
      congrArg (Option.map some) (decodeForeignKey_encodeForeignKey r)
    simp [decodeColumn, encodeColumn, foreignKeyField, Value.fields?, Value.record, Value.valuesOf,
      Value.required, Value.optional, Value.text?, Value.bool?, hnullable]

theorem decodeTable_encodeTable {t : Table Float} (hx : t.position.x.isFinite = true)
    (hy : t.position.y.isFinite = true) : decodeTable (encodeTable t) = some t := by
  have hid : decodeId (encodeId t.id) = some t.id := rfl
  have hcolumns := Value.items?_map fun c (_ : c ∈ t.columns) => decodeColumn_encodeColumn c
  simp [decodeTable, encodeTable, Value.fields?, Value.record, Value.valuesOf, Value.required,
    Value.text?, hid, hcolumns, decodePoint_encodePoint hx hy]

/-- The tables are found among what else is stored of a schema. -/
theorem decodeTables_encodeReport {m : Model Float} (diagnostics : List Sql.Diagnostic)
    (h : ∀ t ∈ m.tables, t.position.x.isFinite = true ∧ t.position.y.isFinite = true) :
    decodeTables (encodeReport m diagnostics) = some m.tables := by
  have htables := Value.items?_map fun t ht => decodeTable_encodeTable (h t ht).1 (h t ht).2
  simp [decodeTables, encodeReport, Value.fields?, Value.record, Value.valuesOf, Value.required,
    htables]

/-! ## Reading what was written -/

theorem legible_encodePoint {p : Canvas.Point Float} (hx : readsBack p.x = true)
    (hy : readsBack p.y = true) : (encodePoint p).Legible := by
  refine legible_record ?_
  simp only [List.forall_mem_cons]
  exact ⟨legible_number hx, legible_number hy, by simp⟩

theorem legible_encodeForeignKey (r : ForeignKey) : (encodeForeignKey r).Legible := by
  refine legible_record ?_
  simp only [List.forall_mem_cons]
  exact ⟨legible_text _, legible_text _, by simp⟩

theorem legible_encodeColumn (c : Column) : (encodeColumn c).Legible := by
  refine legible_record ?_
  simp only [List.cons_append, List.nil_append, List.forall_mem_cons]
  refine ⟨legible_text _, legible_text _, legible_bool _, legible_bool _, ?_⟩
  cases c.foreignKey with
  | none => simp [foreignKeyField]
  | some r => simpa [foreignKeyField] using legible_encodeForeignKey r

theorem legible_encodeTable {t : Table Float} (hx : readsBack t.position.x = true)
    (hy : readsBack t.position.y = true) : (encodeTable t).Legible := by
  refine legible_record ?_
  simp only [List.forall_mem_cons]
  exact ⟨legible_text _, legible_text _, legible_map fun c _ => legible_encodeColumn c,
    legible_encodePoint hx hy, by simp⟩

theorem legible_encodeRelationship (r : Relationship) : (encodeRelationship r).Legible := by
  refine legible_record ?_
  simp only [List.forall_mem_cons]
  exact ⟨legible_text _, legible_text _, legible_text _, legible_text _, legible_text _, by simp⟩

theorem legible_encodeReport {m : Model Float} (diagnostics : List Sql.Diagnostic)
    (h : ∀ t ∈ m.tables, readsBack t.position.x = true ∧ readsBack t.position.y = true) :
    (encodeReport m diagnostics).Legible := by
  refine legible_record ?_
  simp only [List.forall_mem_cons]
  exact ⟨legible_map fun t ht => legible_encodeTable (h t ht).1 (h t ht).2,
    legible_map fun r _ => legible_encodeRelationship r, legible_map fun d _ => legible_text _,
    by simp⟩

end Wire

end SchemaGraph
