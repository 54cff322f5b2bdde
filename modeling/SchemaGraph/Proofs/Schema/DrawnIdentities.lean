import Mathlib.Data.Nat.ModEq
import Mathlib.Data.Nat.Prime.Basic
import SchemaGraph.Proofs.Schema.Runs

/-!
# Drawn identities

The free bits can be read off an identity, and the stride is odd, so it takes as many draws as there
are identities until one comes again (`IdSupply.eq_of_draw_eq`). What an import asks of its
identities is therefore given (`Session.fresh_imports`).
-/

namespace SchemaGraph

namespace IdSupply

/-! ## Reading the bits -/

theorem digitChar_inj : ∀ a < 16, ∀ b < 16, Nat.digitChar a = Nat.digitChar b → a = b := by
  decide

theorem mod_eq_of_hexDigits_eq {count m n : Nat} (h : hexDigits count m = hexDigits count n) :
    m % 16 ^ count = n % 16 ^ count := by
  induction count generalizing m n with
  | zero => rw [Nat.pow_zero, Nat.mod_one, Nat.mod_one]
  | succ count ih =>
    obtain ⟨hinit, hlast⟩ := List.append_inj' h rfl
    have hdigit := digitChar_inj _ (Nat.mod_lt m (by decide)) _ (Nat.mod_lt n (by decide))
      (List.cons.inj hlast).1
    rw [Nat.pow_succ', Nat.mod_mul, Nat.mod_mul, hdigit, ih hinit]

/-- Identities differ if their free bits do. -/
theorem uuid_inj {m n : Nat} (hm : m < powerOfTwo freeBits) (hn : n < powerOfTwo freeBits)
    (h : uuid m = uuid n) : m = n := by
  simp only [uuid, List.append_assoc] at h
  obtain ⟨h₁, h⟩ := List.append_inj h (by simp only [length_hexDigits])
  obtain ⟨h₂, h⟩ := List.append_inj (List.append_cancel_left h) (by simp only [length_hexDigits])
  obtain ⟨h₃, h⟩ := List.append_inj (List.append_cancel_left h) (by simp only [length_hexDigits])
  obtain ⟨h₄, h⟩ := List.append_inj (List.append_cancel_left h) (by simp only [length_hexDigits])
  obtain ⟨h₅, h⟩ := List.append_inj h (by simp only [length_hexDigits])
  have h₁ := mod_eq_of_hexDigits_eq h₁
  have h₂ := mod_eq_of_hexDigits_eq h₂
  have h₃ := mod_eq_of_hexDigits_eq h₃
  have h₄ := mod_eq_of_hexDigits_eq h₄
  have h₅ := mod_eq_of_hexDigits_eq h₅
  have h₆ := mod_eq_of_hexDigits_eq (List.append_cancel_left h)
  -- Together the groups have all 122 bits.
  simp only [powerOfTwo, freeBits, Nat.pow_eq, Nat.reducePow] at *
  omega

/-! ## Draws in order -/

/-- The supply after more draws. -/
def after (s : IdSupply) (draws : Nat) : IdSupply := { s with issued := s.issued + draws }

theorem after_draw (s : IdSupply) (draws : Nat) : s.draw.2.after draws = s.after (draws + 1) := by
  rw [after, after, draw, Nat.add_assoc, Nat.add_comm 1]

theorem coprime_stride : Nat.Coprime (powerOfTwo freeBits) stride :=
  Nat.Coprime.pow_left freeBits (Nat.coprime_two_left.2 (Nat.odd_iff.2 stride_odd))

/-- **No identity comes twice** before all have come. -/
theorem eq_of_draw_eq {s : IdSupply} {i j : Nat} (hi : i < powerOfTwo freeBits)
    (hj : j < powerOfTwo freeBits) (h : (s.after i).draw.1 = (s.after j).draw.1) : i = j := by
  have hpos : 0 < powerOfTwo freeBits := Nat.zero_lt_of_lt hi
  have huuid := String.ofList_inj.1 (String.append_right_inj _ |>.1 (TableId.mk.inj h))
  have hbits : (s.after i).nextBits = (s.after j).nextBits :=
    uuid_inj (Nat.mod_lt _ hpos) (Nat.mod_lt _ hpos) huuid
  have hsteps : (s.issued + i) * stride ≡ (s.issued + j) * stride [MOD powerOfTwo freeBits] :=
    Nat.ModEq.add_left_cancel' s.seed hbits
  have hcount := Nat.ModEq.add_left_cancel' s.issued
    (Nat.ModEq.cancel_right_of_coprime coprime_stride hsteps)
  exact hcount.eq_of_lt_of_lt hi hj

end IdSupply

/-! ## Imports -/

variable {K : Type} [Scalar K]

/-- Definitions are given identities in the order of the draws. -/
theorem Table.ids_ofDefinitions (ids : IdSupply) (ds : List TableDefinition) :
    (ofDefinitions (K := K) ids ds).1.map (·.id)
      = (List.range ds.length).map fun k => (ids.after k).draw.1 := by
  induction ds generalizing ids with
  | nil => rfl
  | cons d ds ih =>
    have hrest : (List.range ds.length).map (fun k => (ids.draw.2.after k).draw.1)
        = (List.range ds.length).map ((fun k => (ids.after k).draw.1) ∘ Nat.succ) :=
      List.map_congr_left fun k _ => by rw [ids.after_draw k, Function.comp_apply]
    rw [List.length_cons, List.range_succ_eq_map, List.map_cons, List.map_map, ← hrest]
    exact congrArg (ids.draw.1 :: ·) (ih ids.draw.2)

theorem Table.nodup_ofDefinitions (ids : IdSupply) {ds : List TableDefinition}
    (h : ds.length ≤ powerOfTwo IdSupply.freeBits) :
    ((ofDefinitions (K := K) ids ds).1.map (·.id)).Nodup := by
  rw [ids_ofDefinitions]
  refine List.Nodup.map_on (fun i hi j hj heq => ?_) List.nodup_range
  exact IdSupply.eq_of_draw_eq (Nat.lt_of_lt_of_le (List.mem_range.1 hi) h)
    (Nat.lt_of_lt_of_le (List.mem_range.1 hj) h) heq

/-- The identities of an import are new, unless the script has more tables than there are
identities. -/
theorem Session.fresh_imports {s : Session K} {text : String}
    (h : ∀ script, Sql.readScript s.workspace.dialect text = .ok script →
      script.definitions.length ≤ powerOfTwo IdSupply.freeBits) (ticket : UInt32) :
    s.Fresh (.finishImport ticket text) ∧ s.Fresh (.importScript text) :=
  ⟨fun script hread => Table.nodup_ofDefinitions _ (h script hread),
    fun script hread => Table.nodup_ofDefinitions _ (h script hread)⟩

end SchemaGraph
