import Mathlib.Data.List.Basic
import SchemaGraph.Json.Reader
import SchemaGraph.Json.Writer

/-!
# JSON that is read back

A value is legible if its text, whatever comes after it, is read as the value again. Texts are
legible whatever characters they hold, and so are arrays and records of legible values; numbers are
as far as their decimals are read back, which is not so for all of them. A legible value is what its
text holds (`Value.ofText?_compact`).
-/

namespace SchemaGraph.Json

/-! ## Numbers -/

/-- A text that does not continue a number before it. -/
def EndsNumber (after : List Char) : Prop :=
  ∀ c ∈ after.head?, c.isDigit = false ∧ c ≠ '.' ∧ c ≠ 'e' ∧ c ≠ 'E'

theorem endsNumber_nil : EndsNumber [] := by simp [EndsNumber]

theorem endsNumber_cons {c : Char} {cs : List Char}
    (h : c.isDigit = false ∧ c ≠ '.' ∧ c ≠ 'e' ∧ c ≠ 'E') : EndsNumber (c :: cs) := by
  intro d hd
  cases hd
  exact h

section
variable {cs after left : List Char}

theorem EndsNumber.takeWhile_append (h : EndsNumber after) (cs : List Char) :
    (cs ++ after).takeWhile Char.isDigit = cs.takeWhile Char.isDigit := by
  induction cs with
  | nil =>
    cases after with
    | nil => rfl
    | cons c rest => exact List.takeWhile_cons_of_neg (by simp [(h c rfl).1])
  | cons c cs ih => simp only [List.cons_append, List.takeWhile_cons, ih]

theorem EndsNumber.dropWhile_append (h : EndsNumber after) (cs : List Char) :
    (cs ++ after).dropWhile Char.isDigit = cs.dropWhile Char.isDigit ++ after := by
  induction cs with
  | nil =>
    cases after with
    | nil => rfl
    | cons c rest => exact List.dropWhile_cons_of_neg (by simp [(h c rfl).1])
  | cons c cs ih =>
    simp only [List.cons_append, List.dropWhile_cons, ih]
    split <;> rfl

theorem digits?_append (h : EndsNumber after) {digits : List Char}
    (hread : digits? cs = some (digits, left)) :
    digits? (cs ++ after) = some (digits, left ++ after) := by
  unfold digits? at hread ⊢
  rw [h.takeWhile_append, h.dropWhile_append]
  dsimp only at hread ⊢
  split at hread
  · cases hread
  · rename_i hsome
    rw [if_neg hsome]
    cases hread
    rfl

theorem wholeDigits?_append (h : EndsNumber after) {digits : List Char}
    (hread : wholeDigits? cs = some (digits, left)) :
    wholeDigits? (cs ++ after) = some (digits, left ++ after) := by
  unfold wholeDigits? at hread
  split at hread
  · rename_i rest
    have hhead : (rest ++ after).head?.any Char.isDigit = rest.head?.any Char.isDigit := by
      cases rest with
      | nil =>
        cases after with
        | nil => rfl
        | cons c cs => simp [(h c rfl).1]
      | cons c cs => rfl
    split at hread
    · cases hread
    · rename_i hdigit
      cases hread
      simp only [wholeDigits?, List.cons_append, hhead, hdigit, Bool.false_eq_true, if_false]
  · rename_i hzero
    have hread' := digits?_append h hread
    cases cs with
    | nil => cases hread
    | cons c cs =>
      have hne : c ≠ '0' := fun hc => hzero cs (by rw [hc])
      unfold wholeDigits?
      split
      · rename_i heq
        exact absurd (List.cons.inj heq).1 hne
      · exact hread'

theorem fractionDigits?_append (h : EndsNumber after) {digits : Option (List Char)}
    (hread : fractionDigits? cs = some (digits, left)) :
    fractionDigits? (cs ++ after) = some (digits, left ++ after) := by
  unfold fractionDigits? at hread
  split at hread
  · rename_i rest
    obtain ⟨⟨found, others⟩, hdigits, heq⟩ := Option.map_eq_some_iff.1 hread
    cases heq
    simp only [fractionDigits?, List.cons_append, digits?_append h hdigits, Option.map_some]
  · rename_i hpoint
    cases hread
    unfold fractionDigits?
    split
    · rename_i rest heq
      cases cs with
      | nil =>
        rw [List.nil_append] at heq
        exact absurd rfl (h '.' (heq ▸ rfl)).2.1
      | cons c cs => exact absurd (by rw [(List.cons.inj heq).1]) (hpoint cs)
    · rfl

theorem exponentSign_append {c : Char} (cs after : List Char) :
    exponentSign (c :: cs ++ after)
      = ((exponentSign (c :: cs)).1, (exponentSign (c :: cs)).2 ++ after) := by
  by_cases hminus : c = '-'
  · rw [hminus]
    rfl
  by_cases hplus : c = '+'
  · rw [hplus]
    rfl
  · simp [exponentSign, hminus, hplus]

theorem exponent?_append (h : EndsNumber after) {exponent : Option Int}
    (hread : exponent? cs = some (exponent, left)) :
    exponent? (cs ++ after) = some (exponent, left ++ after) := by
  cases cs with
  | nil =>
    cases hread
    cases after with
    | nil => rfl
    | cons c rest =>
      obtain ⟨-, -, hlower, hupper⟩ := h c rfl
      simp [exponent?, hlower, hupper]
  | cons c rest =>
    unfold exponent? at hread ⊢
    dsimp only [List.cons_append] at hread ⊢
    split at hread
    · rename_i hletter
      rw [if_pos hletter]
      cases rest with
      | nil => cases hread
      | cons sign digits =>
        rw [exponentSign_append]
        obtain ⟨read, hdigits, heq⟩ := Option.map_eq_some_iff.1 hread
        cases heq
        exact Option.map_eq_some_iff.2 ⟨_, digits?_append h hdigits, rfl⟩
    · rename_i hletter
      rw [if_neg hletter]
      cases hread
      rfl

theorem unsigned?_append (h : EndsNumber after) {negative : Bool} {v : Value}
    (hread : unsigned? negative cs = some (v, left)) :
    unsigned? negative (cs ++ after) = some (v, left ++ after) := by
  unfold unsigned? at hread ⊢
  obtain ⟨⟨whole, cs₁⟩, hwhole, hread⟩ := Option.bind_eq_some_iff.1 hread
  obtain ⟨⟨fraction, cs₂⟩, hfraction, hread⟩ := Option.bind_eq_some_iff.1 hread
  obtain ⟨⟨exponent, cs₃⟩, hexponent, hread⟩ := Option.bind_eq_some_iff.1 hread
  simp only [wholeDigits?_append h hwhole, fractionDigits?_append h hfraction,
    exponent?_append h hexponent, Option.bind_eq_bind, Option.bind_some]
  dsimp only at hread ⊢
  split at hread
  · rename_i hint
    cases hread
    rw [if_pos hint]
    rfl
  · rename_i hint
    cases hread
    rw [if_neg hint]
    rfl

/-- A number that is read from a whole text is read from it whatever comes after. -/
theorem number?_append (h : EndsNumber after) {v : Value} (hread : number? cs = some (v, left)) :
    number? (cs ++ after) = some (v, left ++ after) := by
  cases cs with
  | nil => cases hread
  | cons c cs =>
    by_cases hminus : c = '-'
    · subst hminus
      exact unsigned?_append h hread
    · have hsign : ∀ rest, number? (c :: rest) = unsigned? false (c :: rest) := by
        intro rest
        simp [number?, hminus]
      rw [hsign] at hread
      rw [List.cons_append, hsign, ← List.cons_append]
      exact unsigned?_append h hread

/-- A number begins with its sign or with a digit. -/
theorem exists_of_number? {v : Value} (hread : number? cs = some (v, left)) :
    ∃ c rest, cs = c :: rest ∧ (c = '-' ∨ c.isDigit = true) := by
  cases cs with
  | nil => cases hread
  | cons c rest =>
    refine ⟨c, rest, rfl, ?_⟩
    by_cases hminus : c = '-'
    · exact Or.inl hminus
    refine Or.inr (by_contra fun hdigit => ?_)
    have hzero : c ≠ '0' := by
      rintro rfl
      exact hdigit rfl
    simp [number?, hminus, unsigned?, wholeDigits?, hzero, digits?, hdigit] at hread

end

section
open Float.Model

theorem toNat_unpackExponent (b : BitVec 64) :
    (@UnpackedFloat.unpackExponent Format.binary64 b).toNat
      = b.toNat / powerOfTwo 52 % powerOfTwo 11 := by
  simp [UnpackedFloat.unpackExponent, Format.binary64, Nat.shiftRight_eq_div_pow, powerOfTwo]

theorem isFinite_unpack {b : BitVec 64}
    (h : @UnpackedFloat.unpackExponent Format.binary64 b ≠ -1#11) :
    (UnpackedFloat.unpack Format.binary64 b).isFinite = true := by
  delta UnpackedFloat.unpack
  dsimp only
  rw [if_neg h]
  by_cases hexponent : @UnpackedFloat.unpackExponent Format.binary64 b = 0#11
  · rw [if_pos hexponent]
    by_cases hmantissa : @UnpackedFloat.unpackMantissa Format.binary64 b = 0#52
    · rw [dif_pos hmantissa]
      rfl
    · rw [dif_neg hmantissa]
      rfl
  · rw [if_neg hexponent]
    rfl

/-- Every bit of the exponent is set in a number that is not finite. -/
theorem biased_of_not_isFinite {x : Float} (h : ¬x.isFinite = true) :
    x.toBits.toNat / powerOfTwo Decimal.storedBits % powerOfTwo 11 = 2047 := by
  have hones : @UnpackedFloat.unpackExponent Format.binary64 x.toModel.toBits.toBitVec = -1#11 :=
    by_contra fun hne => h (isFinite_unpack hne)
  exact (toNat_unpackExponent _).symm.trans (congrArg BitVec.toNat hones)

end

theorem isFinite_of_dataText? {x : Float} {s : String} (h : Decimal.dataText? x = some s) :
    x.isFinite = true := by
  by_contra hx
  unfold Decimal.dataText? Decimal.partsOf Decimal.partsOfBits at h
  simp only [biased_of_not_isFinite hx, if_true] at h
  split at h
  · rename_i heq
    split at heq
    · cases heq
    · cases heq
  · cases h

theorem eq_of_toBits {x y : Float} (h : x.toBits = y.toBits) : x = y := by
  obtain ⟨⟨a, ha⟩⟩ := x
  obtain ⟨⟨b, hb⟩⟩ := y
  cases (show a = b from h)
  rfl

/-- The text that is written for the number is read as the number again. -/
def readsBack (x : Float) : Bool :=
  match number? (floatText x).toList with
  | some (.float y, []) => y.toBits == x.toBits
  | _ => false

theorem number?_of_readsBack {x : Float} (h : readsBack x = true) :
    number? (floatText x).toList = some (.float x, []) := by
  unfold readsBack at h
  split at h
  · rename_i y heq
    rw [heq, eq_of_toBits (eq_of_beq h)]
  · cases h

/-- What is written for a number that is not finite is no number. -/
theorem isFinite_of_readsBack {x : Float} (h : readsBack x = true) : x.isFinite = true := by
  cases htext : Decimal.dataText? x with
  | some s => exact isFinite_of_dataText? htext
  | none =>
    have hread := number?_of_readsBack h
    rw [floatText, htext] at hread
    cases hread

/-! ## Strings -/

theorem hexUnit?_control :
    ∀ n < 32, hexUnit? '0' '0' (Nat.digitChar (n / 16)) (Nat.digitChar (n % 16)) = some n := by
  decide

/-- A character is one piece of a string, whatever way it is escaped. -/
theorem stringPieces_escapeChar (c : Char) (rest : List Char) :
    stringPieces (escapeChar c ++ rest) = withPiece (.char c) (stringPieces rest) := by
  unfold escapeChar
  split
  -- seven characters have an escape of their own, and the reader undoes it by computation
  any_goals rfl
  rename_i hquote hslash _ _ _ _ _
  split
  · rename_i hcontrol
    have hhalf : ¬(0xD800 ≤ c.toNat ∧ c.toNat ≤ 0xDFFF) := by omega
    simp only [List.cons_append, List.nil_append, stringPieces, hexUnit?_control c.toNat hcontrol,
      unitPiece]
    simp [hhalf, Char.ofNat_toNat]
  · rename_i hcontrol
    rw [List.cons_append, List.nil_append, stringPieces]
    · rw [if_neg hcontrol]
    · simpa using hquote
    · intro _ _ _ _ _ hc
      exact absurd hc hslash
    · intro _ _ hc
      exact absurd hc hslash

theorem stringPieces_escaped (cs rest : List Char) :
    stringPieces (cs.flatMap escapeChar ++ '"' :: rest) = some (cs.map .char, rest) := by
  induction cs with
  | nil => rfl
  | cons c cs ih =>
    rw [List.flatMap_cons, List.append_assoc, stringPieces_escapeChar, ih]
    rfl

theorem pieceText?_chars (cs : List Char) : pieceText? (cs.map .char) = some cs := by
  induction cs with
  | nil => rfl
  | cons c cs ih => simp only [List.map_cons, pieceText?, ih, Option.map_some]

/-- A string that is written is read back, whatever characters it holds. -/
theorem string?_escaped (s : String) (rest : List Char) :
    string? (s.toList.flatMap escapeChar ++ '"' :: rest) = some (some s, rest) := by
  simp only [string?, stringPieces_escaped, Option.map_some, pieceText?_chars, String.ofList_toList]

theorem toList_quote (s : String) :
    (quote s).toList = '"' :: (s.toList.flatMap escapeChar ++ ['"']) := by
  simp [quote]

/-! ## Values -/

theorem skipBlank_cons {c : Char} (h : c ≠ ' ' ∧ c ≠ '\n' ∧ c ≠ '\t' ∧ c ≠ '\r') (cs : List Char) :
    skipBlank (c :: cs) = c :: cs := by
  simp [skipBlank, h]

/-- Whatever comes after the text of the value, the value is read from it. Twice the length of the
text is enough fuel: a list costs a step for each of its entries and one for itself, and each entry
has a comma or a bracket after it. -/
def Value.Legible (v : Value) : Prop :=
  ∀ fuel after, 2 * v.compact.toList.length ≤ fuel → EndsNumber after →
    value? fuel (v.compact.toList ++ after) = some (v, after)

theorem legible_text (s : String) : (Value.text s).Legible := by
  intro fuel after hfuel _
  have htext : (Value.text s).compact.toList = '"' :: (s.toList.flatMap escapeChar ++ ['"']) := by
    simp only [Value.compact, scalarText, toList_quote]
  rw [htext] at hfuel ⊢
  obtain ⟨fuel, rfl⟩ : ∃ n, fuel = n + 1 :=
    Nat.exists_eq_add_one.2 (by rw [List.length_cons] at hfuel; omega)
  rw [List.cons_append, List.append_assoc, value?, skipBlank_cons (by decide)]
  simp only [List.cons_append, List.nil_append, string?_escaped, Option.map_some]

theorem legible_bool (b : Bool) : (Value.bool b).Legible := by
  intro fuel after hfuel _
  obtain ⟨fuel, rfl⟩ : ∃ n, fuel = n + 1 :=
    Nat.exists_eq_add_one.2 (by cases b <;> simp [Value.compact, scalarText] at hfuel <;> omega)
  cases b with
  | false => rfl
  | true => rfl

/-- What begins like a number is read as one. -/
theorem value?_numeral {c : Char} (hc : c = '-' ∨ c.isDigit = true) (fuel : Nat)
    (cs : List Char) : value? (fuel + 1) (c :: cs) = number? (c :: cs) := by
  have hne : ∀ d : Char, d ≠ '-' → d.isDigit = false → c ≠ d := by
    rintro d hd hdigit rfl
    rcases hc with hc | hc
    · exact hd hc
    · simp [hdigit] at hc
  rw [value?, skipBlank_cons ⟨hne _ (by decide) rfl, hne _ (by decide) rfl,
    hne _ (by decide) rfl, hne _ (by decide) rfl⟩]
  simp [hne '"' (by decide) rfl, hne '[' (by decide) rfl, hne '\x7b' (by decide) rfl, hc]

theorem legible_float {x : Float} (h : readsBack x = true) : (Value.float x).Legible := by
  intro fuel after hfuel hafter
  have hread := number?_of_readsBack h
  obtain ⟨c, rest, hcs, hc⟩ := exists_of_number? hread
  simp only [Value.compact, scalarText] at hfuel ⊢
  rw [hcs] at hread hfuel ⊢
  obtain ⟨fuel, rfl⟩ : ∃ n, fuel = n + 1 :=
    Nat.exists_eq_add_one.2 (by rw [List.length_cons] at hfuel; omega)
  rw [List.cons_append, value?_numeral hc, ← List.cons_append]
  exact number?_append hafter hread

/-! ### Arrays and records -/

theorem compactItems_eq_map (vs : List Value) : compactItems vs = vs.map (·.compact) := by
  induction vs with
  | nil => rfl
  | cons v vs ih => rw [compactItems, ih, List.map_cons]

theorem compactMembers_eq_map (ms : List (String × Value)) :
    compactMembers (ms.map fun m => (some m.1, m.2))
      = ms.map fun m => quote m.1 ++ ":" ++ m.2.compact := by
  induction ms with
  | nil => rfl
  | cons m ms ih =>
    rw [List.map_cons, compactMembers, ih, List.map_cons]
    rfl

/-- A key and its value. -/
def memberChars (m : String × Value) : List Char :=
  '"' :: (m.1.toList.flatMap escapeChar ++ '"' :: ':' :: m.2.compact.toList)

theorem toList_compact_array (vs : List Value) :
    (Value.array vs).compact.toList
      = '[' :: ([','].intercalate (vs.map (·.compact.toList)) ++ [']']) := by
  simp [Value.compact, compactItems_eq_map, String.toList_intercalate, Function.comp_def]

theorem toList_compact_record (ms : List (String × Value)) :
    (Value.record ms).compact.toList
      = '\x7b' :: ([','].intercalate (ms.map memberChars) ++ ['\x7d']) := by
  have hmember : ∀ m : String × Value,
      (quote m.1 ++ ":" ++ m.2.compact).toList = memberChars m := by
    simp [memberChars, toList_quote]
  simp only [Value.record, Value.compact, compactMembers_eq_map, String.toList_append,
    String.toList_intercalate, List.map_map, Function.comp_def, hmember]
  rfl

theorem intercalate_map_cons_cons {α : Type} (f : α → List Char) (a b : α) (rest : List α) :
    [','].intercalate ((a :: b :: rest).map f)
      = f a ++ ',' :: [','].intercalate ((b :: rest).map f) := by
  rw [List.map_cons, List.map_cons, List.intercalate_cons_cons, List.append_assoc]
  rfl

/-- No item begins with a closing bracket. -/
theorem items?_closing {cs rest : List Char} (h : skipBlank cs = ']' :: rest) (fuel : Nat) :
    items? fuel cs = none := by
  have hvalue : ∀ fuel, value? fuel cs = none
    | 0 => rfl
    | fuel + 1 => by rw [value?, h]; rfl
  cases fuel with
  | zero => rfl
  | succ fuel => rw [items?, hvalue]

theorem items?_of_legible {v : Value} {vs : List Value} (h : ∀ w ∈ v :: vs, w.Legible)
    {fuel : Nat} (after : List Char)
    (hfuel : 2 * ([','].intercalate ((v :: vs).map (·.compact.toList))).length < fuel) :
    items? fuel ([','].intercalate ((v :: vs).map (·.compact.toList)) ++ ']' :: after)
      = some (v :: vs, after) := by
  induction vs generalizing v fuel with
  | nil =>
    obtain ⟨fuel, rfl⟩ : ∃ n, fuel = n + 1 := Nat.exists_eq_add_one.2 (by omega)
    rw [List.map_singleton, List.intercalate_singleton] at hfuel ⊢
    rw [items?, h v List.mem_cons_self fuel _ (by omega) (endsNumber_cons (by decide))]
    rfl
  | cons w ws ih =>
    obtain ⟨fuel, rfl⟩ : ∃ n, fuel = n + 1 := Nat.exists_eq_add_one.2 (by omega)
    rw [intercalate_map_cons_cons] at hfuel ⊢
    rw [List.length_append, List.length_cons] at hfuel
    rw [List.append_assoc, List.cons_append, items?,
      h v List.mem_cons_self fuel _ (by omega) (endsNumber_cons (by decide))]
    have hmore := ih (fun u hu => h u (List.mem_cons_of_mem _ hu)) (by omega : _ < fuel)
    dsimp only
    rw [skipBlank_cons (by decide)]
    exact congrArg (Option.map fun read => (v :: read.1, read.2)) hmore

theorem legible_array {vs : List Value} (h : ∀ v ∈ vs, v.Legible) : (Value.array vs).Legible := by
  intro fuel after hfuel _
  rw [toList_compact_array] at hfuel ⊢
  rw [List.length_cons, List.length_append] at hfuel
  obtain ⟨fuel, rfl⟩ : ∃ n, fuel = n + 1 := Nat.exists_eq_add_one.2 (by omega)
  rw [List.cons_append, List.append_assoc, value?, skipBlank_cons (by decide)]
  cases vs with
  | nil => rfl
  | cons v vs =>
    have hitems := items?_of_legible h after (by omega : _ < fuel)
    simp only [List.cons_append, List.nil_append]
    split
    · rename_i hclosing
      rw [items?_closing hclosing] at hitems
      cases hitems
    · rw [hitems]
      rfl

theorem memberChars_append (m : String × Value) (rest : List Char) :
    memberChars m ++ rest
      = '"' :: (m.1.toList.flatMap escapeChar ++ '"' :: ':' :: (m.2.compact.toList ++ rest)) := by
  simp only [memberChars, List.cons_append, List.append_assoc]

theorem length_compact_le (m : String × Value) :
    m.2.compact.toList.length ≤ (memberChars m).length := by
  simp only [memberChars, List.length_cons, List.length_append]
  omega

section
variable {m : String × Value} {fuel : Nat}

theorem members?_last (h : m.2.Legible) (hfuel : 2 * (memberChars m).length ≤ fuel)
    (after : List Char) :
    members? (fuel + 1) (memberChars m ++ '\x7d' :: after)
      = some ([(some m.1, m.2)], after) := by
  have hlength := length_compact_le m
  have hvalue := h fuel ('\x7d' :: after) (by omega) (endsNumber_cons (by decide))
  rw [memberChars_append, members?, skipBlank_cons (by decide)]
  simp only [string?_escaped]
  rw [skipBlank_cons (by decide)]
  simp only [hvalue]
  rw [skipBlank_cons (by decide)]
  rfl

theorem members?_more (h : m.2.Legible) (hfuel : 2 * (memberChars m).length ≤ fuel)
    (rest : List Char) :
    members? (fuel + 1) (memberChars m ++ ',' :: rest)
      = (members? fuel rest).map fun read => ((some m.1, m.2) :: read.1, read.2) := by
  have hlength := length_compact_le m
  have hvalue := h fuel (',' :: rest) (by omega) (endsNumber_cons (by decide))
  rw [memberChars_append, members?, skipBlank_cons (by decide)]
  simp only [string?_escaped]
  rw [skipBlank_cons (by decide)]
  simp only [hvalue]
  rw [skipBlank_cons (by decide)]
  rfl

end

theorem members?_of_legible {m : String × Value} {ms : List (String × Value)}
    (h : ∀ n ∈ m :: ms, n.2.Legible) {fuel : Nat} (after : List Char)
    (hfuel : 2 * ([','].intercalate ((m :: ms).map memberChars)).length < fuel) :
    members? fuel ([','].intercalate ((m :: ms).map memberChars) ++ '\x7d' :: after)
      = some ((m :: ms).map fun n => (some n.1, n.2), after) := by
  induction ms generalizing m fuel with
  | nil =>
    obtain ⟨fuel, rfl⟩ : ∃ n, fuel = n + 1 := Nat.exists_eq_add_one.2 (by omega)
    rw [List.map_singleton, List.intercalate_singleton] at hfuel ⊢
    exact members?_last (h m List.mem_cons_self) (by omega) after
  | cons n ns ih =>
    obtain ⟨fuel, rfl⟩ : ∃ n, fuel = n + 1 := Nat.exists_eq_add_one.2 (by omega)
    rw [intercalate_map_cons_cons] at hfuel ⊢
    rw [List.length_append, List.length_cons] at hfuel
    rw [List.append_assoc, List.cons_append,
      members?_more (h m List.mem_cons_self) (by omega),
      ih (fun k hk => h k (List.mem_cons_of_mem _ hk)) (by omega)]
    rfl

theorem legible_record {ms : List (String × Value)} (h : ∀ m ∈ ms, m.2.Legible) :
    (Value.record ms).Legible := by
  intro fuel after hfuel _
  rw [toList_compact_record] at hfuel ⊢
  rw [List.length_cons, List.length_append] at hfuel
  obtain ⟨fuel, rfl⟩ : ∃ n, fuel = n + 1 := Nat.exists_eq_add_one.2 (by omega)
  rw [List.cons_append, List.append_assoc, value?, skipBlank_cons (by decide)]
  cases ms with
  | nil => rfl
  | cons m ms =>
    have hmembers := members?_of_legible h after (by omega : _ < fuel)
    obtain ⟨rest, hrest⟩ : ∃ rest,
        [','].intercalate ((m :: ms).map memberChars) ++ '\x7d' :: after = '"' :: rest := by
      cases ms with
      | nil => exact ⟨_, rfl⟩
      | cons n ns =>
        rw [intercalate_map_cons_cons]
        exact ⟨_, rfl⟩
    rw [hrest] at hmembers
    simp only [List.cons_append, List.nil_append]
    rw [hrest, skipBlank_cons (by decide), hmembers]
    rfl

/-- A legible value is what its text holds. -/
theorem Value.ofText?_compact {v : Value} (h : v.Legible) : Value.ofText? v.compact = some v := by
  have hread := h (2 * v.compact.toList.length + 2) [] (by omega) endsNumber_nil
  rw [List.append_nil] at hread
  simp only [Value.ofText?, hread]
  rfl

end SchemaGraph.Json
