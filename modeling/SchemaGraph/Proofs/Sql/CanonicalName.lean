import SchemaGraph.Proofs.Sql.TypeForm

/-!
# Normalizing a type name twice

What a declared type is reduced to is in capitals, has no parentheses, and keeps single spaces
between its words (`Reduced`). A second reduction therefore leaves it as it is, unless an alias
occurs in it that did not occur in the declaration: dropping the arguments may bring two words
together that only then make up the alias. This is the one way in which a canonical name may fail to
be canonical (`normalizeType_twice`).
-/

namespace SchemaGraph.Text

/-! ## Capitals of capitals -/

namespace CaseRun

/-- The capital of the first letter. -/
def firstCapital (r : CaseRun) : Nat := (r.first + r.shift).toNat

/-- The capital of the last letter. -/
def lastCapital (r : CaseRun) : Nat := (r.last + r.shift).toNat

/-- No capital of `r` is a letter of `q`: they lie apart, or between the letters of `q`. -/
def misses (r q : CaseRun) : Bool :=
  Nat.blt r.lastCapital q.first || Nat.blt q.last r.firstCapital ||
    (q.step == 2 && (r.step == 2 || r.first == r.last) &&
      (r.firstCapital + q.first) % 2 == 1)

theorem holds_eq_false_of_misses {r q : CaseRun} (h : r.misses q = true)
    (hr : 0 ≤ r.first + r.shift) {n : Nat} (hn : r.holds n = true) :
    q.holds (n + r.shift).toNat = false := by
  rw [← Bool.not_eq_true]
  intro hq
  simp only [holds, misses, firstCapital, lastCapital, Nat.blt_eq, Bool.and_eq_true,
    Bool.or_eq_true, decide_eq_true_eq, beq_iff_eq] at h hn hq
  obtain ⟨⟨hfirst, hlast⟩, hstep⟩ := hn
  obtain ⟨⟨hqfirst, hqlast⟩, hqstep⟩ := hq
  rcases h with (h | h) | ⟨⟨htwo, hsteps⟩, hodd⟩
  · omega
  · omega
  · rw [htwo] at hqstep
    rcases hsteps with hsteps | hsingle
    · rw [hsteps] at hstep
      omega
    · omega

end CaseRun

/-- A run of one letter. Its step is that of letters which alternate with their capitals. -/
def CaseRun.single (n : Nat) : CaseRun := ⟨n, n, 2, 0⟩

theorem CaseRun.holds_single (n : Nat) : (single n).holds n = true := by simp [holds, single]

theorem caseRuns_miss : ∀ r ∈ caseRuns, caseRuns.all r.misses = true := by decide +kernel

theorem caseRuns_miss_long :
    ∀ r ∈ caseRuns, (longCapitals.all fun p => r.misses (.single p.1)) = true := by decide +kernel

/-- No character but those of the tables has a capital of its own. -/
theorem capital_eq_self {c : Char} (hascii : 128 ≤ c.toNat)
    (hlong : ∀ p ∈ longCapitals, p.1 ≠ c.toNat) (hruns : ∀ r ∈ caseRuns, r.holds c.toNat = false) :
    capital c = [c] := by
  have hnone : longCapitals.find? (fun p => p.1 == c.toNat) = none := by
    simpa [List.find?_eq_none] using hlong
  have hnone' : caseRuns.find? (·.holds c.toNat) = none := by
    simpa [List.find?_eq_none] using hruns
  simp only [capital, hnone, hnone']
  rw [if_neg (by omega)]

/-- The capital of a letter of a run is its own capital. -/
theorem capital_of_holds {r : CaseRun} (hr : r ∈ caseRuns) {n : Nat} (hn : r.holds n = true) :
    capital (Char.ofNat (n + r.shift).toNat) = [Char.ofNat (n + r.shift).toNat] := by
  have hfirst : ∀ r ∈ caseRuns, 0 ≤ r.first + r.shift := by decide +kernel
  have hsmall : ∀ r ∈ caseRuns, r.first + r.shift < 128 → r.first = r.last ∧
      capital (Char.ofNat (r.first + r.shift).toNat) = [Char.ofNat (r.first + r.shift).toNat] := by
    decide +kernel
  have hmiss := List.all_eq_true.1 (caseRuns_miss r hr)
  have hmissLong := List.all_eq_true.1 (caseRuns_miss_long r hr)
  have hbounds : r.first ≤ n ∧ n ≤ r.last := by
    simp only [CaseRun.holds, Bool.and_eq_true, decide_eq_true_eq] at hn
    exact hn.1
  by_cases hlow : r.first + r.shift < 128
  · obtain ⟨hsingle, hcapital⟩ := hsmall r hr hlow
    have hn : n = r.first := by omega
    rw [hn]
    exact hcapital
  rcases Sql.toNat_ofNat (n + r.shift).toNat with hval | hval
  · refine capital_eq_self (by omega) (fun p hp heq => ?_) fun q hq => ?_
    · have hmissed := CaseRun.holds_eq_false_of_misses (hmissLong p hp) (hfirst r hr) hn
      rw [← hval, ← heq, CaseRun.holds_single] at hmissed
      cases hmissed
    · rw [hval]
      exact CaseRun.holds_eq_false_of_misses (hmiss q hq) (hfirst r hr) hn
  · rw [Sql.capital_of_ascii (by omega)]
    have hnul : Char.ofNat (n + r.shift).toNat = '\x00' := Char.toNat_inj.1 hval
    rw [hnul]
    rfl

/-- What a character becomes in capitals stays as it is. -/
theorem capital_of_mem_capital {c d : Char} (h : d ∈ capital c) : capital d = [d] := by
  have hlong : ∀ p ∈ longCapitals, ∀ n ∈ p.2, capital (Char.ofNat n) = [Char.ofNat n] := by
    decide +kernel
  by_cases hascii : c.toNat < 128
  · have hupper : ∀ c : Char, c.toNat < 128 → capital c.toUpper = [c.toUpper] := fun c hc =>
      Sql.ascii_cases (P := fun c => capital c.toUpper = [c.toUpper]) (by decide +kernel) hc
    rw [Sql.capital_of_ascii hascii, List.mem_singleton] at h
    rw [h]
    exact hupper c hascii
  · rw [capital, if_neg hascii] at h
    split at h
    · rename_i n codes hfind
      obtain ⟨code, hcode, rfl⟩ := List.mem_map.1 h
      exact hlong _ (List.mem_of_find?_eq_some hfind) code hcode
    · split at h
      · rename_i r hfind
        rw [List.mem_singleton] at h
        rw [h]
        have hholds : r.holds c.toNat = true := by simpa using List.find?_some hfind
        exact capital_of_holds (List.mem_of_find?_eq_some hfind) hholds
      · rename_i hnone _ hnone'
        rw [List.mem_singleton] at h
        simp only [h, capital, if_neg hascii, hnone, hnone']

/-- A text of capitals is the same in capitals. -/
theorem upper_eq_self {cs : List Char} (h : ∀ c ∈ cs, capital c = [c]) : upper cs = cs := by
  induction cs with
  | nil => rfl
  | cons c cs ih =>
    rw [List.forall_mem_cons] at h
    have hcons : upper (c :: cs) = capital c ++ upper cs := List.flatMap_cons
    rw [hcons, h.1, ih h.2]
    rfl

end SchemaGraph.Text

namespace SchemaGraph.Sql

/-! ## What is left of a declaration -/

theorem dropGroups_sublist (depth : Nat) (cs : List Char) : (dropGroups depth cs).Sublist cs := by
  fun_induction dropGroups depth cs with
  | case1 => exact .slnil
  | case2 _ _ ih => exact ih.cons _
  | case3 _ _ _ ih => exact ih.cons _
  | case4 _ _ _ _ ih => exact ih.cons_cons _
  | case5 _ _ _ _ _ _ ih => exact ih.cons _

theorem isParen_of_mem_dropGroups {depth : Nat} {cs : List Char} :
    ∀ c ∈ dropGroups depth cs, isParen c = false := by
  fun_induction dropGroups depth cs with
  | case1 => simp
  | case2 _ _ ih => exact ih
  | case3 _ _ _ ih => exact ih
  | case4 c _ hl hr ih =>
    rw [List.forall_mem_cons]
    exact ⟨by simp [isParen, hl, hr], ih⟩
  | case5 _ _ _ _ _ _ ih => exact ih

theorem dropGroups_eq_self {cs : List Char} (h : ∀ c ∈ cs, isParen c = false) :
    dropGroups 0 cs = cs := by
  have hall := dropGroups_append h 0 []
  simpa [dropGroups] using hall

theorem mem_of_mem_squeezeAfter {gap : Bool} {cs : List Char} {c : Char}
    (h : c ∈ Text.squeezeAfter gap cs) : c ∈ cs ∨ c = ' ' := by
  fun_induction Text.squeezeAfter gap cs <;> grind

theorem mem_of_mem_squeeze {cs : List Char} {c : Char} (h : c ∈ Text.squeeze cs) :
    c ∈ cs ∨ c = ' ' := by
  rw [squeeze_eq_tail] at h
  exact mem_of_mem_squeezeAfter (List.mem_of_mem_tail h)

theorem attachBrackets_sublist (cs : List Char) : (attachBrackets cs).Sublist cs := by
  fun_induction attachBrackets cs with
  | case1 => exact .slnil
  | case2 c => exact List.Sublist.refl _
  | case3 c d rest _ ih => exact (ih.cons_cons d).cons c
  | case4 c d rest _ ih => exact ih.cons_cons c

/-- Once blanks are squeezed and brackets attached, both need not be done again. -/
theorem tidy_attachBrackets (gap : Bool) (cs : List Char) :
    Text.squeezeAfter false (attachBrackets (Text.squeezeAfter gap cs))
        = attachBrackets (Text.squeezeAfter gap cs) ∧
      attachBrackets (attachBrackets (Text.squeezeAfter gap cs))
        = attachBrackets (Text.squeezeAfter gap cs) := by
  induction cs generalizing gap with
  | nil => exact ⟨rfl, rfl⟩
  | cons c cs ih =>
    by_cases hb : Text.isBlank c = true
    · rw [Text.squeezeAfter, if_pos hb]
      exact ih true
    have hc : c ≠ ' ' := by
      rintro rfl
      exact hb Text.isBlank_space
    obtain ⟨hsqueeze, hattach⟩ := ih false
    rw [Text.squeezeAfter, if_neg hb]
    by_cases hspace : gap = true ∧ c ≠ '['
    · rw [if_pos hspace.1, attachBrackets, if_neg (by simp [hspace.2]), attachBrackets_cons hc]
      constructor
      · simp [Text.squeezeAfter, Text.isBlank_space, hb, hsqueeze]
      · rw [attachBrackets, if_neg (by simp [hspace.2]), attachBrackets_cons hc, hattach]
    · -- No space is left before the character: there was none, or a bracket took it.
      have hhead : attachBrackets
            (if gap = true then ' ' :: c :: Text.squeezeAfter false cs
              else c :: Text.squeezeAfter false cs)
          = c :: attachBrackets (Text.squeezeAfter false cs) := by
        by_cases hgap : gap = true
        · have hbracket : c = '[' := by simpa [hgap] using hspace
          rw [if_pos hgap, attachBrackets, if_pos (by simp [hbracket])]
        · rw [if_neg hgap, attachBrackets_cons hc]
      rw [hhead]
      constructor
      · simp [Text.squeezeAfter, hb, hsqueeze]
      · rw [attachBrackets_cons hc, hattach]

/-- A text that a second reduction leaves as it is, as far as no alias occurs in it. -/
structure Reduced (cs : List Char) : Prop where
  capitals : Text.upper cs = cs
  squeezed : Text.squeeze cs = cs
  stripped : stripArguments cs = cs

theorem squeeze_attachBrackets (cs : List Char) :
    Text.squeeze (attachBrackets (Text.squeeze cs)) = attachBrackets (Text.squeeze cs) ∧
      attachBrackets (attachBrackets (Text.squeeze cs)) = attachBrackets (Text.squeeze cs) := by
  cases hdrop : cs.dropWhile Text.isBlank with
  | nil =>
    have hnil : Text.squeeze cs = [] := by simp only [Text.squeeze, hdrop]
    rw [hnil]
    exact ⟨rfl, rfl⟩
  | cons c rest =>
    have hcons : Text.squeeze cs = c :: Text.squeezeAfter false rest := by
      simp only [Text.squeeze, hdrop]
    have hb : Text.isBlank c = false := by
      have hhead := List.head_dropWhile_not Text.isBlank (l := cs) (by simp [hdrop])
      simpa [hdrop] using hhead
    have hc : c ≠ ' ' := by
      rintro rfl
      rw [Text.isBlank_space] at hb
      cases hb
    obtain ⟨hsqueeze, hattach⟩ := tidy_attachBrackets false rest
    rw [hcons, attachBrackets_cons hc]
    constructor
    · rw [Text.squeeze, List.dropWhile_cons_of_neg (by simp [hb])]
      exact congrArg (c :: ·) hsqueeze
    · rw [attachBrackets_cons hc, hattach]

theorem reduced_stripArguments (cs : List Char) : Reduced (stripArguments (Text.upper cs)) := by
  obtain ⟨hsqueeze, hattach⟩ := squeeze_attachBrackets (dropGroups 0 (Text.upper cs))
  have hsource : ∀ c ∈ stripArguments (Text.upper cs),
      c ∈ dropGroups 0 (Text.upper cs) ∨ c = ' ' := fun c hc =>
    mem_of_mem_squeeze ((attachBrackets_sublist _).subset hc)
  have hcapital : ∀ c ∈ stripArguments (Text.upper cs), Text.capital c = [c] := by
    intro c hc
    rcases hsource c hc with hc | rfl
    · obtain ⟨b, -, hb⟩ := List.mem_flatMap.1 ((dropGroups_sublist _ _).subset hc)
      exact Text.capital_of_mem_capital hb
    · rfl
  have hparen : ∀ c ∈ stripArguments (Text.upper cs), isParen c = false := by
    intro c hc
    rcases hsource c hc with hc | rfl
    · exact isParen_of_mem_dropGroups c hc
    · rfl
  refine ⟨Text.upper_eq_self hcapital, hsqueeze, ?_⟩
  rw [stripArguments, dropGroups_eq_self hparen, stripArguments, hsqueeze, hattach]

/-! ## The second reduction -/

/-- A reduced text is changed only by an alias that occurs in it. -/
theorem normalizeType_of_reduced (d : Dialect) {cs : List Char} (h : Reduced cs) :
    normalizeType d (String.ofList cs)
      = ((findAlias? d cs).map (·.2)).getD (String.ofList cs) := by
  unfold normalizeType
  simp only [String.toList_ofList, h.capitals, h.squeezed, h.stripped]
  cases findAlias? d cs <;> rfl

/-- The canonical name of a declared type is that of an alias, or a reduced text. -/
theorem normalizeType_form (d : Dialect) (declared : String) :
    (∃ a ∈ d.aliases ++ commonAliases, normalizeType d declared = a.2) ∨
      ∃ cs, Reduced cs ∧ normalizeType d declared = String.ofList cs := by
  unfold normalizeType
  dsimp only
  split
  · rename_i a hfind
    exact Or.inl ⟨a, List.mem_of_find?_eq_some hfind, rfl⟩
  · rw [stripArguments_squeeze]
    exact Or.inr ⟨_, reduced_stripArguments _, rfl⟩

/-- The canonical name of a declared type is canonical only if no alias is left to be found. -/
theorem isCanonical_normalizeType_iff (d : Dialect) (declared : String) :
    isCanonical d (normalizeType d declared) = true ↔ KeepsName d declared := by
  unfold KeepsName
  cases hfind : findAlias? d (Text.squeeze (Text.upper declared.toList)) with
  | some a =>
    have hname : normalizeType d declared = a.2 := by simp only [normalizeType, hfind]
    rw [hname, isCanonical_alias d a (List.mem_of_find?_eq_some hfind)]
    simp
  | none =>
    have hname : normalizeType d declared
        = String.ofList (stripArguments (Text.upper declared.toList)) := by
      simp only [normalizeType, hfind, stripArguments_squeeze]
    rw [hname, isCanonical, normalizeType_of_reduced d (reduced_stripArguments _), beq_iff_eq]
    generalize stripArguments (Text.upper declared.toList) = cs
    cases hwords : findAlias? d cs with
    | none => simp
    | some a => simp [← String.toList_inj]

/-- Two reductions are enough. -/
theorem isCanonical_normalizeType_normalizeType (d : Dialect) (declared : String) :
    isCanonical d (normalizeType d (normalizeType d declared)) = true := by
  rcases normalizeType_form d declared with ⟨a, ha, hname⟩ | ⟨cs, hcs, hname⟩
  · have halias := isCanonical_alias d a ha
    rw [hname, eq_of_beq halias]
    exact halias
  · have hagain := normalizeType_of_reduced d hcs
    rw [hname, hagain]
    cases hfind : findAlias? d cs with
    | none =>
      rw [hfind] at hagain
      exact beq_iff_eq.2 hagain
    | some a => exact isCanonical_alias d a (List.mem_of_find?_eq_some hfind)

/-! ## Types without arguments -/

theorem isPrefixOf_attachBrackets {part : List Char} (hpart : '[' ∉ part) {cs : List Char}
    (h : part <+: attachBrackets cs) : part <+: cs := by
  fun_induction attachBrackets cs generalizing part with
  | case1 => exact h
  | case2 => exact h
  | case3 c d rest hspace ih =>
    -- The text begins with the bracket, so only the empty part is at its beginning.
    simp only [Bool.and_eq_true, decide_eq_true_eq] at hspace
    cases part with
    | nil => exact List.nil_prefix
    | cons b part =>
      rw [List.cons_prefix_cons, hspace.2] at h
      exact absurd (h.1 ▸ List.mem_cons_self ..) hpart
  | case4 c d rest hspace ih =>
    cases part with
    | nil => exact List.nil_prefix
    | cons b part =>
      rw [List.cons_prefix_cons] at h ⊢
      exact ⟨h.1, ih (fun hb => hpart (List.mem_cons_of_mem _ hb)) h.2⟩

/-- A part without brackets that occurs once brackets are attached has occurred before. -/
theorem hasPart_attachBrackets {part : List Char} (hpart : '[' ∉ part) {cs : List Char}
    (h : Text.hasPart part (attachBrackets cs) = true) : Text.hasPart part cs = true := by
  have hstart := @isPrefixOf_attachBrackets part hpart
  fun_induction attachBrackets cs with
  | case1 => exact h
  | case2 => exact h
  | case3 c d rest hspace ih =>
    have hbegin := @hstart (c :: d :: rest)
    rw [attachBrackets, if_pos hspace] at hbegin
    simp only [Text.hasPart, Bool.or_eq_true, List.isPrefixOf_iff_prefix] at h ⊢
    rcases h with h | h
    · exact Or.inl (hbegin h)
    · exact Or.inr (Or.inr (ih h))
  | case4 c d rest hspace ih =>
    have hbegin := @hstart (c :: d :: rest)
    rw [attachBrackets, if_neg hspace] at hbegin
    rw [Text.hasPart, Bool.or_eq_true, List.isPrefixOf_iff_prefix] at h ⊢
    rcases h with h | h
    · exact Or.inl (hbegin h)
    · exact Or.inr (ih h)

theorem aliases_no_bracket (d : Dialect) :
    ∀ a ∈ d.aliases ++ commonAliases, '[' ∉ a.1.toList := by
  cases d <;> decide

/-- Without arguments there is nothing to be dropped, and no alias comes to light. -/
theorem keepsName_of_noParen (d : Dialect) {declared : String}
    (h : ∀ c ∈ declared.toList, isParen c = false) : KeepsName d declared := by
  have hstrip : stripArguments (Text.upper declared.toList)
      = attachBrackets (Text.squeeze (Text.upper declared.toList)) := by
    rw [stripArguments, dropGroups_eq_self (not_isParen_upper h)]
  unfold KeepsName
  rw [hstrip]
  by_cases hsome : (findAlias? d (Text.squeeze (Text.upper declared.toList))).isSome = true
  · exact Or.inl hsome
  · refine Or.inr fun a hfind => absurd ?_ hsome
    have hmem := List.mem_of_find?_eq_some hfind
    have hfound := List.find?_some hfind
    have hpart := hasPart_attachBrackets (aliases_no_bracket d a hmem) hfound
    rw [findAlias?, List.find?_isSome]
    exact ⟨a, hmem, hpart⟩

/-- **Type names, normalized twice.** The second time changes nothing exactly if the declared type
keeps its name: an alias occurs in it as it is, or none but the type itself does so in what is left
without its arguments. A type without parentheses always keeps its name, and whatever was declared,
a third time changes nothing. -/
theorem normalizeType_twice (d : Dialect) (declared : String) :
    (normalizeType d (normalizeType d declared) = normalizeType d declared ↔
        KeepsName d declared) ∧
      ((∀ c ∈ declared.toList, isParen c = false) →
        normalizeType d (normalizeType d declared) = normalizeType d declared) ∧
      normalizeType d (normalizeType d (normalizeType d declared))
        = normalizeType d (normalizeType d declared) := by
  have hiff : normalizeType d (normalizeType d declared) = normalizeType d declared ↔
      KeepsName d declared := by
    rw [← isCanonical_normalizeType_iff, isCanonical, beq_iff_eq]
  refine ⟨hiff, fun hparen => hiff.2 (keepsName_of_noParen d hparen), ?_⟩
  exact eq_of_beq (isCanonical_normalizeType_normalizeType d declared)

/-- The argument stands between the two words of an alias. -/
theorem normalizeType_twice_timestamp :
    normalizeType .postgresql "TIMESTAMP(6) WITH TIME ZONE" = "TIMESTAMP WITH TIME ZONE" ∧
      normalizeType .postgresql "TIMESTAMP WITH TIME ZONE" = "TIMESTAMP" ∧
      ¬ KeepsName .postgresql "TIMESTAMP(6) WITH TIME ZONE" ∧
      normalizeType .postgresql (normalizeType .postgresql "double  precision []")
        = normalizeType .postgresql "double  precision []" := by
  have hfirst : normalizeType .postgresql "TIMESTAMP(6) WITH TIME ZONE"
      = "TIMESTAMP WITH TIME ZONE" := by decide +kernel
  have hsecond : normalizeType .postgresql "TIMESTAMP WITH TIME ZONE" = "TIMESTAMP" := by
    decide +kernel
  refine ⟨hfirst, hsecond, fun hkeeps => ?_, ?_⟩
  · have hsame := (normalizeType_twice .postgresql "TIMESTAMP(6) WITH TIME ZONE").1.2 hkeeps
    rw [hfirst, hsecond] at hsame
    exact absurd hsame (by decide)
  · exact (normalizeType_twice .postgresql "double  precision []").2.1 (by simp [isParen])

end SchemaGraph.Sql
