import SchemaGraph.Proofs.Sql.WrittenClause
import SchemaGraph.Sql.TypeName

/-!
# The text of a declared type

A declared type is put in capitals, loses its arguments, and is tidied up. What each of these steps
does to a word, to an argument and to a suffix, and in which order they may come: blanks are
squeezed twice, and once would do (`stripArguments_squeeze`).
-/

namespace SchemaGraph.Sql

/-! ## Capitals -/

/-- A parenthesis. -/
def isParen (c : Char) : Bool := c == '(' || c == ')'

theorem capital_of_ascii {c : Char} (h : c.toNat < 128) : Text.capital c = [c.toUpper] := by
  rw [Text.capital, if_pos h]

theorem toNat_ofNat (n : Nat) : (Char.ofNat n).toNat = n ∨ (Char.ofNat n).toNat = 0 := by
  by_cases h : n.isValidChar
  · rw [Char.ofNat, dif_pos h]
    exact Or.inl rfl
  · rw [Char.ofNat, dif_neg h]
    exact Or.inr rfl

theorem not_isParen_ofNat {n : Nat} (h : n ≠ 40 ∧ n ≠ 41) : isParen (Char.ofNat n) = false := by
  rw [← Bool.not_eq_true]
  intro hparen
  rw [isParen, Bool.or_eq_true, beq_iff_eq, beq_iff_eq] at hparen
  have hval : (Char.ofNat n).toNat = 40 ∨ (Char.ofNat n).toNat = 41 := by
    rcases hparen with hparen | hparen
    · exact Or.inl (congrArg Char.toNat hparen)
    · exact Or.inr (congrArg Char.toNat hparen)
  rcases toNat_ofNat n with hn | hn <;> omega

/-- No other character has a parenthesis in its capital form. -/
theorem not_isParen_capital {c : Char} (h : isParen c = false) :
    ∀ d ∈ Text.capital c, isParen d = false := by
  intro d hd
  by_cases hc : c.toNat < 128
  · rw [capital_of_ascii hc, List.mem_singleton] at hd
    have hall := ascii_cases (P := fun c => isParen c = false → isParen c.toUpper = false)
      (by decide) hc
    rw [hd]
    exact hall h
  · have hlong : ∀ p ∈ Text.longCapitals, ∀ n ∈ p.2, n ≠ 40 ∧ n ≠ 41 := by decide +kernel
    have hruns : ∀ r ∈ Text.caseRuns, 41 < (r.first : Int) + r.shift := by decide +kernel
    rw [Text.capital, if_neg hc] at hd
    split at hd
    · rename_i codes hfind
      obtain ⟨n, hn, rfl⟩ := List.mem_map.1 hd
      exact not_isParen_ofNat (hlong _ (List.mem_of_find?_eq_some hfind) n hn)
    · split at hd
      · rename_i r hfind
        rw [List.mem_singleton] at hd
        have hrun := hruns r (List.mem_of_find?_eq_some hfind)
        have hholds := List.find?_some hfind
        rw [Text.CaseRun.holds, Bool.and_eq_true, Bool.and_eq_true, decide_eq_true_eq] at hholds
        rw [hd]
        exact not_isParen_ofNat (by omega)
      · rw [List.mem_singleton] at hd
        rw [hd]
        exact h

theorem not_isParen_upper {cs : List Char} (h : ∀ c ∈ cs, isParen c = false) :
    ∀ d ∈ Text.upper cs, isParen d = false := by
  intro d hd
  obtain ⟨c, hc, hd⟩ := List.mem_flatMap.1 hd
  exact not_isParen_capital (h c hc) d hd

theorem upper_append (cs ds : List Char) :
    Text.upper (cs ++ ds) = Text.upper cs ++ Text.upper ds := List.flatMap_append

/-- An ASCII text has its capitals one by one. -/
theorem upper_of_ascii {cs : List Char} (h : ∀ c ∈ cs, c.toNat < 128) :
    Text.upper cs = cs.map Char.toUpper := by
  induction cs with
  | nil => rfl
  | cons c cs ih =>
    rw [List.forall_mem_cons] at h
    have hcons : Text.upper (c :: cs) = Text.capital c ++ Text.upper cs := List.flatMap_cons
    rw [hcons, capital_of_ascii h.1, ih h.2]
    rfl

/-! ## Words -/

/-- A word without quotes that can be the first word of a type. -/
structure TypeWord (w : String) : Prop where
  bare : isBareWord w = true
  noKeyword : Keyword.ofWord? w = none
  ascii : ∀ c ∈ w.toList, c.toNat < 128

theorem isWordChar_toUpper {c : Char} (h : c.toNat < 128) (hw : isWordChar c = true) :
    isWordChar c.toUpper = true :=
  ascii_cases (P := fun c => isWordChar c = true → isWordChar c.toUpper = true) (by decide) h hw

theorem isWordStart_toUpper {c : Char} (h : c.toNat < 128) (hw : isWordStart c = true) :
    isWordStart c.toUpper = true :=
  ascii_cases (P := fun c => isWordStart c = true → isWordStart c.toUpper = true) (by decide) h hw

theorem toUpper_toUpper {c : Char} (h : c.toNat < 128) : c.toUpper.toUpper = c.toUpper :=
  ascii_cases (P := fun c => c.toUpper.toUpper = c.toUpper) (by decide) h

/-- The word in capitals. -/
def capitals (w : String) : String := String.ofList (Text.upper w.toList)

theorem toList_capitals {w : String} (h : TypeWord w) :
    (capitals w).toList = w.toList.map Char.toUpper := by
  rw [capitals, String.toList_ofList, upper_of_ascii h.ascii]

theorem isBareWord_capitals {w : String} (h : TypeWord w) : isBareWord (capitals w) = true := by
  obtain ⟨c, rest, hw, hc, hrest⟩ := isBareWord_iff.1 h.bare
  have hascii := h.ascii
  rw [hw, List.forall_mem_cons] at hascii
  rw [isBareWord_iff]
  refine ⟨c.toUpper, rest.map Char.toUpper, ?_, isWordStart_toUpper hascii.1 hc, ?_⟩
  · rw [toList_capitals h, hw, List.map_cons]
  · rw [List.all_eq_true] at hrest ⊢
    intro d hd
    obtain ⟨e, he, rfl⟩ := List.mem_map.1 hd
    exact isWordChar_toUpper (hascii.2 e he) (hrest e he)

theorem ofWord?_capitals {w : String} (h : TypeWord w) : Keyword.ofWord? (capitals w) = none := by
  have hsame : ∀ s, Text.sameWord s (capitals w) = Text.sameWord s w := by
    intro s
    have hmap : (w.toList.map Char.toUpper).map Char.toUpper = w.toList.map Char.toUpper := by
      rw [List.map_map]
      exact List.map_congr_left fun c hc => toUpper_toUpper (h.ascii c hc)
    rw [Text.sameWord, Text.sameWord, toList_capitals h, hmap]
  have hno := h.noKeyword
  unfold Keyword.ofWord? at hno ⊢
  simpa only [hsame] using hno

/-- A text that was checked character by character is ASCII. -/
theorem ascii_of_all {cs : List Char} (h : cs.all (fun c => decide (c.toNat < 128)) = true) :
    ∀ c ∈ cs, c.toNat < 128 := by simpa using h

theorem typeContinuations_capitals : ∀ w ∈ typeContinuations,
    w.toList.map Char.toUpper = w.toList ∧ ∀ c ∈ w.toList, c.toNat < 128 := by
  have hall : ∀ w ∈ typeContinuations, w.toList.map Char.toUpper = w.toList ∧
      w.toList.all (fun c => decide (c.toNat < 128)) = true := by decide
  exact fun w hw => ⟨(hall w hw).1, ascii_of_all (hall w hw).2⟩

theorem toNat_lt_of_toUpper {c : Char} (h : c.toUpper.toNat < 128) : c.toNat < 128 := by
  unfold Char.toUpper at h
  split at h
  · rename_i hlower
    have hle := hlower.2
    rw [UInt32.le_iff_toNat_le] at hle
    exact Nat.lt_of_le_of_lt hle (by decide)
  · exact h

/-- A word that continues a type does so in any case, and is written in capitals. -/
theorem upper_of_continuesType {t : Token} (h : continuesType t = true) :
    ∃ w ∈ typeContinuations, Text.upper t.text.toList = w.toList := by
  rw [continuesType, List.any_eq_true] at h
  obtain ⟨w, hw, hword⟩ := h
  obtain ⟨s, rfl, hsame⟩ := Token.isWord_eq_true.1 hword
  have hcapitals := typeContinuations_capitals w hw
  have hmap : s.toList.map Char.toUpper = w.toList :=
    (eq_of_beq hsame).trans hcapitals.1
  have hascii : ∀ c ∈ s.toList, c.toNat < 128 := by
    intro c hc
    exact toNat_lt_of_toUpper (hcapitals.2 _ (hmap ▸ List.mem_map_of_mem hc))
  refine ⟨w, hw, ?_⟩
  rw [← hmap]
  exact upper_of_ascii hascii

/-! ## Groups -/

theorem dropGroups_append {cs : List Char} (h : ∀ c ∈ cs, isParen c = false) (depth : Nat)
    (more : List Char) :
    dropGroups depth (cs ++ more) = (if depth = 0 then cs else []) ++ dropGroups depth more := by
  induction cs with
  | nil => simp
  | cons c cs ih =>
    rw [List.forall_mem_cons] at h
    have hc : ¬ c = '(' ∧ ¬ c = ')' := by simpa [isParen] using h.1
    rw [List.cons_append, dropGroups, if_neg hc.1, if_neg hc.2, ih h.2]
    split <;> simp

/-- Suffixes have no parentheses. -/
theorem not_isParen_suffix (s : TypeSuffix) : ∀ c ∈ s.text.toList, isParen c = false := by
  have hwords : ∀ w ∈ typeContinuations, (" " ++ w).toList.all (fun c => !isParen c) = true := by
    decide
  have hall : s.text.toList.all (fun c => !isParen c) = true := by
    cases s with
    | brackets => rfl
    | word w hw => exact hwords w hw
  simpa using hall

/-- The token is no parenthesis, but its text has one. -/
def Token.hidesParen (t : Token) : Bool :=
  t != .leftParen && t != .rightParen && t.text.toList.any isParen

/-- The arguments of a declared type, as `declaredTail` passes through them. -/
def argumentTokens (depth : Nat) : List Token → List Token
  | [] => []
  | t :: rest =>
    if 0 < depth then t :: argumentTokens (depthAfter depth t) rest
    else if t = .leftParen then argumentTokens 1 rest
    else if t = .brackets || continuesType t then argumentTokens 0 rest
    else []

/-- An argument that hides no parenthesis is dropped whole. -/
theorem dropGroups_argument {t : Token} (h : t.hidesParen = false) {depth : Nat}
    (hd : 0 < depth) (more : List Char) :
    dropGroups depth (Text.upper t.text.toList ++ more) = dropGroups (depthAfter depth t) more := by
  by_cases hl : t = .leftParen
  · rw [hl]
    rfl
  by_cases hr : t = .rightParen
  · rw [hr]
    rfl
  have hplain : ∀ c ∈ t.text.toList, isParen c = false := by
    simpa [Token.hidesParen, hl, hr] using h
  have hdepth : depthAfter depth t = depth := depthAfter_of_ne hl hr depth
  rw [dropGroups_append (not_isParen_upper hplain), if_neg (by omega), hdepth, List.nil_append]

theorem declaredTail_argument {t : Token} {depth : Nat} (hd : 0 < depth) (rest : List Token) :
    (declaredTail depth (t :: rest)).1
      = t.text ++ (declaredTail (depthAfter depth t) rest).1 := by
  cases t <;> simp [declaredTail, depthAfter, hd]

/-- Without its arguments, the rest of a declared type is a list of suffixes. -/
theorem dropGroups_declaredTail {depth : Nat} {ts : List Token}
    (h : ∀ t ∈ argumentTokens depth ts, t.hidesParen = false) :
    ∃ ss : List TypeSuffix, dropGroups depth (Text.upper (declaredTail depth ts).1.toList)
      = ss.flatMap (·.text.toList) := by
  induction ts generalizing depth with
  | nil => exact ⟨[], rfl⟩
  | cons t rest ih =>
    rw [argumentTokens] at h
    by_cases hd : 0 < depth
    · rw [if_pos hd, List.forall_mem_cons] at h
      obtain ⟨ss, hss⟩ := ih h.2
      refine ⟨ss, ?_⟩
      rw [declaredTail_argument hd, String.toList_append, upper_append,
        dropGroups_argument h.1 hd, hss]
    have hzero : depth = 0 := by omega
    rw [if_neg hd] at h
    subst hzero
    by_cases hl : t = .leftParen
    · rw [if_pos hl] at h
      obtain ⟨ss, hss⟩ := ih h
      refine ⟨ss, ?_⟩
      rw [← hss, hl]
      simp only [declaredTail, Nat.lt_irrefl, if_false, if_true, String.toList_append, upper_append]
      rfl
    rw [if_neg hl] at h
    by_cases hb : t = .brackets
    · rw [if_pos (by simp [hb])] at h
      obtain ⟨ss, hss⟩ := ih h
      refine ⟨.brackets :: ss, ?_⟩
      rw [List.flatMap_cons, ← hss, hb]
      simp only [declaredTail, Nat.lt_irrefl, if_false, if_true, String.toList_append, upper_append,
        reduceCtorEq]
      exact dropGroups_append (not_isParen_suffix .brackets) 0 _
    by_cases hc : continuesType t = true
    · rw [if_pos (by simp [hc])] at h
      obtain ⟨ss, hss⟩ := ih h
      obtain ⟨w, hw, hupper⟩ := upper_of_continuesType hc
      refine ⟨.word w hw :: ss, ?_⟩
      have htext : (TypeSuffix.word w hw).text.toList = ' ' :: w.toList := by
        simp [TypeSuffix.text]
      have hplain := not_isParen_suffix (.word w hw)
      rw [htext] at hplain
      rw [List.flatMap_cons, ← hss, htext]
      simp only [declaredTail, Nat.lt_irrefl, if_false, hl, hb, hc, if_true, String.toList_append,
        upper_append, hupper, List.append_assoc]
      have hgroups := dropGroups_append hplain 0
        (Text.upper (declaredTail 0 rest).1.toList)
      rw [if_pos rfl] at hgroups
      exact hgroups
    · have hnone : (declaredTail 0 (t :: rest)).1 = "" := by simp [declaredTail, hl, hb, hc]
      refine ⟨[], ?_⟩
      rw [hnone]
      rfl

/-! ## Blanks -/

/-- A text after a gap keeps one space before its words, if it has any. -/
theorem squeezeAfter_true (cs : List Char) :
    (Text.squeezeAfter true cs = [] ∧ Text.squeeze cs = []) ∨
      Text.squeezeAfter true cs = ' ' :: Text.squeeze cs := by
  unfold Text.squeeze
  induction cs with
  | nil => exact Or.inl ⟨rfl, rfl⟩
  | cons c cs ih =>
    by_cases hb : Text.isBlank c = true
    · rw [List.dropWhile_cons_of_pos hb, Text.squeezeAfter, if_pos hb]
      exact ih
    · rw [List.dropWhile_cons_of_neg hb, Text.squeezeAfter, if_neg hb, if_pos rfl]
      exact Or.inr rfl

theorem squeeze_eq_tail (cs : List Char) : Text.squeeze cs = (Text.squeezeAfter true cs).tail := by
  rcases squeezeAfter_true cs with ⟨hafter, hsqueeze⟩ | hafter
  · rw [hafter, hsqueeze, List.tail_nil]
  · rw [hafter, List.tail_cons]

/-- Blanks may be squeezed before groups are dropped, since they are squeezed after it anyway. A gap
is lost only inside a group. -/
theorem squeezeAfter_dropGroups (gap before : Bool) (depth : Nat) (cs : List Char) :
    Text.squeezeAfter before (dropGroups depth (Text.squeezeAfter gap cs))
      = Text.squeezeAfter (before || (gap && decide (depth = 0))) (dropGroups depth cs) := by
  induction cs generalizing gap before depth with
  | nil => rfl
  | cons c cs ih =>
    by_cases hb : Text.isBlank c = true
    · have hl : c ≠ '(' := by rintro rfl; exact absurd hb (by decide)
      have hr : c ≠ ')' := by rintro rfl; exact absurd hb (by decide)
      rw [Text.squeezeAfter, if_pos hb, ih, dropGroups, if_neg hl, if_neg hr]
      by_cases hd : depth = 0
      · simp [hd, Text.squeezeAfter, hb]
      · simp [hd]
    · have hkept : Text.squeezeAfter before
            (dropGroups depth (Text.squeezeAfter gap (c :: cs)))
          = Text.squeezeAfter (before || (gap && decide (depth = 0)))
            (dropGroups depth (c :: Text.squeezeAfter false cs)) := by
        rw [Text.squeezeAfter, if_neg hb]
        cases gap with
        | false => simp
        | true =>
          by_cases hd : depth = 0
          · simp [hd, dropGroups, Text.squeezeAfter, Text.isBlank_space]
          · simp [hd, dropGroups]
      rw [hkept, dropGroups, dropGroups]
      by_cases hl : c = '('
      · rw [if_pos hl, if_pos hl, ih]
        simp
      by_cases hr : c = ')'
      · rw [if_neg hl, if_neg hl, if_pos hr, if_pos hr, ih]
        simp
      rw [if_neg hl, if_neg hl, if_neg hr, if_neg hr]
      by_cases hd : depth = 0
      · have hrest := ih false false depth
        rw [Bool.false_and, Bool.or_false] at hrest
        rw [if_pos hd, if_pos hd, Text.squeezeAfter, Text.squeezeAfter, if_neg hb, if_neg hb, hrest]
      · rw [if_neg hd, if_neg hd, ih]
        simp

/-- The words of a declaration are the same whether or not its blanks were squeezed before. -/
theorem stripArguments_squeeze (cs : List Char) :
    stripArguments (Text.squeeze cs) = stripArguments cs := by
  have hall := squeezeAfter_dropGroups true true 0 cs
  rw [Bool.true_or] at hall
  have hgap : Text.squeezeAfter true (dropGroups 0 (Text.squeeze cs))
      = Text.squeezeAfter true (dropGroups 0 cs) := by
    rw [← hall]
    rcases squeezeAfter_true cs with ⟨hafter, hsqueeze⟩ | hafter
    · rw [hafter, hsqueeze]
    · rw [hafter]
      rfl
  rw [stripArguments, stripArguments, squeeze_eq_tail (dropGroups 0 (Text.squeeze cs)), hgap,
    ← squeeze_eq_tail]

theorem squeezeAfter_false_append {cs : List Char} (h : ∀ c ∈ cs, Text.isBlank c = false)
    (more : List Char) :
    Text.squeezeAfter false (cs ++ more) = cs ++ Text.squeezeAfter false more := by
  induction cs with
  | nil => rfl
  | cons c cs ih =>
    rw [List.forall_mem_cons] at h
    rw [List.cons_append, Text.squeezeAfter, if_neg (by simp [h.1]), if_neg (by simp), ih h.2,
      List.cons_append]

theorem attachBrackets_cons {c : Char} (h : c ≠ ' ') (rest : List Char) :
    attachBrackets (c :: rest) = c :: attachBrackets rest := by
  cases rest with
  | nil => rfl
  | cons d rest => simp [attachBrackets, h]

theorem attachBrackets_append {cs : List Char} (h : ∀ c ∈ cs, c ≠ ' ') (more : List Char) :
    attachBrackets (cs ++ more) = cs ++ attachBrackets more := by
  induction cs with
  | nil => rfl
  | cons c cs ih =>
    rw [List.forall_mem_cons] at h
    rw [List.cons_append, attachBrackets_cons h.1, ih h.2, List.cons_append]

theorem typeContinuations_letters : ∀ w ∈ typeContinuations, ∃ c cs, w.toList = c :: cs ∧
    c ≠ '[' ∧ ∀ d ∈ c :: cs, Text.isBlank d = false ∧ d ≠ ' ' := by
  have hfirst : ∀ w ∈ typeContinuations, w.toList ≠ [] ∧ w.toList.head? ≠ some '[' ∧
      w.toList.all (fun d => !Text.isBlank d && d != ' ') = true := by decide
  intro w hw
  obtain ⟨hne, hhead, hall⟩ := hfirst w hw
  obtain ⟨c, cs, hcs⟩ := List.exists_cons_of_ne_nil hne
  rw [hcs] at hhead hall
  refine ⟨c, cs, hcs, fun h => hhead (by rw [h]; rfl), ?_⟩
  simpa only [List.all_eq_true, Bool.and_eq_true, Bool.not_eq_true', bne_iff_ne] using hall

/-- Suffixes as they are written need no tidying up. -/
theorem tidy_suffixes (ss : List TypeSuffix) :
    Text.squeezeAfter false (ss.flatMap (·.text.toList)) = ss.flatMap (·.text.toList) ∧
      attachBrackets (ss.flatMap (·.text.toList)) = ss.flatMap (·.text.toList) := by
  induction ss with
  | nil => exact ⟨rfl, rfl⟩
  | cons s ss ih =>
    rw [List.flatMap_cons]
    cases s with
    | brackets =>
      have hblank : ∀ c ∈ TypeSuffix.brackets.text.toList, Text.isBlank c = false ∧ c ≠ ' ' := by
        have htext : TypeSuffix.brackets.text.toList = ['[', ']'] := rfl
        rw [htext, List.forall_mem_cons, List.forall_mem_singleton]
        decide
      rw [squeezeAfter_false_append fun c hc => (hblank c hc).1,
        attachBrackets_append fun c hc => (hblank c hc).2, ih.1, ih.2]
      exact ⟨rfl, rfl⟩
    | word w hw =>
      obtain ⟨c, cs, hcs, hbracket, hletters⟩ := typeContinuations_letters w hw
      have htext : (TypeSuffix.word w hw).text.toList = ' ' :: c :: cs := by
        rw [TypeSuffix.text, String.toList_append, hcs]
        rfl
      rw [List.forall_mem_cons] at hletters
      rw [htext]
      constructor
      · have hrest := squeezeAfter_false_append (fun d hd => (hletters.2 d hd).1)
          (ss.flatMap (·.text.toList))
        rw [List.cons_append, List.cons_append, Text.squeezeAfter, if_pos Text.isBlank_space,
          Text.squeezeAfter, if_neg (by simp [hletters.1.1]), if_pos rfl, hrest, ih.1]
      · have hrest := attachBrackets_append (fun d hd => (hletters.2 d hd).2)
          (ss.flatMap (·.text.toList))
        rw [List.cons_append, List.cons_append, attachBrackets, if_neg (by simp [hbracket]),
          attachBrackets_cons hletters.1.2, hrest, ih.2]

end SchemaGraph.Sql
