import Mathlib.Data.List.Find
import Mathlib.Data.List.Forall2
import SchemaGraph.Proofs.Sql.Lookahead
import SchemaGraph.Proofs.Sql.TextCuts
import SchemaGraph.Sql.Detect

/-!
# Literals and the guess of the dialect

The dialect of a script is guessed from its comment lines and from its tokens. The contents of a
string literal make no difference to the tokens but to the literal itself (`tokens_alike`), and so
the words of a dialect and the array suffix count only outside of literals. The comment lines are
looked for in the bare text, where a line within a literal looks like any other. So a text with
other contents gives the same guess if the lines that the literals stand on show the same headers of
dumps, or none (`Dialect.detect_of_alike`).
-/

namespace SchemaGraph.Sql

/-! ## Texts with literals -/

/-- The contents of a string literal, without quotes and without backslashes. -/
structure PlainContents where
  chars : List Char
  quote : '\'' ∉ chars
  backslash : '\\' ∉ chars

theorem PlainContents.literalContents (x : PlainContents) (escapes : Bool) :
    LiteralContents escapes x.chars := by
  obtain ⟨cs, hquote, hbackslash⟩ := x
  dsimp only
  induction cs with
  | nil => exact .nil
  | cons c cs ih =>
    rw [List.mem_cons, not_or] at hquote hbackslash
    exact .plain (Ne.symm hquote.1) (fun _ => Ne.symm hbackslash.1) (ih hquote.2 hbackslash.2)

/-- A stretch of a text: characters that are to stay, or a literal whose contents may change. -/
inductive Stretch where
  | kept (chars : List Char)
  | literal (contents : PlainContents)

namespace Stretch

def chars : Stretch → List Char
  | kept cs => cs
  | literal x => '\'' :: (x.chars ++ ['\''])

/-- The text that consists of the stretches. -/
def text (ss : List Stretch) : List Char := ss.flatMap chars

/-- The two are the same but for the contents of a literal. -/
inductive Alike : Stretch → Stretch → Prop where
  | kept (cs : List Char) : Alike (kept cs) (kept cs)
  | literal (x y : PlainContents) : Alike (literal x) (literal y)

/-- The text is read stretch by stretch: the literals stand where a lexeme begins, outside of
comments and quoted names, and end where they should. -/
inductive Read : List Stretch → Prop where
  | nil : Read []
  | lexeme {c : Char} {used : List Char} {rest : List Stretch}
    (h : (lexeme false c (used ++ text rest)).2 = text rest) (hrest : Read rest) :
    Read (kept (c :: used) :: rest)
  | literal {x : PlainContents} {rest : List Stretch} (hend : startsWith '\'' (text rest) = false)
    (hrest : Read rest) : Read (literal x :: rest)
  /-- The letter `E` before a literal gives it escapes. -/
  | marked {c : Char} {x : PlainContents} {rest : List Stretch} (hc : c.toUpper = 'E')
    (hend : startsWith '\'' (text rest) = false) (hrest : Read rest) :
    Read (kept [c] :: literal x :: rest)

theorem text_literal (x : PlainContents) (rest : List Stretch) :
    text (literal x :: rest) = '\'' :: (x.chars ++ '\'' :: text rest) := by
  simp [text, chars]

theorem text_kept (cs : List Char) (rest : List Stretch) :
    text (kept cs :: rest) = cs ++ text rest := rfl

variable {ss ss' : List Stretch}

/-- Literals begin alike. -/
theorem head?_text (h : List.Forall₂ Alike ss ss') : (text ss').head? = (text ss).head? := by
  induction h with
  | nil => rfl
  | @cons s s' rest rest' hs _ ih =>
    cases hs with
    | kept cs => rw [text_kept, text_kept, List.head?_append, List.head?_append, ih]
    | literal x y => rw [text_literal, text_literal, List.head?_cons, List.head?_cons]

theorem startsWith_text (h : List.Forall₂ Alike ss ss') {c : Char}
    (hc : startsWith c (text ss) = false) : startsWith c (text ss') = false := by
  rw [startsWith, head?_text h]
  exact hc

end Stretch

/-! ## Tokens -/

/-- The same token, or two literals. -/
inductive Token.Alike : Token → Token → Prop where
  | same (t : Token) : Alike t t
  | literal (s s' : String) : Alike (.literal s) (.literal s')

/-- The rest of a literal after its opening quote. -/
theorem literalLexeme_plain {escapes : Bool} (x : PlainContents) {rest : List Char}
    (hend : startsWith '\'' rest = false) :
    ∃ s, literalLexeme escapes (x.chars ++ '\'' :: rest) = (some (.literal s), rest) :=
  ⟨_, Prod.ext rfl (literalBody_contents (x.literalContents escapes) hend)⟩

namespace Stretch

variable {ss ss' : List Stretch}

theorem tokens_literal (x : PlainContents) (hend : startsWith '\'' (text ss) = false) :
    ∃ s, tokens false (text (literal x :: ss)) = .literal s :: tokens false (text ss) := by
  obtain ⟨s, hs⟩ := @literalLexeme_plain false x _ hend
  have hlexeme : lexeme false '\'' (x.chars ++ '\'' :: text ss) = (some (.literal s), text ss) := hs
  refine ⟨s, ?_⟩
  rw [text_literal, tokens_cons, hlexeme]
  rfl

theorem tokens_marked {c : Char} (hc : c.toUpper = 'E') (x : PlainContents)
    (hend : startsWith '\'' (text ss) = false) :
    ∃ s, tokens false (text (kept [c] :: literal x :: ss))
      = .literal s :: tokens false (text ss) := by
  obtain ⟨s, hs⟩ := @literalLexeme_plain true x _ hend
  refine ⟨s, ?_⟩
  rw [text_kept, text_literal, List.singleton_append, tokens_cons,
    lexeme_of_isWordStart (isWordStart_of_toUpper hc), wordLexeme_marked hc, hs]
  rfl

/-- Other contents of the literals change only the literals. -/
theorem Read.alike (h : Read ss) (hs : List.Forall₂ Alike ss ss') :
    Read ss' ∧ List.Forall₂ Token.Alike (tokens false (text ss)) (tokens false (text ss')) := by
  induction h generalizing ss' with
  | nil =>
    cases hs
    exact ⟨.nil, by rw [text, List.flatMap_nil, tokens_nil]; exact .nil⟩
  | @lexeme c used rest hlexeme _ ih =>
    obtain ⟨_, rest', hkept, hrest, rfl⟩ := List.forall₂_cons_left_iff.1 hs
    cases hkept
    obtain ⟨hread, htokens⟩ := ih hrest
    -- the rests begin alike, and the reader of the lexeme sees no more of them
    have hsame := (Local.lexeme false c).read_append (head?_text hrest) hlexeme
    refine ⟨.lexeme (by rw [hsame]) hread, ?_⟩
    rw [text_kept, text_kept, List.cons_append, List.cons_append, tokens_cons, tokens_cons, hsame,
      hlexeme]
    exact List.rel_append (List.forall₂_same.2 fun t _ => .same t) htokens
  | @literal x rest hend _ ih =>
    obtain ⟨_, rest', hliteral, hrest, rfl⟩ := List.forall₂_cons_left_iff.1 hs
    cases hliteral with
    | literal _ y =>
    obtain ⟨hread, htokens⟩ := ih hrest
    have hend' := startsWith_text hrest hend
    obtain ⟨t, ht⟩ := tokens_literal x hend
    obtain ⟨t', ht'⟩ := tokens_literal y hend'
    refine ⟨.literal hend' hread, ?_⟩
    rw [ht, ht']
    exact .cons (.literal t t') htokens
  | @marked c x rest hc hend _ ih =>
    obtain ⟨_, _, hkept, hmore, rfl⟩ := List.forall₂_cons_left_iff.1 hs
    obtain ⟨_, rest', hliteral, hrest, rfl⟩ := List.forall₂_cons_left_iff.1 hmore
    cases hkept
    cases hliteral with
    | literal _ y =>
    obtain ⟨hread, htokens⟩ := ih hrest
    have hend' := startsWith_text hrest hend
    obtain ⟨t, ht⟩ := tokens_marked hc x hend
    obtain ⟨t', ht'⟩ := tokens_marked hc y hend'
    refine ⟨.marked hc hend' hread, ?_⟩
    rw [ht, ht']
    exact .cons (.literal t t') htokens

end Stretch

/-! ## Lines -/

/-- A line of a text. Each character is marked if it belongs to a literal. -/
abbrev MarkedLine := List (Char × Bool)

namespace MarkedLine

/-- The lines of a text whose characters are marked. -/
def split (text : List (Char × Bool)) : List MarkedLine := text.splitOnP fun m => m.1 == '\n'

/-- A literal stands on the line, or a part of one. -/
def holdsLiteral (line : MarkedLine) : Bool := line.any (·.2)

/-- There is something on the line, but no literal. -/
def isFree (line : MarkedLine) : Bool := !line.isEmpty && !line.holdsLiteral

/-- The first lines are the same unless a literal stands on both, and after them so are the free
ones. -/
def Abreast (ls ls' : List MarkedLine) : Prop :=
  ∃ first first' later later', ls = first :: later ∧ ls' = first' :: later' ∧
    (first' = first ∨ first.holdsLiteral = true ∧ first'.holdsLiteral = true) ∧
    later'.filter isFree = later.filter isFree

theorem split_cons (m : Char × Bool) (text : List (Char × Bool)) :
    split (m :: text) =
      if m.1 = '\n' then [] :: split text else (split text).modifyHead (m :: ·) := by
  rw [split, List.splitOnP_cons_eq_if_modifyHead]
  by_cases hm : m.1 = '\n' <;> simp [hm, split]

theorem split_cons_of_ne {m : Char × Bool} (hm : m.1 ≠ '\n') {text : List (Char × Bool)}
    {first : MarkedLine} {later : List MarkedLine} (h : split text = first :: later) :
    split (m :: text) = (m :: first) :: later := by
  rw [split_cons, if_neg hm, h]
  rfl

theorem exists_split (text : List (Char × Bool)) : ∃ first later, split text = first :: later :=
  List.exists_cons_of_ne_nil (List.splitOnP_ne_nil _ text)

theorem map_split (text : List (Char × Bool)) :
    (split text).map (·.map Prod.fst) = lines (text.map Prod.fst) := by
  induction text with
  | nil => rfl
  | cons m text ih =>
    obtain ⟨first, later, hsplit⟩ := exists_split text
    rw [hsplit] at ih
    rw [split_cons, List.map_cons, lines, ← ih]
    by_cases hm : m.1 = '\n'
    · rw [if_pos hm, if_pos hm, hsplit]
      rfl
    · rw [if_neg hm, if_neg hm, hsplit]
      rfl

theorem Abreast.filter {ls ls' : List MarkedLine} (h : Abreast ls ls') :
    ls'.filter isFree = ls.filter isFree := by
  obtain ⟨first, first', later, later', rfl, rfl, hfirst, hlater⟩ := h
  rcases hfirst with rfl | ⟨hfirst, hfirst'⟩
  · rw [List.filter_cons, List.filter_cons, hlater]
  · have hfree : first.isFree = false := by simp [isFree, hfirst]
    have hfree' : first'.isFree = false := by simp [isFree, hfirst']
    rw [List.filter_cons, List.filter_cons, hfree, hfree']
    exact hlater

/-- What is no literal may stand before. -/
theorem Abreast.kept {text text' : List (Char × Bool)} (h : Abreast (split text) (split text'))
    (cs : List Char) :
    Abreast (split (cs.map (·, false) ++ text)) (split (cs.map (·, false) ++ text')) := by
  induction cs with
  | nil => exact h
  | cons c cs ih =>
    rw [List.map_cons, List.cons_append, List.cons_append]
    by_cases hc : c = '\n'
    · rw [split_cons, split_cons, if_pos hc, if_pos hc]
      exact ⟨[], [], _, _, rfl, rfl, Or.inl rfl, ih.filter⟩
    · obtain ⟨first, first', later, later', hsplit, hsplit', hfirst, hlater⟩ := ih
      refine ⟨_, _, _, _, split_cons_of_ne hc hsplit, split_cons_of_ne hc hsplit', ?_, hlater⟩
      rcases hfirst with rfl | hboth
      · exact Or.inl rfl
      · exact Or.inr hboth

/-- None of the lines of a literal is free, and neither is the rest of the line that it ends on. -/
theorem split_closing (cs : List Char) (text : List (Char × Bool)) :
    ∃ first later, split (cs.map (·, true) ++ ('\'', true) :: text) = first :: later ∧
      first.isFree = false ∧ later.filter isFree = (split text).tail.filter isFree := by
  induction cs with
  | nil =>
    obtain ⟨first, later, hsplit⟩ := exists_split text
    refine ⟨_, _, split_cons_of_ne (by decide) hsplit, by simp [isFree, holdsLiteral], ?_⟩
    rw [hsplit, List.tail_cons]
  | cons c cs ih =>
    obtain ⟨first, later, hsplit, hfirst, hlater⟩ := ih
    rw [List.map_cons, List.cons_append]
    by_cases hc : c = '\n'
    · -- the literal goes on in the next line, and this one may be empty
      refine ⟨[], _, by rw [split_cons, if_pos hc], rfl, ?_⟩
      rw [hsplit, List.filter_cons_of_neg (by simp [hfirst]), hlater]
    · exact ⟨_, _, split_cons_of_ne hc hsplit, by simp [isFree, holdsLiteral], hlater⟩

theorem split_literal (cs : List Char) (text : List (Char × Bool)) :
    ∃ first later, split (('\'', true) :: (cs.map (·, true) ++ ('\'', true) :: text))
        = first :: later ∧
      first.holdsLiteral = true ∧ later.filter isFree = (split text).tail.filter isFree := by
  obtain ⟨first, later, hsplit, -, hlater⟩ := split_closing cs text
  exact ⟨_, _, split_cons_of_ne (by decide) hsplit, by simp [holdsLiteral], hlater⟩

theorem Abreast.literal {text text' : List (Char × Bool)} (h : Abreast (split text) (split text'))
    (cs cs' : List Char) :
    Abreast (split (('\'', true) :: (cs.map (·, true) ++ ('\'', true) :: text)))
      (split (('\'', true) :: (cs'.map (·, true) ++ ('\'', true) :: text'))) := by
  obtain ⟨_, _, later, later', hsplit, hsplit', -, hlater⟩ := h
  obtain ⟨first, more, hmore, hfirst, hfree⟩ := split_literal cs text
  obtain ⟨first', more', hmore', hfirst', hfree'⟩ := split_literal cs' text'
  refine ⟨first, first', more, more', hmore, hmore', Or.inr ⟨hfirst, hfirst'⟩, ?_⟩
  rw [hfree, hfree', hsplit, hsplit', List.tail_cons, List.tail_cons, hlater]

end MarkedLine

namespace Stretch

variable {ss ss' : List Stretch}

def isLiteral : Stretch → Bool
  | kept _ => false
  | literal _ => true

/-- The characters, marked if they are those of a literal or its quotes. -/
def marked (s : Stretch) : List (Char × Bool) := s.chars.map (·, s.isLiteral)

/-- The lines of the text that consists of the stretches. -/
def lines (ss : List Stretch) : List MarkedLine := MarkedLine.split (ss.flatMap marked)

/-- The lines on which a literal stands whose contents may change, or a part of it. -/
def literalLines (ss : List Stretch) : List (List Char) :=
  ((lines ss).filter (·.holdsLiteral)).map (·.map Prod.fst)

theorem map_marked (s : Stretch) : s.marked.map Prod.fst = s.chars := by
  simp [marked, Function.comp_def]

theorem map_lines (ss : List Stretch) : (lines ss).map (·.map Prod.fst) = Sql.lines (text ss) := by
  rw [lines, MarkedLine.map_split, List.map_flatMap, text]
  simp only [map_marked]

/-- Other contents change only lines on which the literals stand, and may add empty ones. -/
theorem filter_lines (hs : List.Forall₂ Alike ss ss') :
    (lines ss').filter (·.isFree) = (lines ss).filter (·.isFree) := by
  suffices h : MarkedLine.Abreast (lines ss) (lines ss') from h.filter
  induction hs with
  | nil => exact ⟨[], [], [], [], rfl, rfl, Or.inl rfl, rfl⟩
  | @cons s s' rest rest' hs _ ih =>
    rw [lines, lines, List.flatMap_cons, List.flatMap_cons]
    cases hs with
    | kept cs => exact ih.kept cs
    | literal x y =>
      simp only [marked, chars, isLiteral, List.map_cons, List.map_append, List.map_nil,
        List.cons_append, List.append_assoc, List.nil_append]
      exact ih.literal x.chars y.chars

end Stretch

/-! ## Headers -/

/-- The line is a comment with the word of the header. -/
def hasHeader (word : String) (line : List Char) : Bool :=
  let shown := line.dropWhile Text.isBlank
  isCommentLine shown && Text.hasPart word.toList (Text.lower shown)

theorem headerDialect?_eq (text : List Char) :
    headerDialect? text
      = (dumpHeaders.find? fun h => (lines text).any (hasHeader h.1)).map (·.2) := by
  unfold headerDialect? commentLines
  simp only [List.any_map, List.any_filter]
  rfl

namespace Stretch

variable {ss ss' : List Stretch}

/-- What is on a line is on a free one, or where a literal stands. -/
theorem any_lines {p : List Char → Bool} (hempty : p [] = false) (ss : List Stretch) :
    (Sql.lines (text ss)).any p
      = (((lines ss).filter (·.isFree)).any (fun line => p (line.map Prod.fst))
        || (literalLines ss).any p) := by
  have hline : ∀ line : MarkedLine, p (line.map Prod.fst) = true →
      line.isFree = true ∨ line.holdsLiteral = true := by
    intro line hp
    by_cases hholds : line.holdsLiteral = true
    · exact Or.inr hholds
    cases line with
    | nil => exact absurd hp (by simp [hempty])
    | cons m line => exact Or.inl (by simp [MarkedLine.isFree, hholds])
  rw [← map_lines, literalLines, List.any_map, List.any_map, List.any_filter, List.any_filter,
    Bool.eq_iff_iff]
  simp only [Bool.or_eq_true, List.any_eq_true, Bool.and_eq_true, Function.comp_apply]
  constructor
  · rintro ⟨line, hmem, hp⟩
    exact (hline line hp).imp (fun hfree => ⟨line, hmem, hfree, hp⟩)
      fun hholds => ⟨line, hmem, hholds, hp⟩
  · rintro (⟨line, hmem, -, hp⟩ | ⟨line, hmem, -, hp⟩)
    · exact ⟨line, hmem, hp⟩
    · exact ⟨line, hmem, hp⟩

theorem headerDialect?_text (hs : List.Forall₂ Alike ss ss')
    (hlines : ∀ h ∈ dumpHeaders,
      (literalLines ss').any (hasHeader h.1) = (literalLines ss).any (hasHeader h.1)) :
    headerDialect? (text ss') = headerDialect? (text ss) := by
  rw [headerDialect?_eq, headerDialect?_eq]
  congr 1
  refine List.find?_congr fun h hh => ?_
  have hempty : hasHeader h.1 [] = false := rfl
  rw [any_lines hempty, any_lines hempty, filter_lines hs, hlines h hh]

end Stretch

/-! ## The guess -/

theorem any_alike {p : Token → Bool} (hp : ∀ s, p (.literal s) = false) {ts ts' : List Token}
    (h : List.Forall₂ Token.Alike ts ts') : ts'.any p = ts.any p := by
  induction h with
  | nil => rfl
  | cons ht _ ih =>
    rw [List.any_cons, List.any_cons, ih]
    cases ht with
    | same t => rfl
    | literal s s' => rw [hp, hp]

theorem signatureDialect?_alike {ts ts' : List Token} (h : List.Forall₂ Token.Alike ts ts') :
    signatureDialect? ts' = signatureDialect? ts := by
  unfold signatureDialect?
  congr 1
  refine List.find?_congr fun s _ => ?_
  exact any_alike (fun _ => by simp [Token.isWord]) h

/-- **The contents of literals do not count.** Two texts are the same but for what stands in some
literals, outside of comments and quoted names, without quotes and backslashes. Then both are read
stretch by stretch with the same tokens, but for these literals. The lines are looked at without
regard to literals; if those on which the literals stand show the same headers in both texts, or
none, then the guess of the dialect is the same for both. -/
theorem Dialect.detect_of_alike {ss ss' : List Stretch} (hread : Stretch.Read ss)
    (hs : List.Forall₂ Stretch.Alike ss ss')
    (hlines : ∀ h ∈ dumpHeaders, (Stretch.literalLines ss').any (hasHeader h.1)
      = (Stretch.literalLines ss).any (hasHeader h.1)) :
    Stretch.Read ss' ∧
      List.Forall₂ Token.Alike (tokens false (Stretch.text ss)) (tokens false (Stretch.text ss')) ∧
      Dialect.detect (String.ofList (Stretch.text ss'))
        = Dialect.detect (String.ofList (Stretch.text ss)) := by
  obtain ⟨hread', htokens⟩ := hread.alike hs
  refine ⟨hread', htokens, ?_⟩
  have hbrackets : (tokens false (Stretch.text ss')).contains .brackets
      = (tokens false (Stretch.text ss)).contains .brackets := by
    rw [List.contains_eq_any_beq, List.contains_eq_any_beq]
    exact any_alike (fun _ => rfl) htokens
  unfold Dialect.detect
  simp only [String.toList_ofList, Stretch.headerDialect?_text hs hlines,
    signatureDialect?_alike htokens, hbrackets]

/-- A column with a note as its default. -/
def noteColumn (note : PlainContents) : List Stretch :=
  [.kept "note".toList, .kept [' '], .kept "TEXT".toList, .kept [' '], .kept "DEFAULT".toList,
    .kept [' '], .literal note]

def shortNote : PlainContents := ⟨['x'], by decide, by decide⟩

/-- Words of two dialects and an array suffix, on several lines. -/
def wordyNote : PlainContents := ⟨"SERIAL\nENGINE []\n".toList, by decide, by decide⟩

/-- One of the lines looks like the header of a dump. -/
def remarkNote : PlainContents := ⟨"first\n-- MySQL\nlast".toList, by decide, by decide⟩

theorem read_noteColumn : Stretch.Read (noteColumn shortNote) := by
  refine .lexeme ?_ (.lexeme ?_ (.lexeme ?_ (.lexeme ?_ (.lexeme ?_ (.lexeme ?_
    (.literal rfl .nil))))))
  all_goals decide +kernel

theorem alike_noteColumn (x y : PlainContents) :
    List.Forall₂ Stretch.Alike (noteColumn x) (noteColumn y) :=
  .cons (.kept _) (.cons (.kept _) (.cons (.kept _) (.cons (.kept _) (.cons (.kept _)
    (.cons (.kept _) (.cons (.literal x y) .nil))))))

/-- Words in a note are no sign of a dialect, but a line of it is taken for a header. -/
theorem detect_noteColumn :
    Stretch.Read (noteColumn shortNote) ∧
      Dialect.detect (String.ofList (Stretch.text (noteColumn wordyNote)))
        = Dialect.detect (String.ofList (Stretch.text (noteColumn shortNote))) ∧
      Dialect.detect (String.ofList (Stretch.text (noteColumn remarkNote)))
        ≠ Dialect.detect (String.ofList (Stretch.text (noteColumn shortNote))) := by
  obtain ⟨-, -, hsame⟩ := Dialect.detect_of_alike read_noteColumn
    (alike_noteColumn shortNote wordyNote) (by decide +kernel)
  exact ⟨read_noteColumn, hsame, by decide +kernel⟩

end SchemaGraph.Sql
