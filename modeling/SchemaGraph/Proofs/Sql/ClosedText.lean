import SchemaGraph.Proofs.Canvas.PlacementOrder
import SchemaGraph.Proofs.Sql.CompleteText
import SchemaGraph.Proofs.Sql.Validity

/-!
# Texts that leave nothing open

A text is closed if every comment between `/*` and `*/`, every quoted name and every string literal
that is opened in it is closed in it (`ClosedText`); a comment to the end of the line may be left
open. After a closed text and a newline, every text is read as it is read alone
(`tokens_append_newline`), so what has no tokens of its own may be put in between.
-/

namespace SchemaGraph.Sql

/-! ## What has to be closed -/

/-- What a text opens and a later character has to close. -/
inductive Enclosure where
  | comment
  | name (close : Char)
  | literal (escapes : Bool)

/-- `c` and the text after it open an enclosure. Its contents begin where `inner` does. -/
inductive Opens (escapes : Bool) : Char → List Char → Enclosure → List Char → Prop where
  | comment (inner : List Char) : Opens escapes '/' ('*' :: inner) .comment inner
  | brackets {inner : List Char} (h : startsWith ']' inner = false) :
    Opens escapes '[' inner (.name ']') inner
  | name {c : Char} (hc : c = '"' ∨ c = '\x60') (inner : List Char) :
    Opens escapes c inner (.name c) inner
  | literal (inner : List Char) : Opens escapes '\'' inner (.literal escapes) inner
  /-- The letter `E` before a literal gives it escapes. -/
  | marked {c : Char} (hc : c.toUpper = 'E') (inner : List Char) :
    Opens escapes c ('\'' :: inner) (.literal true) inner

/-- What can stand between the quotes of a literal: single quotes only in pairs, and, if there are
escapes, a backslash only together with the character after it. -/
inductive LiteralContents (escapes : Bool) : List Char → Prop where
  | nil : LiteralContents escapes []
  | plain {c : Char} {cs : List Char} (hc : c ≠ '\'') (he : escapes = true → c ≠ '\\')
    (h : LiteralContents escapes cs) : LiteralContents escapes (c :: cs)
  | quotes {cs : List Char} (h : LiteralContents escapes cs) :
    LiteralContents escapes ('\'' :: '\'' :: cs)
  | escape (d : Char) {cs : List Char} (he : escapes = true) (h : LiteralContents escapes cs) :
    LiteralContents escapes ('\\' :: d :: cs)

/-- The enclosure whose contents begin the text is closed in it. -/
def Enclosure.Ends : Enclosure → List Char → Prop
  | .comment, inner => ['*', '/'] <:+: inner
  | .name close, inner =>
    ∃ contents after, inner = doubleQuote close contents ++ close :: after ∧
      startsWith close after = false
  | .literal escapes, inner =>
    ∃ contents after, LiteralContents escapes contents ∧ inner = contents ++ '\'' :: after ∧
      startsWith '\'' after = false

/-- Whatever is opened at the beginning of a lexeme of the text is closed in the text. -/
inductive ClosedText (escapes : Bool) : List Char → Prop where
  | nil : ClosedText escapes []
  | cons {c : Char} {rest : List Char}
    (hends : ∀ e inner, Opens escapes c rest e inner → e.Ends inner)
    (hrest : ClosedText escapes (lexeme escapes c rest).2) : ClosedText escapes (c :: rest)

/-! ## Reading an enclosure -/

/-- The text after the enclosure. -/
def Enclosure.after : Enclosure → List Char → List Char
  | .comment, inner => dropBlock false inner
  | .name close, inner => (quotedBody close inner).2
  | .literal escapes, inner => (literalBody escapes inner).2

theorem dropBlock_ne_nil {text : List Char} (h : ['*', '/'] <:+: text) (star : Bool) (x : Char) :
    dropBlock star (text ++ [x]) ≠ [] := by
  induction text generalizing star with
  | nil => simp at h
  | cons c text ih =>
    rw [List.cons_append, dropBlock]
    split
    · simp
    rcases List.infix_cons_iff.1 h with ⟨tail, htail⟩ | h
    · cases htail
      simp [dropBlock]
    · exact ih h _

theorem literalBody_contents {escapes : Bool} {contents : List Char}
    (h : LiteralContents escapes contents) {after : List Char}
    (hafter : startsWith '\'' after = false) :
    (literalBody escapes (contents ++ '\'' :: after)).2 = after := by
  induction h with
  | nil =>
    cases after with
    | nil => simp [literalBody]
    | cons d after =>
      have hd : d ≠ '\'' := by simpa [startsWith] using hafter
      simp [literalBody, hd]
  | @plain c cs hc he h ih =>
    have hslash : (escapes && decide (c = '\\')) = false := by simpa using he
    -- what follows is not empty, since the closing quote is still to come
    cases hmore : cs ++ '\'' :: after with
    | nil => simp at hmore
    | cons d more =>
      rw [hmore] at ih
      rw [List.cons_append, hmore, literalBody, if_neg hc, if_neg (by simp [hslash])]
      exact ih
  | quotes h ih =>
    rw [List.cons_append, List.cons_append, literalBody, if_pos rfl, if_pos rfl]
    exact ih
  | escape d he h ih =>
    rw [List.cons_append, List.cons_append, literalBody, if_neg (by decide), if_pos (by simp [he])]
    exact ih

/-- An enclosure that is closed leaves what comes after the text. -/
theorem Opens.after_ne_nil {escapes : Bool} {c : Char} {text inner : List Char} {e : Enclosure}
    (h : Opens escapes c text e inner) (hends : e.Ends inner) :
    e.after (inner ++ [';']) ≠ [] := by
  have hmark : ∀ {x : Char} {after : List Char}, startsWith x after = false → x ≠ ';' →
      startsWith x (after ++ [';']) = false := by
    intro x after hafter hx
    cases after with
    | nil => simpa [startsWith] using hx.symm
    | cons d after => exact hafter
  have hname : ∀ {close : Char}, close ≠ ';' → (Enclosure.name close).Ends inner →
      (Enclosure.name close).after (inner ++ [';']) ≠ [] := by
    rintro close hclose ⟨contents, after, rfl, hafter⟩
    simp [Enclosure.after, quotedBody_doubleQuote _ _ (hmark hafter hclose)]
  have hliteral : ∀ {escapes : Bool}, (Enclosure.literal escapes).Ends inner →
      (Enclosure.literal escapes).after (inner ++ [';']) ≠ [] := by
    rintro escapes ⟨contents, after, hcontents, rfl, hafter⟩
    simp [Enclosure.after, literalBody_contents hcontents (hmark hafter (by decide))]
  cases h with
  | comment => exact dropBlock_ne_nil hends false ';'
  | brackets => exact hname (by decide) hends
  | name hc =>
    refine hname ?_ hends
    rcases hc with rfl | rfl <;> decide
  | literal => exact hliteral hends
  | marked => exact hliteral hends

theorem Opens.unique {escapes : Bool} {c : Char} {text inner inner' : List Char}
    {e e' : Enclosure} (h : Opens escapes c text e inner) (h' : Opens escapes c text e' inner') :
    e' = e ∧ inner' = inner := by
  have hquote : ∀ {c : Char}, c = '"' ∨ c = '\x60' → c.toUpper ≠ 'E' := by
    rintro c (rfl | rfl) <;> decide
  cases h <;> cases h'
  case name.marked hc hmark => exact absurd hmark (hquote hc)
  case marked.name hmark hc => exact absurd hmark (hquote hc)
  all_goals simp_all

/-- Where an enclosure is opened, it is the only one that has to be closed. -/
theorem ClosedText.of_opens {escapes : Bool} {c : Char} {rest inner : List Char} {e : Enclosure}
    (h : Opens escapes c rest e inner) (hends : e.Ends inner)
    (hrest : ClosedText escapes (lexeme escapes c rest).2) : ClosedText escapes (c :: rest) := by
  refine .cons (fun e' inner' h' => ?_) hrest
  obtain ⟨rfl, rfl⟩ := h.unique h'
  exact hends

/-! ## Lexemes of a closed text -/

section
variable {escapes : Bool} {c : Char} {text : List Char}

/-- What begins with the character is a comment to the end of the line. -/
def opensLine (c : Char) (text : List Char) : Bool :=
  c = '#' || c = '-' && startsWith '-' text

theorem opensLine_append (h : opensLine c text = true) (rest : List Char) :
    opensLine c (text ++ rest) = true := by
  cases text with
  | nil => simpa [opensLine, startsWith] using Or.inl h
  | cons d text => exact h

theorem lexeme_of_opensLine (h : opensLine c text = true) :
    lexeme escapes c text = (none, dropLine text) := by
  simp only [opensLine, Bool.or_eq_true, Bool.and_eq_true, decide_eq_true_eq] at h
  rcases h with rfl | ⟨rfl, hdash⟩
  · rfl
  · obtain ⟨tail, rfl⟩ := cons_of_startsWith hdash
    rfl

theorem newline_not_mem (h : dropLine (text ++ [';']) = []) : '\n' ∉ text := by
  induction text with
  | nil => simp
  | cons d text ih =>
    rw [List.cons_append, dropLine] at h
    split at h
    · simp at h
    · rename_i hd
      rw [List.mem_cons, not_or]
      exact ⟨Ne.symm hd, ih h⟩

/-- The letter before a literal is a word of its own. -/
theorem marked_of_wordLexeme
    (hword : Text.sameWord (String.ofList (c :: text.takeWhile isWordChar)) "E" = true)
    (hquote : startsWith '\'' (text.dropWhile isWordChar) = true) :
    c.toUpper = 'E' ∧ ∃ inner, text = '\'' :: inner := by
  obtain ⟨inner, hinner⟩ := cons_of_startsWith hquote
  have hE : c.toUpper = 'E' ∧ text.takeWhile isWordChar = [] := by
    simpa [Text.sameWord] using hword
  refine ⟨hE.1, inner, ?_⟩
  rw [← List.takeWhile_append_dropWhile (p := isWordChar) (l := text), hE.2, hinner]
  rfl

theorem opens_of_wordLexeme (hc : separates c = false) (h : (wordLexeme c (text ++ [';'])).2 = []) :
    ∃ e inner, Opens escapes c text e inner ∧ e.after (inner ++ [';']) = [] := by
  obtain ⟨htake, hdrop, hquote⟩ := span_isWordChar_append (apart_semicolon (c :: text)) hc
  by_cases hmark : (Text.sameWord (String.ofList (c :: text.takeWhile isWordChar)) "E"
      && startsWith '\'' (text.dropWhile isWordChar)) = true
  · rw [Bool.and_eq_true] at hmark
    obtain ⟨hupper, inner, rfl⟩ := marked_of_wordLexeme hmark.1 hmark.2
    have hliteral : wordLexeme c ('\'' :: inner ++ [';']) = literalLexeme true (inner ++ [';']) :=
      wordLexeme_literal (by rw [htake]; exact hmark.1) rfl
    rw [hliteral] at h
    exact ⟨_, inner, .marked hupper inner, h⟩
  · rw [wordLexeme, htake, hdrop, hquote, if_neg hmark] at h
    simp at h

/-- A character of a text sees what it sees before a semicolon. -/
theorem startsWith_semicolon {x : Char} (hx : x ≠ ';') :
    startsWith x (text ++ [';']) = startsWith x text := by
  cases text with
  | nil => simpa [startsWith] using hx.symm
  | cons d text => rfl

theorem opens_of_wordOrLiteral (h : (wordOrLiteral escapes c (text ++ [';'])).2 = []) :
    ∃ e inner, Opens escapes c text e inner ∧ e.after (inner ++ [';']) = [] := by
  have hnumber : ∀ d, separates d = false → (numberLexeme d (text ++ [';'])).2 ≠ [] := by
    intro d hd
    rw [settles_numberLexeme hd text [';'] (apart_semicolon _)]
    simp
  unfold wordOrLiteral at h
  split at h
  · rename_i hc
    subst hc
    rw [startsWith_semicolon (by decide)] at h
    split at h
    · rename_i hempty
      obtain ⟨inner, rfl⟩ := cons_of_startsWith hempty
      simp at h
    · rename_i hopen
      exact ⟨_, text, .brackets (by simpa using hopen), h⟩
  split at h
  · rename_i hc
    exact ⟨_, text, .name (by simpa using hc) text, h⟩
  split at h
  · rename_i hc
    subst hc
    exact ⟨_, text, .literal text, h⟩
  split at h
  · rename_i hdash
    have hc : c = '-' := by simp_all
    exact absurd h (hnumber c (hc ▸ by decide))
  split at h
  · rename_i hdigit
    exact absurd h (hnumber c (separates_of_isDigit hdigit))
  split at h
  · rename_i hword
    exact opens_of_wordLexeme (separates_of_isWordChar (isWordChar_of_isWordStart hword)) h
  · simp at h

/-- Only what has to be closed, and a comment to the end of the line, goes on over a semicolon. -/
theorem opens_of_swallowed (h : (lexeme escapes c (text ++ [';'])).2 = []) :
    opensLine c text = true ∨
      ∃ e inner, Opens escapes c text e inner ∧ e.after (inner ++ [';']) = [] := by
  by_cases hline : opensLine c text = true
  · exact Or.inl hline
  refine Or.inr ?_
  unfold lexeme at h
  split at h
  · rename_i after hlayout
    unfold dropLayout? at hlayout
    rw [startsWith_semicolon (by decide), startsWith_semicolon (by decide)] at hlayout
    simp only [opensLine, Bool.or_eq_true, Bool.and_eq_true, decide_eq_true_eq, not_or] at hline
    split at hlayout
    · cases hlayout
      simp at h
    rw [if_neg (by simpa using hline.2), if_neg hline.1] at hlayout
    split at hlayout
    · rename_i hcomment
      rw [Bool.and_eq_true, decide_eq_true_eq] at hcomment
      obtain ⟨rfl, hstar⟩ := hcomment
      obtain ⟨inner, rfl⟩ := cons_of_startsWith hstar
      cases hlayout
      exact ⟨_, inner, .comment inner, h⟩
    · cases hlayout
  · split at h
    · simp at h
    · exact opens_of_wordOrLiteral h

/-- After a lexeme that closes what it opens, a newline begins the text that follows, unless it ends
a comment. -/
theorem lexeme_newline (hends : ∀ e inner, Opens escapes c text e inner → e.Ends inner)
    (rest : List Char) :
    lexeme escapes c (text ++ '\n' :: rest)
        = ((lexeme escapes c text).1, (lexeme escapes c text).2 ++ '\n' :: rest) ∨
      lexeme escapes c text = (none, []) ∧
        lexeme escapes c (text ++ '\n' :: rest) = (none, rest) := by
  rcases lexeme_append_or escapes text with hsettles | ⟨hend, hopen, -⟩
  · exact Or.inl (hsettles _ (Or.inr rfl))
  rcases opens_of_swallowed hopen with hline | ⟨e, inner, hopens, hafter⟩
  · rw [lexeme_of_opensLine (opensLine_append hline _)] at hopen ⊢
    rw [lexeme_of_opensLine hline] at hend ⊢
    exact Or.inr ⟨congrArg (Prod.mk none) hend,
      congrArg (Prod.mk none) (dropLine_append (newline_not_mem hopen) rest)⟩
  · exact absurd hafter (hopens.after_ne_nil (hends e inner hopens))

end

/-! ## Closed texts and layout -/

variable {escapes : Bool} {a b : List Char}

/-- After a closed text and a newline, a text has the tokens that it has alone. -/
theorem tokens_append_newline (h : ClosedText escapes a) (b : List Char) :
    tokens escapes (a ++ '\n' :: b) = tokens escapes a ++ tokens escapes b := by
  induction h with
  | nil => rw [List.nil_append, tokens_newline, tokens_nil, List.nil_append]
  | @cons c rest hends _ ih =>
    rw [List.cons_append, tokens_cons, tokens_cons]
    rcases lexeme_newline hends b with hnext | ⟨hlast, hnext⟩
    · rw [hnext, ih, List.append_assoc]
    · rw [hnext, hlast, tokens_nil]
      rfl

/-- White space, comments to the end of the line, and comments that are closed. -/
inductive Layout : List Char → Prop where
  | nil : Layout []
  | blank {c : Char} {cs : List Char} (hc : Text.isBlank c = true) (h : Layout cs) :
    Layout (c :: cs)
  | line {opening content cs : List Char} (ho : opening = ['-', '-'] ∨ opening = ['#'])
    (hn : '\n' ∉ content) (h : Layout cs) : Layout (opening ++ content ++ '\n' :: cs)
  /-- The last line needs no end. -/
  | lastLine {opening content : List Char} (ho : opening = ['-', '-'] ∨ opening = ['#'])
    (hn : '\n' ∉ content) : Layout (opening ++ content)
  | block {content cs : List Char} (hc : ¬ ['*', '/'] <:+: content) (h : Layout cs) :
    Layout ('/' :: '*' :: (content ++ '*' :: '/' :: cs))

theorem tokens_line {opening content : List Char} (ho : opening = ['-', '-'] ∨ opening = ['#'])
    (hn : '\n' ∉ content) (rest : List Char) :
    tokens escapes (opening ++ content ++ '\n' :: rest) = tokens escapes rest := by
  rcases ho with rfl | rfl
  · simpa using tokens_lineComment hn rest
  · have hdrop : dropLayout? '#' (content ++ '\n' :: rest)
        = some (dropLine (content ++ '\n' :: rest)) := rfl
    rw [List.singleton_append, List.cons_append, tokens_of_dropLayout hdrop, dropLine_append hn]

theorem dropBlock_content {content : List Char} (hc : ¬ ['*', '/'] <:+: content) (star : Bool)
    (hstar : star = true → content.head? ≠ some '/') (rest : List Char) :
    dropBlock star (content ++ '*' :: '/' :: rest) = rest := by
  induction content generalizing star with
  | nil => simp [dropBlock]
  | cons c content ih =>
    rw [List.infix_cons_iff, not_or] at hc
    rw [List.cons_append, dropBlock, if_neg (by simpa using hstar)]
    refine ih hc.2 _ fun hstar' hslash => hc.1 ?_
    obtain ⟨tail, rfl⟩ := List.head?_eq_some_iff.1 hslash
    rw [of_decide_eq_true hstar']
    exact ⟨tail, rfl⟩

/-- Before a newline, layout has no tokens. -/
theorem tokens_layout {c : List Char} (h : Layout c) (b : List Char) :
    tokens escapes (c ++ '\n' :: b) = tokens escapes b := by
  induction h with
  | nil => exact tokens_newline b
  | blank hc h ih =>
    rw [List.cons_append, tokens_of_dropLayout (by rw [dropLayout?, if_pos hc]), ih]
  | line ho hn h ih => rw [List.append_assoc, List.cons_append, tokens_line ho hn, ih]
  | lastLine ho hn => exact tokens_line ho hn b
  | @block content cs hc h ih =>
    have hdrop : dropLayout? '/' ('*' :: (content ++ '*' :: '/' :: cs) ++ '\n' :: b)
        = some (cs ++ '\n' :: b) := by
      rw [List.cons_append, List.append_assoc]
      exact congrArg some (dropBlock_content hc false (by simp) _)
    rw [List.cons_append, tokens_of_dropLayout hdrop, ih]

/-- The tables of a script lie where they do whatever identities they are given. -/
theorem content_readScript (d : Dialect) (text : String) {K : Type} [Scalar K]
    (metrics : Canvas.TableMetrics K) (ids ids' : IdSupply) :
    (readScript d text).map (fun s => (Workspace.tablesOf metrics ids s).1.map Table.content)
      = (readScript d text).map fun s =>
          (Workspace.tablesOf metrics ids' s).1.map Table.content := by
  cases hread : readScript d text with
  | error e => rfl
  | ok script =>
    have hd := (closed_definitions hread).distinct
    exact congrArg Except.ok ((content_tablesOf metrics ids hd).trans
      (content_tablesOf metrics ids' hd).symm)

/-- **Comments and layout do not matter.** After a closed text and a newline, a text has the tokens
that it has alone. So layout between two lines adds no tokens, and in every dialect the script is
read with the same tables at the same places, the same reports, and the same error if there is one,
whatever identities the tables are given. -/
theorem layout_unread {escapes : Bool} {a : String} (ha : ClosedText escapes a.toList)
    (b : String) :
    tokens escapes (a ++ "\n" ++ b).toList
        = tokens escapes a.toList ++ tokens escapes b.toList ∧
      ∀ c : String, Layout c.toList →
        tokens escapes (a ++ "\n" ++ c ++ "\n" ++ b).toList
            = tokens escapes (a ++ "\n" ++ b).toList ∧
          ∀ d : Dialect, d.backslashEscapes = escapes →
            readScript d (a ++ "\n" ++ c ++ "\n" ++ b) = readScript d (a ++ "\n" ++ b) ∧
              ∀ {K : Type} [Scalar K] (metrics : Canvas.TableMetrics K) (ids ids' : IdSupply),
                (readScript d (a ++ "\n" ++ c ++ "\n" ++ b)).map
                    (fun s => (Workspace.tablesOf metrics ids s).1.map Table.content)
                  = (readScript d (a ++ "\n" ++ b)).map
                    fun s => (Workspace.tablesOf metrics ids' s).1.map Table.content := by
  have htext : ∀ rest : String, (a ++ "\n" ++ rest).toList = a.toList ++ '\n' :: rest.toList := by
    intro rest
    simp
  have hlines : ∀ rest : String, tokens escapes (a ++ "\n" ++ rest).toList
      = tokens escapes a.toList ++ tokens escapes rest.toList := by
    intro rest
    rw [htext, tokens_append_newline ha]
  refine ⟨hlines b, fun c hc => ?_⟩
  have hassoc : a ++ "\n" ++ c ++ "\n" ++ b = a ++ "\n" ++ (c ++ "\n" ++ b) := by
    simp only [String.append_assoc]
  have hlayout : (c ++ "\n" ++ b).toList = c.toList ++ '\n' :: b.toList := by simp
  have hsame : tokens escapes (a ++ "\n" ++ c ++ "\n" ++ b).toList
      = tokens escapes (a ++ "\n" ++ b).toList := by
    rw [hassoc, hlines, hlines, hlayout, tokens_layout hc]
  refine ⟨hsame, fun d hd => ?_⟩
  have hread : readScript d (a ++ "\n" ++ c ++ "\n" ++ b) = readScript d (a ++ "\n" ++ b) := by
    unfold readScript
    rw [hd, hsame]
  refine ⟨hread, fun metrics ids ids' => ?_⟩
  rw [hread]
  exact content_readScript d _ metrics ids ids'

/-- Literals of both kinds, names of two kinds and a comment, all closed, with quotes in them; and a
comment that is left open at the end of the line. -/
def closedLine : String := "''';'/*'*/[\"]E'\\''\"a\"\"\"--'"

/-- Comments of each kind, with quotes in them. -/
def remarkLines : String := "# it's\n /* \" */-- '"

theorem closedText_closedLine : ClosedText false closedLine.toList := by
  refine .of_opens (.literal _) ⟨"'';".toList, _, ?_, rfl, rfl⟩ ?_
  · exact .quotes (.plain (by decide) (by decide) .nil)
  refine .of_opens (c := '/') (.comment _) ⟨['\''], _, rfl⟩ ?_
  refine .of_opens (c := '[') (.brackets rfl) ⟨['"'], _, rfl, rfl⟩ ?_
  refine .of_opens (c := 'E') (.marked rfl _) ⟨['\\', '\''], _, .escape _ rfl .nil, rfl, rfl⟩ ?_
  refine .of_opens (c := '"') (.name (by simp) _) ⟨['a', '"'], _, rfl, rfl⟩ ?_
  refine .cons (c := '-') (fun e inner h => ?_) .nil
  cases h with
  | name hc => simp at hc

theorem layout_remarkLines : Layout remarkLines.toList := by
  refine @Layout.line ['#'] " it's".toList _ (Or.inr rfl) (by decide) (.blank (by decide) ?_)
  refine @Layout.block " \" ".toList _ (by decide) ?_
  exact @Layout.lastLine ['-', '-'] " '".toList (Or.inl rfl) (by decide)

/-- Nothing of the first two texts is taken for a part of the third. -/
theorem layout_unread_closedLine :
    ClosedText false closedLine.toList ∧ Layout remarkLines.toList ∧
      tokens false closedLine.toList
        = [.literal "';", .quoted "\"", .literal "'", .quoted "a\""] ∧
      tokens false (closedLine ++ "\n" ++ remarkLines ++ "\n" ++ "CREATE TABLE t ();").toList
        = tokens false closedLine.toList ++ tokens false "CREATE TABLE t ();".toList := by
  obtain ⟨hlines, hlayout⟩ := layout_unread closedText_closedLine "CREATE TABLE t ();"
  refine ⟨closedText_closedLine, layout_remarkLines, by decide +kernel, ?_⟩
  rw [(hlayout remarkLines layout_remarkLines).1, hlines]

end SchemaGraph.Sql
