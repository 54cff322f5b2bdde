import SchemaGraph.Sql.Token
import SchemaGraph.Text.Letter

/-!
# From text to tokens

The text is read one lexeme at a time. A lexeme is a token, or it is something that a schema has no
use for: white space, a comment, an operator. `tokens` puts the lexemes together; it ends because no
lexeme gives characters back (`lexeme_length_le`).
-/

namespace SchemaGraph.Sql

/-- A character that continues a bare word. -/
def isWordChar (c : Char) : Bool := Text.isAlphanumeric c || c = '_' || c = '$'

/-- A character that begins a bare word. -/
def isWordStart (c : Char) : Bool := Text.isAlphabetic c || c = '_'

/-! ## Pieces of a lexeme

Each reader takes the text after the characters that announced the piece, and returns what follows
the piece, preceded by the piece's contents where it has any. -/

/-- The text after the current line (`skip_line`). -/
def dropLine : List Char → List Char
  | [] => []
  | c :: rest => if c = '\n' then rest else dropLine rest

/-- The text after a block comment (`skip_block_comment`). `star` tells that the last character was
an asterisk that may begin the closing pair. -/
def dropBlock (star : Bool) : List Char → List Char
  | [] => []
  | c :: rest => if star && c = '/' then rest else dropBlock (c = '*') rest

/-- The body of a quoted name, up to its closing quote (`quoted`). A doubled closing quote stands
for one. -/
def quotedBody (close : Char) : List Char → List Char × List Char
  | [] => ([], [])
  | [c] => if c = close then ([], []) else ([c], [])
  | c :: d :: rest =>
    if c = close then
      if d = close then
        let (body, after) := quotedBody close rest
        (c :: body, after)
      else ([], d :: rest)
    else
      let (body, after) := quotedBody close (d :: rest)
      (c :: body, after)

/-- The character that a backslash and `c` stand for. -/
def escaped (c : Char) : Char :=
  if c = 'n' then '\n' else if c = 't' then '\t' else if c = 'r' then '\r' else c

/-- The body of a string literal, up to its closing quote (`string`). Two quotes stand for one; a
backslash is an escape only where the dialect has such escapes. -/
def literalBody (escapes : Bool) : List Char → List Char × List Char
  | [] => ([], [])
  | [c] =>
    if c = '\'' then ([], [])
    else if escapes && c = '\\' then ([], [])
    else ([c], [])
  | c :: d :: rest =>
    if c = '\'' then
      if d = '\'' then
        let (body, after) := literalBody escapes rest
        (c :: body, after)
      else ([], d :: rest)
    else if escapes && c = '\\' then
      let (body, after) := literalBody escapes rest
      (escaped d :: body, after)
    else
      let (body, after) := literalBody escapes (d :: rest)
      (c :: body, after)

/-- The digits of a number after its first character, with at most one point (`number`). -/
def numberTail (point : Bool) : List Char → List Char × List Char
  | [] => ([], [])
  | c :: rest =>
    if c.isDigit then
      let (digits, after) := numberTail point rest
      (c :: digits, after)
    else if c = '.' && !point then
      let (digits, after) := numberTail true rest
      (c :: digits, after)
    else ([], c :: rest)

def startsWith (c : Char) (cs : List Char) : Bool := cs.head? == some c

/-! ## Lexemes -/

def wordToken (s : String) : Token :=
  match Keyword.ofWord? s with
  | some k => .keyword k
  | none => .word s

def quotedLexeme (close : Char) (rest : List Char) : Option Token × List Char :=
  let read := quotedBody close rest
  (some (.quoted (String.ofList read.1)), read.2)

def literalLexeme (escapes : Bool) (rest : List Char) : Option Token × List Char :=
  let read := literalBody escapes rest
  (some (.literal (String.ofList read.1)), read.2)

def numberLexeme (c : Char) (rest : List Char) : Option Token × List Char :=
  let read := numberTail false rest
  (some (.number (String.ofList (c :: read.1))), read.2)

/-- A bare word that begins with `c` (`word`); or, after the word `E`, a string literal with
escapes. -/
def wordLexeme (c : Char) (rest : List Char) : Option Token × List Char :=
  let word := String.ofList (c :: rest.takeWhile isWordChar)
  let after := rest.dropWhile isWordChar
  if Text.sameWord word "E" && startsWith '\'' after then literalLexeme true after.tail
  else (some (wordToken word), after)

/-- The token of a sign that stands for itself. -/
def sign? (c : Char) : Option Token :=
  match c with
  | '(' => some .leftParen
  | ')' => some .rightParen
  | ',' => some .comma
  | ';' => some .semicolon
  | '.' => some .dot
  | _ => none

/-- The text after the blank or the comment that begins with `c`, if one does. -/
def dropLayout? (c : Char) (rest : List Char) : Option (List Char) :=
  if Text.isBlank c then some rest
  else if c = '-' && startsWith '-' rest then some (dropLine rest)
  else if c = '#' then some (dropLine rest)
  else if c = '/' && startsWith '*' rest then some (dropBlock false rest.tail)
  else none

/-- The name, literal, number or word that begins with `c`. Any other character is an operator, and
has no token. -/
def wordOrLiteral (escapes : Bool) (c : Char) (rest : List Char) : Option Token × List Char :=
  if c = '[' then
    if startsWith ']' rest then (some .brackets, rest.tail) else quotedLexeme ']' rest
  else if c = '"' || c = '\x60' then quotedLexeme c rest
  else if c = '\'' then literalLexeme escapes rest
  else if c = '-' && rest.head?.any Char.isDigit then numberLexeme c rest
  else if c.isDigit then numberLexeme c rest
  else if isWordStart c then wordLexeme c rest
  else (none, rest)

/-- The lexeme that begins with `c` (`next_token`): its token, if it has one, and the text after
it. -/
def lexeme (escapes : Bool) (c : Char) (rest : List Char) : Option Token × List Char :=
  match dropLayout? c rest with
  | some after => (none, after)
  | none => match sign? c with
    | some t => (some t, rest)
    | none => wordOrLiteral escapes c rest

/-! ## Nothing is given back

What follows a lexeme is the end of the text. -/

theorem dropLine_suffix (cs : List Char) : dropLine cs <:+ cs := by
  induction cs with
  | nil => exact List.suffix_refl _
  | cons c cs ih =>
    rw [dropLine]
    split
    · exact List.suffix_cons c cs
    · exact ih.trans (List.suffix_cons c cs)

theorem dropBlock_suffix (star : Bool) (cs : List Char) : dropBlock star cs <:+ cs := by
  induction cs generalizing star with
  | nil => exact List.suffix_refl _
  | cons c cs ih =>
    rw [dropBlock]
    split
    · exact List.suffix_cons c cs
    · exact (ih _).trans (List.suffix_cons c cs)

theorem quotedBody_suffix (close : Char) (cs : List Char) : (quotedBody close cs).2 <:+ cs := by
  fun_induction quotedBody close cs with
  | case1 => exact List.suffix_refl _
  | case2 => exact List.nil_suffix
  | case3 => exact List.nil_suffix
  | case4 rest body after hread ih =>
    rw [hread] at ih
    exact (ih.trans (List.suffix_cons _ rest)).trans (List.suffix_cons _ _)
  | case5 => exact List.suffix_cons ..
  | case6 c d rest _ body after hread ih =>
    rw [hread] at ih
    exact ih.trans (List.suffix_cons c _)

theorem literalBody_suffix (escapes : Bool) (cs : List Char) :
    (literalBody escapes cs).2 <:+ cs := by
  fun_induction literalBody escapes cs with
  | case1 => exact List.suffix_refl _
  | case2 => exact List.nil_suffix
  | case3 => exact List.nil_suffix
  | case4 => exact List.nil_suffix
  | case5 rest body after hread ih =>
    rw [hread] at ih
    exact (ih.trans (List.suffix_cons _ rest)).trans (List.suffix_cons _ _)
  | case6 => exact List.suffix_cons ..
  | case7 c d rest _ _ body after hread ih =>
    rw [hread] at ih
    exact (ih.trans (List.suffix_cons d rest)).trans (List.suffix_cons c _)
  | case8 c d rest _ _ body after hread ih =>
    rw [hread] at ih
    exact ih.trans (List.suffix_cons c _)

theorem numberTail_suffix (point : Bool) (cs : List Char) : (numberTail point cs).2 <:+ cs := by
  fun_induction numberTail point cs with
  | case1 => exact List.suffix_refl _
  | case2 point c rest _ digits after hread ih =>
    rw [hread] at ih
    exact ih.trans (List.suffix_cons c rest)
  | case3 point c rest _ _ digits after hread ih =>
    rw [hread] at ih
    exact ih.trans (List.suffix_cons c rest)
  | case4 => exact List.suffix_refl _

theorem dropLayout?_suffix {c : Char} {rest after : List Char}
    (h : dropLayout? c rest = some after) : after <:+ rest := by
  unfold dropLayout? at h
  split at h
  · cases h
    exact List.suffix_refl _
  split at h
  · cases h
    exact dropLine_suffix rest
  split at h
  · cases h
    exact dropLine_suffix rest
  split at h
  · cases h
    exact (dropBlock_suffix false _).trans (List.tail_suffix rest)
  · cases h

theorem wordLexeme_suffix (c : Char) (rest : List Char) : (wordLexeme c rest).2 <:+ rest := by
  have hword : rest.dropWhile isWordChar <:+ rest := List.dropWhile_suffix _
  unfold wordLexeme
  dsimp only
  split
  · exact ((literalBody_suffix true _).trans (List.tail_suffix _)).trans hword
  · exact hword

theorem wordOrLiteral_suffix (escapes : Bool) (c : Char) (rest : List Char) :
    (wordOrLiteral escapes c rest).2 <:+ rest := by
  unfold wordOrLiteral
  split
  · split
    · exact List.tail_suffix rest
    · exact quotedBody_suffix _ rest
  split
  · exact quotedBody_suffix c rest
  split
  · exact literalBody_suffix escapes rest
  split
  · exact numberTail_suffix false rest
  split
  · exact numberTail_suffix false rest
  split
  · exact wordLexeme_suffix c rest
  · exact List.suffix_refl _

theorem lexeme_suffix (escapes : Bool) (c : Char) (rest : List Char) :
    (lexeme escapes c rest).2 <:+ rest := by
  unfold lexeme
  split
  · exact dropLayout?_suffix ‹_›
  · split
    · exact List.suffix_refl _
    · exact wordOrLiteral_suffix escapes c rest

theorem lexeme_length_le (escapes : Bool) (c : Char) (rest : List Char) :
    (lexeme escapes c rest).2.length ≤ rest.length := (lexeme_suffix escapes c rest).length_le

/-! ## The whole text -/

/-- The tokens of a text (`tokenize`). -/
def tokens (escapes : Bool) : List Char → List Token
  | [] => []
  | c :: rest =>
    let step := lexeme escapes c rest
    step.1.toList ++ tokens escapes step.2
termination_by cs => cs.length
decreasing_by
  have := lexeme_length_le escapes c rest
  simp only [List.length_cons]
  omega

theorem tokens_nil (escapes : Bool) : tokens escapes [] = [] := by unfold tokens; rfl

theorem tokens_cons (escapes : Bool) (c : Char) (rest : List Char) :
    tokens escapes (c :: rest) =
      (lexeme escapes c rest).1.toList ++ tokens escapes (lexeme escapes c rest).2 := by
  rw [tokens]

end SchemaGraph.Sql
