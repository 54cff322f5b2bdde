import SchemaGraph.Text.EmojiSequence

/-!
# Width of text in columns

How many columns of a fixed-width face a text takes. Most characters take one column; wide ones take
two and combining ones none. A few sequences are drawn as one sign and so are narrower, or wider,
than their characters: a line break of two characters, a sign with a selector, emoji of several
characters and the ligatures of scripts. Such a sequence is recognised from its end, so the text is
read from right to left and each character sees what follows it.
-/

namespace SchemaGraph.Text

/-- What stands to the right of a character, as far as it matters to the character's width. -/
inductive Sign where
  | plain
  | lineFeed
  | alef
  | emoji (ending : EmojiEnd)
  | ligature (ending : LigatureEnd)
  deriving DecidableEq, Repr

/-- A character that chooses how the one before it is drawn: a quotation mark wide, an emoji as a
narrow sign, or a sign as an emoji. -/
inductive Selector where
  | wideQuote
  | text
  | emoji
  deriving DecidableEq, Repr

namespace Selector

def ofChar? (c : Char) : Option Selector :=
  if c = '\uFE01' then some wideQuote
  else if c = '\uFE0E' then some text
  else if c = '\uFE0F' then some emoji
  else none

/-- The columns of a character before the selector, if the selector applies to it. -/
def columns? (s : Selector) (c : Char) : Option Nat :=
  match s with
  | wideQuote =>
    if c = '\u2018' || c = '\u2019' || c = '\u201C' || c = '\u201D' then some 2 else none
  | text => if inRanges textSelectableRanges c then some 1 else none
  | emoji => if inRanges emojiSelectableRanges c then some 2 else none

end Selector

namespace Sign

def charColumns (c : Char) : Nat :=
  if c.toNat ≤ 0xA0 then 1
  else if inRanges zeroWidthRanges c then 0
  else if c.toNat = 0x17D8 then 3
  else if inRanges wideRanges c then 2
  else 1

/-- What a character is to the one before it, when it is drawn on its own. -/
def ofChar (c : Char) : Sign :=
  if c = '\n' then lineFeed
  else if isAlef c then alef
  else match LigatureEnd.ofChar? c, EmojiEnd.ofChar? c with
    | some e, _ => ligature e
    | none, some e => emoji e
    | none, none => plain

/-- What a character adds that goes on with the sign to its right, and the sign there is then. -/
def extend? (s : Sign) (c : Char) : Option (Int × Sign) :=
  match s with
  | plain => none
  | lineFeed => if c = '\r' then some (0, plain) else none
  | alef => if isLam c then some (0, plain) else if isTransparent c then some (0, alef) else none
  | emoji e => (e.extend? c).map fun (added, longer) => (added, emoji longer)
  | ligature e =>
    if e.isOpen && c = joiner then some (0, ligature e.withJoiner)
    else if e.isOpen && inRanges ignorableMarkRanges c then some (0, ligature e)
    else (e.extend? c).map fun (added, longer) => (added, (longer.map ligature).getD plain)

def outlastsSelector : Sign → Bool
  | alef => true
  | ligature e => e.isOpen
  | _ => false

def awaitsEmoji : Sign → Bool
  | emoji e => e.awaitsEmoji
  | _ => false

end Sign

/-- What follows a character: perhaps a selector, and then a sign. -/
structure Following where
  sign : Sign
  selector : Option Selector
  deriving DecidableEq, Repr

namespace Following

def plain : Following := ⟨.plain, none⟩

def withoutSelector (next : Following) : Following :=
  if next.selector.isNone then next
  else if next.sign.outlastsSelector then ⟨next.sign, none⟩
  else plain

/-- What follows with a selector before it. An emoji selector keeps a joined emoji in wait. -/
def withSelector (next : Following) (s : Selector) : Following :=
  if next.sign.outlastsSelector || (s == .emoji && next.sign.awaitsEmoji) then ⟨next.sign, some s⟩
  else ⟨.plain, some s⟩

/-- The columns of a character that the selector applies to, and what the two are to the character
before them. -/
def select? (next : Following) (c : Char) : Option (Int × Following) :=
  match next.selector with
  | none => none
  | some s => (s.columns? c).map fun (width : Nat) =>
    if s = .emoji then (if next.sign.awaitsEmoji then 0 else width, ⟨.emoji .complete, none⟩)
    else (width, plain)

/-- The columns that a character adds, given what follows it, and what follows the character
before it. -/
def columnsBefore (next : Following) (c : Char) : Int × Following :=
  match next.select? c with
  | some chosen => chosen
  | none =>
    let next := next.withoutSelector
    match Selector.ofChar? c, next.sign.extend? c with
    | some s, _ => (0, next.withSelector s)
    | none, some (added, sign) => (added, ⟨sign, none⟩)
    | none, none => (Sign.charColumns c, ⟨Sign.ofChar c, none⟩)

/-- The columns of a text, and what follows a character put before it. -/
def ofText : List Char → Int × Following
  | [] => (0, plain)
  | c :: rest =>
    let (width, next) := ofText rest
    let (added, here) := next.columnsBefore c
    (width + added, here)

end Following

/-- The width of a text in columns. -/
def columns (s : String) : Nat := (Following.ofText s.toList).1.toNat

end SchemaGraph.Text
