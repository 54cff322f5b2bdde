import SchemaGraph.Text.Ligature

/-!
# Emoji made of several characters

A skin tone belongs to the emoji before it, two regional indicators make a flag, and a joiner makes
one emoji of two. The joined emoji may itself be made of several characters: a keycap, a flag, or a
black flag with the tags of a region. All of these are recognised from their end.
-/

namespace SchemaGraph.Text

/-- A skin-tone modifier. -/
def isModifier (c : Char) : Bool := inRanges [(0x1F3FB, 0x1F3FF)] c

def isRegional (c : Char) : Bool := inRanges [(0x1F1E6, 0x1F1FF)] c

/-- The end of an emoji that is joined to the one after it: nothing but the joiner, the mark of a
keycap, flags of which the first may lack a half, or the last tags of a region with the number of
letters or digits that they begin with. -/
inductive JoinedEnd where
  | bare
  | keycap
  | oddRegions
  | flags
  | letterTags (count : Nat)
  | digitTags (count : Nat)
  deriving DecidableEq, Repr

/-- The end of an emoji, already counted. Before a joiner it goes on with what is joined to it. -/
inductive EmojiEnd where
  | complete
  | modifier
  | region
  | regions
  | joined (part : JoinedEnd)
  deriving DecidableEq, Repr

namespace JoinedEnd

/-- Tags spell a region: two letters or three digits, and at least one more letter or digit. -/
def endsRegion : JoinedEnd → Bool
  | letterTags count => decide (3 ≤ count)
  | digitTags count => decide (count = 3)
  | _ => false

def withTag? (e : JoinedEnd) (c : Char) : Option JoinedEnd :=
  let isLetter := inRanges [(0xE0061, 0xE007A)] c
  let isDigit := inRanges [(0xE0030, 0xE0039)] c
  match e with
  | letterTags count =>
    if isLetter && count < 6 then some (letterTags (count + 1))
    else if isDigit && count < 5 then some (digitTags 1)
    else none
  | digitTags count => if isDigit && count < 3 then some (digitTags (count + 1)) else none
  | _ => none

/-- What a character adds that goes on with the joined emoji, and the end there is then. A regional
indicator counts by itself; with its other half it makes one flag that needs no column. -/
def extend? (e : JoinedEnd) (c : Char) : Option (Int × EmojiEnd) :=
  match e with
  | bare =>
    if c = '\u20E3' then some (0, .joined keycap)
    else if isRegional c then some (1, .joined oddRegions)
    else if isModifier c then some (0, .modifier)
    else if c.toNat = 0xE007F then some (0, .joined (letterTags 0))
    else if inRanges emojiPresentationRanges c then some (0, .complete)
    else none
  | keycap => none
  | oddRegions => if isRegional c then some (-1, .joined flags) else none
  | flags =>
    if isRegional c then some (3, .joined oddRegions)
    else if c = joiner then some (0, .joined bare)
    else none
  | tags =>
    if tags.endsRegion && c.toNat = 0x1F3F4 then some (0, .complete)
    else (tags.withTag? c).map fun longer => (0, .joined longer)

end JoinedEnd

namespace EmojiEnd

def ofChar? (c : Char) : Option EmojiEnd :=
  if isModifier c then some modifier
  else if isRegional c then some region
  else if inRanges emojiPresentationRanges c then some complete
  else none

/-- A joiner stands before the emoji, so that a character with an emoji selector is part of it. -/
def awaitsEmoji : EmojiEnd → Bool
  | joined .bare | joined .keycap => true
  | _ => false

def extend? (e : EmojiEnd) (c : Char) : Option (Int × EmojiEnd) :=
  match e with
  | complete => if c = joiner then some (0, joined .bare) else none
  | modifier =>
    if inRanges modifierBaseRanges c then some (0, complete)
    else if c = joiner then some (0, joined .bare)
    else none
  | region => if isRegional c then some (1, regions) else none
  | regions =>
    if isRegional c then some (1, regions)
    else if c = joiner then some (0, joined .bare)
    else none
  | joined part => part.extend? c

end EmojiEnd

end SchemaGraph.Text
