import SchemaGraph.Text.WidthTable

/-!
# Ligatures of scripts

In some scripts a few letters are drawn as one sign, which is then narrower than the letters. Such a
ligature is recognised from its end: its last letter leaves it open, and the letters to the left
complete it. A joiner may be asked for between two letters; marks that are ignored where they are
not understood never stand in the way.
-/

namespace SchemaGraph.Text

/-- The joiner, which takes no column and asks that its neighbours are drawn as one sign. -/
def joiner : Char := '\u200D'

/-! ## Arabic lam and alef -/

def isAlef (c : Char) : Bool :=
  inRanges [(0x0622, 0x0623), (0x0625, 0x0625), (0x0627, 0x0627), (0x0671, 0x0673),
    (0x0675, 0x0675), (0x0773, 0x0774), (0x0870, 0x0882)] c

def isLam (c : Char) : Bool :=
  inRanges [(0x0644, 0x0644), (0x06B5, 0x06B8), (0x076A, 0x076A), (0x08A6, 0x08A6),
    (0x08C7, 0x08C7)] c

/-- A mark that lam and alef join across. -/
def isTransparent (c : Char) : Bool := inRanges zeroWidthRanges c && !inRanges blockingRanges c

/-! ## Other scripts -/

def isTifinagh (c : Char) : Bool := inRanges [(0x2D31, 0x2D65), (0x2D6F, 0x2D6F)] c

/-- The Khmer letters that are drawn below the letter before them, with no column of their own,
after the sign that asks for it. -/
def isSubscript (c : Char) : Bool :=
  inRanges [(0x1780, 0x1782), (0x1784, 0x1787), (0x1789, 0x178C), (0x178E, 0x1793),
    (0x1795, 0x1798), (0x179B, 0x179D), (0x17A0, 0x17A0), (0x17A2, 0x17A2), (0x17A7, 0x17A7),
    (0x17AB, 0x17AC), (0x17AF, 0x17AF)] c

/-- The end of a ligature, already counted. Some letters complete it only if a joiner stands between
them: `joined` tells that there is one. The scripts are Hebrew, Buginese, Tifinagh, Lisu, Old
Turkic, Khmer and Kirat Rai, in this order. -/
inductive LigatureEnd where
  | lamed (joined : Bool)
  | ya (joined : Bool)
  | vowelSignYa
  | consonant (joined : Bool)
  | drawnJoiner
  | tone
  | orkhonI (joined : Bool)
  | subscript
  | vowelE
  | vowelAi
  deriving DecidableEq, Repr

namespace LigatureEnd

def ofChar? (c : Char) : Option LigatureEnd :=
  if c = '\u05DC' then some (lamed false)
  else if c = '\u1A10' then some (ya false)
  else if isTifinagh c then some (consonant false)
  else if c = '\uA4FC' || c = '\uA4FD' then some tone
  else if c.toNat = 0x10C03 then some (orkhonI false)
  else if isSubscript c then some subscript
  else if c.toNat = 0x16D67 then some vowelE
  else if c.toNat = 0x16D68 then some vowelAi
  else none

/-- Joiners and ignorable marks leave the ligature open. A vowel sign is made of vowel signs
alone. -/
def isOpen : LigatureEnd → Bool
  | vowelE | vowelAi => false
  | _ => true

def withJoiner : LigatureEnd → LigatureEnd
  | lamed _ => lamed true
  | ya _ => ya true
  | consonant _ => consonant true
  | orkhonI _ => orkhonI true
  | e => e

/-- What a letter adds when it goes on with the ligature, and what is open then. Where the sign is
no wider than what was counted, it takes back a column. -/
def extend? (e : LigatureEnd) (c : Char) : Option (Int × Option LigatureEnd) :=
  match e with
  | lamed joined => if joined && c = '\u05D0' then some (0, none) else none
  | ya joined => if joined && c = '\u1A17' then some (0, some vowelSignYa) else none
  | vowelSignYa => if c = '\u1A15' then some (0, none) else none
  | consonant joined =>
    if c = '\u2D7F' then some (1, some drawnJoiner)
    else if joined && isTifinagh c then some (0, none)
    else none
  | drawnJoiner => if isTifinagh c then some (-1, none) else none
  | tone => if inRanges [(0xA4F8, 0xA4FB)] c then some (0, none) else none
  | orkhonI joined => if joined && c.toNat = 0x10C32 then some (0, none) else none
  | subscript => if c = '\u17D2' then some (-1, none) else none
  | vowelE =>
    if c.toNat = 0x16D63 || c.toNat = 0x16D69 then some (0, none)
    else if c.toNat = 0x16D67 then some (0, some vowelAi)
    else if c.toNat = 0x16D68 then some (1, some vowelE)
    else none
  | vowelAi => if c.toNat = 0x16D63 then some (0, none) else none

end LigatureEnd

end SchemaGraph.Text
