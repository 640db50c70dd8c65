import PeripheralBridge.Text.Width.Single

/-!
# Ligatures

Letters of some scripts take fewer columns together than apart. Text is read from its end
here, so a ligature starts with its last letter, and each character before it goes on with
the ligature or does not.
-/

namespace PeripheralBridge.Width

/-- What has been read of a ligature. Where it matters, `joined` tells whether a zero width
joiner stands before it. -/
inductive Ligature where
  /-- An Arabic alef, with the marks that stand before it. -/
  | alef
  /-- A Hebrew lamed. -/
  | lamed (joined : Bool)
  /-- A Khmer letter that the coeng sign puts below the one before it. -/
  | subscript
  /-- A Buginese ya. -/
  | ya (joined : Bool)
  /-- A Buginese vowel sign I and a ya. -/
  | vowelYa
  /-- A Tifinagh consonant. -/
  | consonant (joined : Bool)
  /-- The Tifinagh joiner and a consonant. -/
  | joinerConsonant
  /-- A Lisu tone letter that may be the second of two. -/
  | tone
  /-- An Old Turkic Orkhon I. -/
  | orkhonI (joined : Bool)
  /-- A Kirat Rai vowel sign E. -/
  | vowelE
  /-- A Kirat Rai vowel sign AI, or two vowel signs that make one. -/
  | vowelAi
  deriving DecidableEq, Repr

namespace Ligature

/-- Arabic letters of the form of an alef. -/
def alefs : CodeRanges :=
  [(0x622, 0x623), (0x625, 0x625), (0x627, 0x627), (0x671, 0x673), (0x675, 0x675),
  (0x773, 0x774), (0x870, 0x882)]

/-- Arabic letters of the form of a lam. -/
def lams : CodeRanges :=
  [(0x644, 0x644), (0x6B5, 0x6B8), (0x76A, 0x76A), (0x8A6, 0x8A6), (0x8C7, 0x8C7)]

/-- Khmer letters that may stand below another. -/
def subscripts : CodeRanges :=
  [(0x1780, 0x1782), (0x1784, 0x1787), (0x1789, 0x178C), (0x178E, 0x1793), (0x1795, 0x1798),
  (0x179B, 0x179D), (0x17A0, 0x17A0), (0x17A2, 0x17A2), (0x17A7, 0x17A7), (0x17AB, 0x17AC),
  (0x17AF, 0x17AF)]

def consonants : CodeRanges := [(0x2D31, 0x2D65), (0x2D6F, 0x2D6F)]

/-- The first letters of a pair of Lisu tone letters. -/
def firstTones : CodeRanges := [(0xA4F8, 0xA4FB)]

/-- The ligature that a letter may be the end of. -/
def ofChar? (c : Char) : Option Ligature :=
  if alefs.has c then some alef
  else if c = '\u05DC' then some (lamed false)
  else if subscripts.has c then some subscript
  else if c = '\u1A10' then some (ya false)
  else if consonants.has c then some (consonant false)
  else if c = '\uA4FC' ∨ c = '\uA4FD' then some tone
  else if c.toNat = 0x10C03 then some (orkhonI false)
  else if c.toNat = 0x16D67 then some vowelE
  else if c.toNat = 0x16D68 then some vowelAi
  else none

/-- Selectors of variation do not part the letters. -/
def holdsSelectors : Ligature → Bool
  | vowelE | vowelAi => false
  | _ => true

/-- Joiners and other characters without a column do not part the letters. -/
def holdsJoiners : Ligature → Bool
  | alef | vowelE | vowelAi => false
  | _ => true

/-- Characters that do not part the letters of a ligature that holds joiners. -/
def seams : CodeRanges :=
  [(0x34F, 0x34F), (0x17B4, 0x17B5), (0x180B, 0x180D), (0x180F, 0x180F), (0xFE00, 0xFE0F),
  (0xE0100, 0xE01EF)]

/-- A zero width joiner stands before what has been read. -/
def join : Ligature → Ligature
  | lamed _ => lamed true
  | ya _ => ya true
  | consonant _ => consonant true
  | orkhonI _ => orkhonI true
  | other => other

/-- The columns that a character adds to a ligature, if it goes on with it, and what has been
read of it then: nothing, once the ligature is whole. -/
def extend? (l : Ligature) (c : Char) : Option (Int × Option Ligature) :=
  match l with
  | alef =>
    if lams.has c then some (0, none) else if isMark c then some (0, some alef) else none
  | lamed joined => if joined ∧ c = '\u05D0' then some (0, none) else none
  | subscript => if c = '\u17D2' then some (-1, none) else none
  | ya joined => if joined ∧ c = '\u1A17' then some (0, some vowelYa) else none
  | vowelYa => if c = '\u1A15' then some (0, none) else none
  | consonant joined =>
    if c = '\u2D7F' then some (1, some joinerConsonant)
    else if joined ∧ consonants.has c then some (0, none)
    else none
  | joinerConsonant => if consonants.has c then some (-1, none) else none
  | tone => if firstTones.has c then some (0, none) else none
  | orkhonI joined => if joined ∧ c.toNat = 0x10C32 then some (0, none) else none
  | vowelE =>
    if c.toNat = 0x16D63 ∨ c.toNat = 0x16D69 then some (0, none)
    else if c.toNat = 0x16D67 then some (0, some vowelAi)
    else if c.toNat = 0x16D68 then some (1, some vowelE)
    else none
  | vowelAi => if c.toNat = 0x16D63 then some (0, none) else none

end Ligature

end PeripheralBridge.Width
