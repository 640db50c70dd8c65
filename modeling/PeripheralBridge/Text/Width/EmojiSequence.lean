import PeripheralBridge.Text.Emoji

/-!
# Sequences of emoji

A picture may be written with several characters: a picture and a colour of skin, the two
letters of a flag, a flag with tags for a part of a country, and pictures with zero width
joiners between them. They take two columns together. Text is read from its end here, so a
sequence starts with its last character.
-/

namespace PeripheralBridge.Width

inductive EmojiSequence where
  | picture
  /-- A zero width joiner and a sequence. -/
  | joined
  /-- The sign of a keycap, a joiner and a sequence. -/
  | joinedKeycap
  /-- A colour of skin. -/
  | colour
  /-- One letter of a flag. -/
  | letter
  /-- Several letters of flags. -/
  | letters
  /-- A letter of a flag, a joiner and a sequence. -/
  | joinedLetter
  /-- Letters of flags, an even or an odd number of them, a joiner and a sequence. -/
  | joinedLetters (even : Bool)
  /-- The tag that ends others, a joiner and a sequence. -/
  | tagEnd
  /-- Tags that stand for letters, and the tag that ends them. -/
  | tagLetters (count : Nat)
  /-- Tags that stand for digits, and those after them. -/
  | tagDigits (count : Nat)
  deriving DecidableEq, Repr

namespace EmojiSequence

/-- The sequence that a character may be the end of. -/
def ofChar? (c : Char) : Option EmojiSequence :=
  if Emoji.isFlagLetter c then some letter
  else if Emoji.isColour c then some colour
  else if Emoji.isPicture c then some picture
  else none

/-- A joiner, or a keycap and a joiner, has been read last. -/
def isJoined : EmojiSequence → Bool
  | joined | joinedKeycap => true
  | _ => false

def isTagLetter (c : Char) : Bool := 0xE0061 ≤ c.toNat && c.toNat ≤ 0xE007A

def isTagDigit (c : Char) : Bool := 0xE0030 ≤ c.toNat && c.toNat ≤ 0xE0039

/-- The black flag, which tags turn into another. -/
def isFlag (c : Char) : Bool := c.toNat = 0x1F3F4

/-- A zero width joiner goes on with a sequence that could stand alone. -/
def join? (c : Char) : Option (Int × EmojiSequence) :=
  if c = '\u200D' then some (0, joined) else none

/-- The columns that a character adds to a sequence, if it goes on with it, and what has been
read of it then. -/
def extend? (s : EmojiSequence) (c : Char) : Option (Int × EmojiSequence) :=
  match s with
  | picture => join? c
  | joined =>
    if c = '\u20E3' then some (0, joinedKeycap)
    else if Emoji.isFlagLetter c then some (1, joinedLetter)
    else if Emoji.isColour c then some (0, colour)
    else if c.toNat = 0xE007F then some (0, tagEnd)
    else if Emoji.isPicture c then some (0, picture)
    else none
  | joinedKeycap => none
  | colour => if Emoji.isColoured c then some (0, picture) else join? c
  | letter => if Emoji.isFlagLetter c then some (1, letters) else none
  | letters => if Emoji.isFlagLetter c then some (1, letters) else join? c
  | joinedLetter => if Emoji.isFlagLetter c then some (-1, joinedLetters true) else none
  | joinedLetters even =>
    if Emoji.isFlagLetter c then some (if even then 3 else -1, joinedLetters !even) else join? c
  | tagEnd =>
    if isTagLetter c then some (0, tagLetters 1)
    else if isTagDigit c then some (0, tagDigits 1)
    else none
  | tagLetters count =>
    if isTagLetter c ∧ count < 6 then some (0, tagLetters (count + 1))
    else if isTagDigit c ∧ count ≤ 4 then some (0, tagDigits 1)
    else if isFlag c ∧ 3 ≤ count then some (0, picture)
    else none
  | tagDigits count =>
    if isTagDigit c ∧ count < 3 then some (0, tagDigits (count + 1))
    else if isFlag c ∧ 3 ≤ count then some (0, picture)
    else none

end EmojiSequence

end PeripheralBridge.Width
