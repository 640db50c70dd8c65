import PeripheralBridge.Text.Width.EmojiSequence
import PeripheralBridge.Text.Width.Ligature

/-!
# Columns of text

How many columns of a terminal a text takes. The text is read from its end. Most characters
take the columns that they take by themselves, but a selector of variation changes the
character before it, and the characters of a ligature or of a sequence of emoji take fewer
columns together than apart.
-/

namespace PeripheralBridge.Width

/-- What the characters after a place have begun. -/
inductive Run where
  | empty
  | ligature (l : Ligature)
  | emoji (s : EmojiSequence)
  deriving DecidableEq, Repr

namespace Run

/-- What a character begins by itself. -/
def ofChar (c : Char) : Run :=
  match EmojiSequence.ofChar? c, Ligature.ofChar? c with
  | some s, _ => emoji s
  | none, some l => ligature l
  | none, none => empty

def holdsSelectors : Run → Bool
  | ligature l => l.holdsSelectors
  | _ => false

def isJoined : Run → Bool
  | emoji s => s.isJoined
  | _ => false

/-- The columns that a character adds if it goes on with the run, and the run then. -/
def extend? (r : Run) (c : Char) : Option (Int × Run) :=
  match r with
  | empty => none
  | ligature l => (l.extend? c).map fun (columns, l?) => (columns, l?.elim empty ligature)
  | emoji s => (s.extend? c).map fun (columns, s) => (columns, emoji s)

/-- The run with a character before it that does not part its letters. -/
def hold? (r : Run) (c : Char) : Option Run :=
  match r with
  | ligature l =>
    if !l.holdsJoiners then none
    else if c = '\u200D' then some (ligature l.join)
    else if Ligature.seams.has c then some r
    else none
  | _ => none

end Run

/-- What stands after a place, as far as it changes the columns of the character there. -/
structure Ahead where
  /-- The selector of pictures. -/
  picture : Bool
  /-- The selector of text. -/
  plain : Bool
  /-- The selector of wide quotation marks. -/
  wide : Bool
  run : Run
  deriving DecidableEq, Repr

namespace Ahead

def ofRun (run : Run) : Ahead := ⟨false, false, false, run⟩

/-- Nothing that matters. -/
def nothing : Ahead := ofRun .empty

/-- What stands after a place that a selector is put in front of. -/
def held (a : Ahead) : Ahead := if a.run.holdsSelectors then a else nothing

end Ahead

/-- Quotation marks that a selector makes wide. -/
def isQuotationMark (c : Char) : Bool := ['\u2018', '\u2019', '\u201C', '\u201D'].contains c

/-- The columns that a character adds to what it goes on with, or that it takes by itself.
A selector that is still ahead parts it from any run. -/
def extend (c : Char) (a : Ahead) : Int × Ahead :=
  match a.run.hold? c with
  | some run => (0, { a with run })
  | none =>
    match if a.wide then none else a.run.extend? c with
    | some (columns, run) => (columns, .ofRun run)
    | none => (ofChar c, .ofRun (.ofChar c))

/-- The columns of a character that may be the choice of a selector of text or of wide marks. -/
def narrow (c : Char) (a : Ahead) : Int × Ahead :=
  if a.plain then
    if Emoji.isPlain c then (1, .nothing) else extend c { a with plain := false }
  else if a.wide then
    if isQuotationMark c then (2, .nothing) else extend c { a with wide := false }
  else extend c a

/-- The columns of a character that no selector of pictures follows, and what stands after the
place before it. -/
def plainStep (c : Char) (a : Ahead) : Int × Ahead :=
  if c ≤ '\u00A0' then (1, .nothing)
  else if c = '\uFE0F' then
    (0, { (if a.run.isJoined then a else a.held) with picture := true })
  else if c = '\uFE01' then (0, { a.held with wide := true })
  else if c = '\uFE0E' then (0, { a.held with plain := true })
  else narrow c a

/-- The columns that a character adds before what stands after it, and what stands after the
place before it. The columns are negative where the character makes what follows narrower. -/
def step (c : Char) (a : Ahead) : Int × Ahead :=
  if !a.picture then plainStep c a
  else if Emoji.isSelectable c then
    (if a.run.isJoined then 0 else 2, .ofRun (.emoji .picture))
  else plainStep c { a.held with picture := false }

/-- The columns of a text, and what it has begun for a text before it. -/
def measure (cs : List Char) : Int × Ahead :=
  cs.foldr (fun c (columns, a) => let (more, a) := step c a; (columns + more, a)) (0, .nothing)

def ofChars (cs : List Char) : Nat := (measure cs).1.toNat

def ofText (s : String) : Nat := ofChars s.toList

end PeripheralBridge.Width
