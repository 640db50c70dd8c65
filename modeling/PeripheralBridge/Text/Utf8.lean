import PeripheralBridge.Bytes

/-!
# UTF-8

Reading octets as text, one octet at a time. Where the octets are no text, the fault
says at which octet the offending character starts and how many octets of it had the
right form, or that the octets end inside a character.
-/

namespace PeripheralBridge.Utf8

inductive Fault where
  /-- The `length` octets from `index` on start no character. -/
  | invalid (length index : Nat)
  /-- The character that starts at `index` is cut short. -/
  | incomplete (index : Nat)
  deriving DecidableEq, Repr

namespace Fault

def message : Fault → String
  | invalid length index =>
    "invalid utf-8 sequence of " ++ toString length ++ " bytes from index " ++ toString index
  | incomplete index => "incomplete utf-8 byte sequence from index " ++ toString index

end Fault

/-- A character of which some octets are still owed. -/
structure Partial where
  /-- Where the character starts. -/
  start : Nat
  /-- How many of its octets have been read. -/
  seen : Nat
  /-- The bits read so far. -/
  value : Nat
  /-- The least octet that may come next. -/
  low : Nat
  /-- The greatest octet that may come next. -/
  high : Nat
  /-- How many octets are owed after the next one. -/
  more : Nat

/-- What the first octet of a longer character at `start` makes of the text so far. -/
def lead? (start octet : Nat) : Option Partial :=
  if 0xC2 ≤ octet ∧ octet ≤ 0xDF then some ⟨start, 1, octet - 0xC0, 0x80, 0xBF, 0⟩
  else if octet = 0xE0 then some ⟨start, 1, 0, 0xA0, 0xBF, 1⟩
  else if octet = 0xED then some ⟨start, 1, 0xD, 0x80, 0x9F, 1⟩
  else if 0xE1 ≤ octet ∧ octet ≤ 0xEF then some ⟨start, 1, octet - 0xE0, 0x80, 0xBF, 1⟩
  else if octet = 0xF0 then some ⟨start, 1, 0, 0x90, 0xBF, 2⟩
  else if 0xF1 ≤ octet ∧ octet ≤ 0xF3 then some ⟨start, 1, octet - 0xF0, 0x80, 0xBF, 2⟩
  else if octet = 0xF4 then some ⟨start, 1, 4, 0x80, 0x8F, 2⟩
  else none

/-- Read on from octet `index`; `done` holds the characters before it, last one first. -/
def decodeFrom (index : Nat) (done : List Char) :
    Option Partial → Bytes → Except Fault (List Char)
  | none, [] => .ok done.reverse
  | some p, [] => .error (.incomplete p.start)
  | none, b :: rest =>
    if b.toNat < 0x80 then decodeFrom (index + 1) (Char.ofNat b.toNat :: done) none rest
    else
      match lead? index b.toNat with
      | none => .error (.invalid 1 index)
      | some p => decodeFrom (index + 1) done (some p) rest
  | some p, b :: rest =>
    if p.low ≤ b.toNat ∧ b.toNat ≤ p.high then
      let value := p.value * 64 + (b.toNat - 0x80)
      match p.more with
      | 0 => decodeFrom (index + 1) (Char.ofNat value :: done) none rest
      | more + 1 =>
        decodeFrom (index + 1) done (some ⟨p.start, p.seen + 1, value, 0x80, 0xBF, more⟩) rest
    else .error (.invalid p.seen p.start)

/-- The characters of a text, or where the octets stop being one. -/
def decode (octets : Bytes) : Except Fault (List Char) := decodeFrom 0 [] none octets

def octets (characters : List Char) : Bytes := characters.flatMap String.utf8EncodeChar

def encode (text : String) : Bytes := octets text.toList

end PeripheralBridge.Utf8
