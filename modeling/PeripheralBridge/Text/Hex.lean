import PeripheralBridge.Bytes
import PeripheralBridge.Text.Quoted

/-!
# Hexadecimal text

An octet is written as two lower-case digits. Reading takes either case, and tells an
odd number of digits from a character that is no digit.
-/

namespace PeripheralBridge.Hex

def digit (n : Nat) : Char :=
  if n < 10 then Char.ofNat (48 + n) else Char.ofNat (87 + n)

/-- The value of a digit, given as the octet that encodes it. -/
def value? (octet : UInt8) : Option Nat :=
  let n := octet.toNat
  if 48 ≤ n ∧ n ≤ 57 then some (n - 48)
  else if 65 ≤ n ∧ n ≤ 70 then some (n - 55)
  else if 97 ≤ n ∧ n ≤ 102 then some (n - 87)
  else none

def encode (data : Bytes) : List Char :=
  data.flatMap fun b => [digit (b.toNat / 16), digit (b.toNat % 16)]

def text (data : Bytes) : String := String.ofList (encode data)

inductive Fault where
  | oddLength
  /-- The octet at `index` is no digit. -/
  | invalidCharacter (octet : UInt8) (index : Nat)
  deriving DecidableEq, Repr

namespace Fault

/-- What is wrong. An octet is shown as the character with that code point. -/
def message : Fault → String
  | oddLength => "Odd number of digits"
  | invalidCharacter octet index =>
    "Invalid character " ++ Quoted.character (Char.ofNat octet.toNat) ++ " at position "
      ++ toString index

end Fault

/-- Read pairs of digits, the first of them at `index`. -/
def decodePairs (index : Nat) : Bytes → Except Fault Bytes
  | high :: low :: rest =>
    match value? high, value? low with
    | none, _ => .error (.invalidCharacter high index)
    | some _, none => .error (.invalidCharacter low (index + 1))
    | some h, some l => do
      let octets ← decodePairs (index + 2) rest
      return UInt8.ofNat (16 * h + l) :: octets
  | _ => .ok []

def decode (digits : Bytes) : Except Fault Bytes :=
  if digits.length % 2 = 1 then .error .oddLength else decodePairs 0 digits

end PeripheralBridge.Hex
