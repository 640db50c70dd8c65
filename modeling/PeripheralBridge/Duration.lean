/-!
# Durations

A duration counts nanoseconds. It is shown in the largest of the units s, ms, µs, ns
of which it holds at least one, with its fraction in full and no zeros at the end.
-/

namespace PeripheralBridge

structure Duration where
  nanoseconds : Nat
  deriving DecidableEq, Repr, Inhabited

namespace Duration

def ofMilliseconds (n : Nat) : Duration := ⟨n * 1000000⟩

def ofMicroseconds (n : Nat) : Duration := ⟨n * 1000⟩

def dropTrailingZeros (digits : List Char) : List Char :=
  (digits.reverse.dropWhile (· == '0')).reverse

/-- The fraction `part / 10 ^ places` after its point, empty when it is zero. -/
def fractionText (part places : Nat) : String :=
  let digits := Nat.toDigits 10 part
  let padded := List.replicate (places - digits.length) '0' ++ digits
  match dropTrailingZeros padded with
  | [] => ""
  | kept => "." ++ String.ofList kept

/-- A count of nanoseconds in a unit of as many of them as a one with `places` zeros. -/
def inUnit (n places : Nat) (unit : String) : String :=
  let size := Nat.pow 10 places
  toString (n / size) ++ fractionText (n % size) places ++ unit

def text (d : Duration) : String :=
  if 1000000000 ≤ d.nanoseconds then inUnit d.nanoseconds 9 "s"
  else if 1000000 ≤ d.nanoseconds then inUnit d.nanoseconds 6 "ms"
  else if 1000 ≤ d.nanoseconds then inUnit d.nanoseconds 3 "µs"
  else inUnit d.nanoseconds 0 "ns"

end Duration

end PeripheralBridge
