import PeripheralBridge.Text.Blank
import PeripheralBridge.Text.Hex
import PeripheralBridge.Text.Utf8

/-!
# Octets on the command line

Octets are given as hexadecimal digits. Blanks may stand anywhere among them, and one
marker, a zero and an `x` of either case, may stand before them.
-/

namespace PeripheralBridge.CommandLine.HexArgument

def unmarked : List Char → List Char
  | '0' :: 'x' :: digits => digits
  | '0' :: 'X' :: digits => digits
  | digits => digits

def digits (argument : List Char) : List Char :=
  unmarked (argument.filter fun c => !Blank.isBlank c)

def read (argument : String) : Except Hex.Fault Bytes :=
  Hex.decode (Utf8.octets (digits argument.toList))

end PeripheralBridge.CommandLine.HexArgument
