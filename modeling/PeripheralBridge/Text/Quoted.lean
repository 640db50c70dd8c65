import PeripheralBridge.Text.Hidden

/-!
# Quoted text

Text in double quotes, or a character in single ones, with an escape for each quote of that
kind, backslash, control and character that does not show by itself. The escapes for code
points are in hexadecimal, between braces.
-/

namespace PeripheralBridge.Quoted

def codeEscape (c : Char) : List Char :=
  ['\\', 'u', '\x7b'] ++ Nat.toDigits 16 c.toNat ++ ['\x7d']

/-- A character between quotes of the kind `quote`. -/
def escape (quote c : Char) : List Char :=
  if c = '\x00' then ['\\', '0']
  else if c = '\t' then ['\\', 't']
  else if c = '\n' then ['\\', 'n']
  else if c = '\r' then ['\\', 'r']
  else if c = quote ∨ c = '\\' then ['\\', c]
  else if c.toNat < 0x20 ∨ c.toNat = 0x7F ∨ Hidden.isHidden c then codeEscape c
  else [c]

def text (s : String) : String :=
  String.ofList ('"' :: s.toList.flatMap (escape '"') ++ ['"'])

def character (c : Char) : String :=
  String.ofList ('\x27' :: escape '\x27' c ++ ['\x27'])

end PeripheralBridge.Quoted
