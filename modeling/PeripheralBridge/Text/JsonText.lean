import PeripheralBridge.Text.Hex

/-!
# JSON text

The values a program prints, on one line and without spaces. Fields keep the order in
which they are given. A string escapes quotes, backslashes and the controls below the
space, and shows every other character as it is.
-/

namespace PeripheralBridge.JsonText

/-- A control without a letter of its own, as four hexadecimal digits. -/
def codeEscape (c : Char) : List Char :=
  ['\\', 'u', '0', '0', Hex.digit (c.toNat / 16), Hex.digit (c.toNat % 16)]

def escape (c : Char) : List Char :=
  if c = '"' then ['\\', '"']
  else if c = '\\' then ['\\', '\\']
  else if c = '\x08' then ['\\', 'b']
  else if c = '\t' then ['\\', 't']
  else if c = '\n' then ['\\', 'n']
  else if c = '\x0c' then ['\\', 'f']
  else if c = '\r' then ['\\', 'r']
  else if c.toNat < 0x20 then codeEscape c
  else [c]

def quoted (s : String) : String :=
  String.ofList ('"' :: s.toList.flatMap escape ++ ['"'])

def number (n : Nat) : String := toString n

/-- A string, or null where there is none. -/
def quoted? (s : Option String) : String := (s.map quoted).getD "null"

def array (values : List String) : String := "[" ++ ",".intercalate values ++ "]"

def object (fields : List (String × String)) : String :=
  let field (f : String × String) : String := quoted f.1 ++ ":" ++ f.2
  "\x7b" ++ ",".intercalate (fields.map field) ++ "\x7d"

end PeripheralBridge.JsonText
