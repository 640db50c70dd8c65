import PeripheralBridge.CommandLine.Choice
import PeripheralBridge.Text.JsonText
import PeripheralBridge.Text.Table
import PeripheralBridge.Text.Utf8

/-!
# Payloads on the screen

A response payload is shown as its size, its hexadecimal digits and, where it is text,
the text. In raw form it is written as it came, with no line end after it.
-/

namespace PeripheralBridge.CommandLine

def line (s : String) : String := s ++ "\n"

structure PayloadView where
  /-- The command that received the payload. -/
  command : String
  size : Nat
  digits : String
  /-- The payload as text, where it is one. -/
  text? : Option String
  deriving DecidableEq, Repr

/-- A control character, which would disturb the line it is shown in. -/
def isControl (c : Char) : Bool := c.toNat < 0x20 || 0x7F ≤ c.toNat && c.toNat ≤ 0x9F

namespace PayloadView

def ofPayload (command : String) (payload : Bytes) : PayloadView where
  command
  size := payload.length
  digits := Hex.text payload
  text? := (Utf8.decode payload).toOption.map String.ofList

/-- The text, or a note in its place when it cannot stand in a line. -/
def preview (v : PayloadView) : String :=
  match v.text?.filter fun text => !text.toList.any isControl with
  | some text => text
  | none => "<binary " ++ toString v.size ++ " bytes>"

def json (v : PayloadView) : String :=
  JsonText.object [
    ("command", JsonText.quoted v.command),
    ("size", JsonText.number v.size),
    ("hex", JsonText.quoted v.digits),
    ("text", JsonText.quoted? v.text?)]

def table (v : PayloadView) : Table :=
  ⟨["SIZE", "HEX", "TEXT"], [[toString v.size, v.digits, v.preview]]⟩

def summary (v : PayloadView) : String :=
  "size=" ++ toString v.size ++ " hex=" ++ v.digits ++ " text=" ++ v.preview

end PayloadView

def showPayload (arrange : Table.Arrangement) (command : String) (payload : Bytes)
    (format : OutputFormat) : Bytes :=
  let v := PayloadView.ofPayload command payload
  match format with
  | .json => Utf8.encode (line v.json)
  | .table => Utf8.encode (line (v.table.text arrange))
  | .pretty => Utf8.encode (line v.summary)
  | .raw => payload

end PeripheralBridge.CommandLine
