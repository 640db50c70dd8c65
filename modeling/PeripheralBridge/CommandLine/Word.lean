/-!
# Words of a command line

A word that starts with dashes names a switch. A long switch follows two dashes and may
carry a value after an equals sign, short switches are letters after one dash. A single
dash, like any other text, is plain.
-/

namespace PeripheralBridge.CommandLine

inductive Word where
  /-- Two dashes alone: no word after them names a switch. -/
  | terminator
  | long (name : String) (value? : Option String)
  /-- A cluster of letters, of which this is the first. -/
  | short (letter : Char)
  | plain
  deriving DecidableEq, Repr

def splitAtEquals : List Char → List Char × Option (List Char)
  | [] => ([], none)
  | '=' :: rest => ([], some rest)
  | c :: rest => ((splitAtEquals rest).map (c :: ·) id)

namespace Word

/-- A long switch, given what follows its dashes. -/
def ofLong (text : List Char) : Word :=
  let (name, value?) := splitAtEquals text
  .long (String.ofList name) (value?.map String.ofList)

def ofString (s : String) : Word :=
  match s.toList with
  | ['-', '-'] => .terminator
  | '-' :: '-' :: text => ofLong text
  | '-' :: letter :: _ => .short letter
  | _ => .plain

end Word

end PeripheralBridge.CommandLine
