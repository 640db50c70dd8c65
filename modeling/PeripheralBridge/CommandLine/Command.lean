import PeripheralBridge.CommandLine.HexArgument
import PeripheralBridge.CommandLine.Switch
import PeripheralBridge.Message.Basic
import PeripheralBridge.Text.Decimal

/-!
# Commands

A command line names a command and gives its settings. Once every word has been read the
settings are judged as a whole: switches that exclude each other come first, then those
that have to be there.
-/

namespace PeripheralBridge.CommandLine

inductive Target where
  /-- On a serial line. -/
  | uart (path : String) (baud : UInt32)
  /-- A place in the list of attached devices. -/
  | usb (index : Nat)
  deriving DecidableEq, Repr

inductive Command where
  /-- List the attached devices. -/
  | list
  /-- Show what a device says about itself. -/
  | info (target : Target)
  /-- Send octets to be echoed. -/
  | echo (target : Target) (payload : Bytes)
  /-- Call one function. -/
  | call (target : Target) (address : Address) (payload : Bytes)
  /-- Check a simulated device over both links. -/
  | selftest (packetSize : UInt16)
  | version (extended : Bool)
  deriving DecidableEq, Repr

/-! ## Reading values -/

def readText (text : String) : Except Halt String := .ok text

def readBetween (low high : Nat) (text : String) : Except Halt Nat :=
  match Decimal.integer? text.toList with
  | some n => if low ≤ n ∧ n ≤ high then .ok n.toNat else .error .badValue
  | none => .error .badValue

def readWord (text : String) : Except Halt UInt16 := (readBetween 0 65535 text).map UInt16.ofNat

def readBaud (text : String) : Except Halt UInt32 :=
  (readBetween 0 4294967295 text).map UInt32.ofNat

/-- A place in a list. It has no sign but a plus. -/
def readIndex (text : String) : Except Halt Nat :=
  match Decimal.natural? text.toList with
  | some n => if n < UInt64.size then .ok n else .error .badValue
  | none => .error .badValue

def readPacketSize (text : String) : Except Halt UInt16 :=
  (readBetween 8 1024 text).map UInt16.ofNat

def readOctets (text : String) : Except Halt Bytes :=
  (HexArgument.read text).mapError fun _ => .badValue

def required {α : Type} : Option α → Except Halt α
  | some a => .ok a
  | none => .error .missingArgument

/-! ## Settings -/

structure TargetSettings where
  uart : Option String := none
  baud : Option UInt32 := none
  usb : Option Nat := none

namespace TargetSettings

def switches : List (Switch TargetSettings) := [
  .keep "uart" readText uart fun v s => { s with uart := some v },
  .keep "baud" readBaud baud fun v s => { s with baud := some v },
  .keep "usb" readIndex usb fun v s => { s with usb := some v }]

/-- The first attached device, unless another one is given. -/
def target (s : TargetSettings) : Except Halt Target :=
  match s.uart, s.usb with
  | some _, some _ => .error .conflict
  | some path, none => .ok (.uart path (s.baud.getD 115200))
  | none, index => .ok (.usb (index.getD 0))

end TargetSettings

structure EchoSettings where
  target : TargetSettings := {}
  text : Option String := none
  octets : Option Bytes := none

namespace EchoSettings

def switches : List (Switch EchoSettings) :=
  TargetSettings.switches.map (·.onPart target fun t s => { s with target := t }) ++ [
    .keep "data" readText text fun v s => { s with text := some v },
    .keep "hex" readOctets octets fun v s => { s with octets := some v }]

def command (s : EchoSettings) : Except Halt Command := do
  let target ← s.target.target
  match s.text, s.octets with
  | some _, some _ => throw .conflict
  | some text, none => return .echo target (Utf8.encode text)
  | none, octets => return .echo target (octets.getD [])

end EchoSettings

structure CallSettings where
  target : TargetSettings := {}
  classId : Option UInt16 := none
  index : Option UInt16 := none
  function : Option UInt16 := none
  octets : Option Bytes := none

namespace CallSettings

def switches : List (Switch CallSettings) :=
  TargetSettings.switches.map (·.onPart target fun t s => { s with target := t }) ++ [
    .keep "id" readWord classId fun v s => { s with classId := some v },
    .keep "idx" readWord index fun v s => { s with index := some v },
    .keep "fn" readWord function fun v s => { s with function := some v },
    .keep "hex" readOctets octets fun v s => { s with octets := some v }]

def command (s : CallSettings) : Except Halt Command := do
  let target ← s.target.target
  let classId ← required s.classId
  let function ← required s.function
  return .call target ⟨classId, s.index.getD 0, function⟩ (s.octets.getD [])

end CallSettings

def packetSizeSwitch : Switch (Option UInt16) :=
  .keep "packet-size" readPacketSize id fun v _ => some v

def extendedSwitch : Switch Bool := .mark "extended" id fun _ => true

/-! ## Reading a command -/

inductive Command.Name where
  | list | info | echo | call | selftest | version | help
  deriving DecidableEq, Repr

def Command.Name.ofString? : String → Option Command.Name
  | "list" => some .list
  | "info" => some .info
  | "echo" => some .echo
  | "call" => some .call
  | "selftest" => some .selftest
  | "version" => some .version
  | "help" => some .help
  | _ => none

/-- What asking for help on some commands comes to. No command has commands of its own. -/
def helpOn : List String → Halt
  | [] => .help
  | [name] => if (Command.Name.ofString? name).isSome then .help else .unknownCommand
  | _ => .unknownCommand

section

variable {γ σ : Type}

/-- Read the words after the name of a command, which may also hold switches `shared` by all
commands. -/
def readSettings (shared : List (Switch γ)) (own : List (Switch σ)) (g : γ) (s : σ)
    (words : List String) : Except Halt (γ × σ) := do
  let switches := shared.map (·.onPart Prod.fst fun g p => (g, p.2))
    ++ own.map (·.onPart Prod.snd fun s p => (p.1, s)) ++ [.help]
  let operand (_ : String) : Option Empty := none
  let scanned ← scan switches operand .unknownArgument .nothing (g, s) words
  scanned.owed.settle scanned.settings

def readCommand (shared : List (Switch γ)) (g : γ) (words : List String) :
    Command.Name → Except Halt (γ × Command)
  | .list => do
    let (g, _) ← readSettings shared [] g () words
    return (g, .list)
  | .info => do
    let (g, s) ← readSettings shared TargetSettings.switches g {} words
    return (g, .info (← s.target))
  | .echo => do
    let (g, s) ← readSettings shared EchoSettings.switches g {} words
    return (g, ← s.command)
  | .call => do
    let (g, s) ← readSettings shared CallSettings.switches g {} words
    return (g, ← s.command)
  | .selftest => do
    let (g, size) ← readSettings shared [packetSizeSwitch] g none words
    return (g, .selftest (size.getD 64))
  | .version => do
    let (g, extended) ← readSettings shared [extendedSwitch] g false words
    return (g, .version extended)
  | .help => .error (helpOn words)

/-- Read a whole command line. Shared switches may stand before and after the name of the
command, and `stops` before it; `merge` joins the settings of the two places. -/
def readLine (shared stops : List (Switch γ)) (merge : γ → γ → γ) (start : γ)
    (words : List String) : Except Halt (γ × Command) := do
  let switches := shared ++ .help :: stops
  let scanned ← scan switches Command.Name.ofString? .unknownCommand .nothing start words
  match scanned.command? with
  | none => do
    let _ ← scanned.owed.settle scanned.settings
    throw .noCommand
  | some (name, rest) => do
    let (after, command) ← readCommand shared start rest name
    let before ← scanned.owed.settle scanned.settings
    return (merge before after, command)

end

/-- The command of a line without any shared switch. -/
def Command.parse (words : List String) : Except Halt Command :=
  (readLine [] [] (fun _ g => g) () words).map Prod.snd

end PeripheralBridge.CommandLine
