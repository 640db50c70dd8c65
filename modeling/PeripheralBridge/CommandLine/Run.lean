import PeripheralBridge.CommandLine.Command
import PeripheralBridge.CommandLine.Inventory
import PeripheralBridge.CommandLine.Selftest

/-!
# Running commands

A command runs over whatever link its target opens. It either succeeds and writes its
whole output, or fails and writes none. This build drives no hardware, so that every
target of its own is refused.
-/

namespace PeripheralBridge.CommandLine

structure Report where
  output : Bytes
  exit : ExitCode := .success
  deriving DecidableEq, Repr

def Report.ofText (text : String) : Report := { output := Utf8.encode text }

def programName : String := "buslink"

def programVersion : String := "0.1.0"

def versionText : String := line (programName ++ " " ++ programVersion)

/-- How the program was built, and the limits of the protocol it speaks. -/
def provenance : String :=
  let limits := PayloadLimits.protocolMinimum
  String.join <| List.map line [
    "name: " ++ programName,
    "version: " ++ programVersion,
    "build_target: unknown",
    "target_os: linux",
    "target_arch: x86_64",
    "features: usb=false, serial=false, cli=true",
    "protocol: req_max=" ++ toString limits.request ++ " resp_max=" ++ toString limits.response
      ++ " classes=" ++ toString PeripheralClass.all.length]

namespace Failure

/-- No device on USB can be reached. -/
def withoutUsb : Failure := ⟨.usage, "built without USB support (enable the `usb` feature)"⟩

/-- No device on a serial line can be reached. -/
def withoutUart : Failure := ⟨.usage, "built without UART support (enable the `serial` feature)"⟩

def echoMismatch (sent reply : Bytes) : Failure :=
  ⟨.invalidData, "echo mismatch: sent " ++ toString sent.length ++ " bytes, got "
    ++ toString reply.length ++ " back (" ++ Hex.text reply ++ ")"⟩

end Failure

/-- The link of a target that has no hardware behind it. -/
def Target.refuse {σ : Type} : Target → Except Failure (Link σ)
  | uart _ _ => .error .withoutUart
  | usb _ => .error .withoutUsb

/-- The step that a call is, as it is named in a failure. -/
def callContext (a : Address) : String :=
  "call " ++ toString a.classId.toNat ++ "/" ++ toString a.index.toNat ++ "/"
    ++ toString a.function.toNat

namespace Command

variable {σ : Type}

def echoOver (link : Link σ) (payload : Bytes) : Attempt σ Failure Bytes := do
  let reply ← (Device.echo link payload).mapError (Failure.ofCall "echo")
  if reply = payload then return reply else throw (.echoMismatch payload reply)

/-- Run a command, given the link of each target and how the screen arranges tables. -/
def run (linkTo : Target → Except Failure (Link σ)) (arrange : Table.Arrangement)
    (format : OutputFormat) : Command → Attempt σ Failure Report
  | list => throw .withoutUsb
  | info target => do
    let link ← Attempt.ofExcept (linkTo target)
    let inventory ← Inventory.ofDevice link
    return .ofText (inventory.text arrange format)
  | echo target payload => do
    let link ← Attempt.ofExcept (linkTo target)
    let reply ← echoOver link payload
    return { output := showPayload arrange "echo" reply format }
  | call target address payload => do
    let link ← Attempt.ofExcept (linkTo target)
    let response ←
      (Device.call link address payload).mapError (Failure.ofCall (callContext address))
    return { output := showPayload arrange "call" response format }
  | selftest packetSize => do
    let t := Selftest.run packetSize
    let report := Report.ofText (t.text format)
    return if t.Passed then report else { report with exit := .unhealthy }
  | version extended => return .ofText (if extended then provenance else versionText)

end Command

end PeripheralBridge.CommandLine
