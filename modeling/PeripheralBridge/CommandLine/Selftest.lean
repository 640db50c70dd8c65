import PeripheralBridge.CommandLine.Exit
import PeripheralBridge.CommandLine.PayloadView
import PeripheralBridge.Device.Discovery
import PeripheralBridge.Simulated.Bench
import PeripheralBridge.Simulated.GpioBank

/-!
# The self-test

A demonstration device is booted and called over both simulated links: the limits are
negotiated, the largest payload is echoed, and a class that does not exist has to be
refused. The test fails if one of its checks does.
-/

namespace PeripheralBridge.CommandLine

inductive Check.Status where
  | pass | fail | info
  deriving DecidableEq, Repr

structure Check where
  name : String
  status : Check.Status
  detail : String
  deriving DecidableEq, Repr

namespace Check

namespace Status

def name : Status → String
  | pass => "pass"
  | fail => "fail"
  | info => "info"

def label : Status → String
  | pass => "PASS"
  | fail => "FAIL"
  | info => "INFO"

end Status

def negotiation (name : String) : Except CallError PayloadLimits → Check
  | .ok l => ⟨name, .pass, "req " ++ toString l.request ++ " / resp " ++ toString l.response⟩
  | .error e => ⟨name, .fail, e.message⟩

def echo (name : String) (sent : Bytes) : Except CallError Bytes → Check
  | .ok reply =>
    if reply = sent then ⟨name, .pass, toString sent.length ++ " bytes round-tripped"⟩
    else ⟨name, .fail, "sent " ++ toString sent.length ++ " bytes, got " ++ toString reply.length
      ++ " different bytes"⟩
  | .error e => ⟨name, .fail, e.message⟩

/-- The first number that is no class. -/
def absentClass : UInt16 := UInt16.ofNat PeripheralClass.all.length

def refusal (name : String) : Except CallError Bytes → Check
  | .error (.device .notSupported) =>
    ⟨name, .pass, "class " ++ toString absentClass.toNat ++ " rejected"⟩
  | .error e => ⟨name, .fail, "unexpected error: " ++ e.message⟩
  | .ok _ => ⟨name, .fail, "class " ++ toString absentClass.toNat ++ " was accepted"⟩

variable {σ : Type}

/-- Check a link with a device behind it. -/
def ofLink (label : String) (link : Link σ) (s : σ) : List Check × σ :=
  let (limits, s) := Device.negotiate link s
  let sent : Bytes := (List.range (link.limits s).request).map UInt8.ofNat
  let (reply, s) := Device.echo link sent s
  let (refused, s) := Device.call link ⟨absentClass, 0, 0⟩ [] s
  ([negotiation (label ++ "_negotiate") limits, echo (label ++ "_echo") sent reply,
    refusal (label ++ "_not_supported") refused], s)

/-- What the program was built with. -/
def features : Check := ⟨"compiled_features", .info, "cli"⟩

def json (c : Check) : String :=
  JsonText.object [
    ("name", JsonText.quoted c.name),
    ("status", JsonText.quoted c.status.name),
    ("detail", JsonText.quoted c.detail)]

def summary (c : Check) : String :=
  "  [" ++ Padding.before 4 c.status.label ++ "] " ++ Padding.after 20 c.name ++ " " ++ c.detail

end Check

structure Selftest where
  checks : List Check
  deriving DecidableEq, Repr

namespace Selftest

def boot (config : DeviceConfig) : Except BootError (Dispatcher Pins × Pins) := do
  let registry ← (GpioBank.plan config id fun pins _ => pins).build
  match Dispatcher.boot registry GpioBank.initial with
  | (.ok device, pins) => return (device, pins)
  | (.error e, _) => throw e

def booted (device : Dispatcher Pins) : Check :=
  ⟨"firmware_boot", .pass, toString device.registry.classes.length ++ " peripherals, "
    ++ toString device.locks.size ++ " locks"⟩

def overLinks (config : DeviceConfig) (packetSize : Nat) (device : Dispatcher Pins) (pins : Pins) :
    List Check :=
  let pipe : Bench UsbLink Pins := { link := { packetSize }, device, config, world := pins }
  let (usb, l) := Check.ofLink "usb" (PacketLink.link UsbLink.benchPipe)
    (.onPipe UsbLink.benchPipe pipe)
  let port : Bench UartLink Pins :=
    { link := .ofCapacity config.queueCapacity, device, config, world := l.pipe.world }
  let uart :=
    match StreamLink.start UartLink.benchPort {} port with
    | .ok l => (Check.ofLink "uart" (StreamLink.link UartLink.benchPort) l).1
    | .error e => [⟨"uart_link", .fail, e.message⟩]
  usb ++ uart

def run (packetSize : UInt16) : Selftest :=
  let config : DeviceConfig := {}
  match boot config with
  | .error e => ⟨[⟨"firmware_boot", .fail, e.message⟩]⟩
  | .ok (device, pins) =>
    ⟨booted device :: overLinks config packetSize.toNat device pins ++ [Check.features]⟩

/-- No check failed. -/
def Passed (t : Selftest) : Prop := ∀ c ∈ t.checks, c.status ≠ .fail

instance (t : Selftest) : Decidable t.Passed := inferInstanceAs (Decidable (∀ c ∈ t.checks, _))

def verdict (t : Selftest) : String := if t.Passed then "pass" else "fail"

def json (t : Selftest) : String :=
  JsonText.object [
    ("checks", JsonText.array (t.checks.map Check.json)),
    ("overall", JsonText.quoted t.verdict)]

/-- The last line of a summary. -/
def result (t : Selftest) : String :=
  if t.Passed then "  Result: all checks passed" else "  Result: one or more checks failed"

def lines (t : Selftest) : OutputFormat → List String
  | .json => [t.json]
  | .table | .pretty =>
    ["buslink selftest", ""] ++ t.checks.map Check.summary ++ ["", t.result]
  | .raw => [t.verdict]

def text (t : Selftest) (format : OutputFormat) : String :=
  String.join ((t.lines format).map line)

end Selftest

end PeripheralBridge.CommandLine
