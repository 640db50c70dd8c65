import PeripheralBridge.Simulated.Uart
import PeripheralBridge.Simulated.Usb

/-!
# A device on the bench

A booted device at one end of a simulated link. Before the host reads, the device takes
one turn of serving if a request has arrived. A journal keeps what goes wrong on the
device and each reset of the link.
-/

namespace PeripheralBridge

inductive BenchEvent where
  /-- The device took no request. -/
  | refused (error : InterfaceError)
  /-- The device could not send a response. -/
  | unsent (error : InterfaceError)
  /-- The host reset the link for the `count`th time. -/
  | reset (count : Nat)
  deriving DecidableEq, Repr

namespace BenchEvent

def message : BenchEvent → String
  | refused error => error.message
  | unsent error => error.message
  | reset count => "reset " ++ toString count

def ofTurn : Turn → List BenchEvent
  | .refused error => [.refused error]
  | .answered _ _ (.error error) => [.unsent error]
  | .answered _ _ (.ok ()) => []

end BenchEvent

/-- A link with a booted device at its far end. -/
structure Bench (κ ω : Type) where
  link : κ
  device : Dispatcher ω
  config : DeviceConfig
  world : ω
  /-- What has happened, in order. -/
  journal : List BenchEvent := []

namespace Bench

variable {κ σ ω : Type}

def takeTurn (interface : Interface σ) (get : κ → σ) (set : σ → κ → κ) (b : Bench κ ω) :
    Bench κ ω :=
  match interface.turn b.device (get b.link) b.world with
  | none => b
  | some (t, s, w) =>
    { b with link := set s b.link, world := w, journal := b.journal ++ BenchEvent.ofTurn t }

/-- Use the link and leave the device alone. -/
def onLink {ε α : Type} (x : Attempt κ ε α) : Attempt (Bench κ ω) ε α :=
  x.onPart Bench.link fun l b => { b with link := l }

variable {interface : Interface σ} {get : κ → σ} {set : σ → κ → κ} {b : Bench κ ω}

theorem takeTurn_of_some {t : Turn} {s : σ} {w : ω}
    (h : interface.turn b.device (get b.link) b.world = some (t, s, w)) :
    takeTurn interface get set b =
      { b with link := set s b.link, world := w, journal := b.journal ++ BenchEvent.ofTurn t } := by
  rw [takeTurn, h]

theorem takeTurn_of_none (h : interface.turn b.device (get b.link) b.world = none) :
    takeTurn interface get set b = b := by
  rw [takeTurn, h]

theorem onLink_of {ε α : Type} {x : Attempt κ ε α} {r : Except ε α} {l : κ}
    (h : x b.link = (r, l)) : onLink x b = (r, { b with link := l }) := by
  simp [onLink, Attempt.onPart, h]

end Bench

namespace UsbLink

variable {ω : Type}

def interface (config : DeviceConfig) : Interface UsbLink :=
  PacketInterface.interface "usb" port config.limits

def takeTurn (b : Bench UsbLink ω) : Bench UsbLink ω :=
  Bench.takeTurn (interface b.config) id (fun l _ => l) b

/-- The host end of a link with a device behind it. -/
def benchPipe : BulkPipe (Bench UsbLink ω) where
  packetSize b := b.link.packetSize
  write data := Bench.onLink (hostWrite data)
  read capacity b := Bench.onLink (hostRead capacity) (takeTurn b)
  reset b :=
    let (r, b) := Bench.onLink hostReset b
    (r, { b with journal := b.journal ++ [.reset b.link.resets] })

theorem benchRead_of_turn {b b' : Bench UsbLink ω} {capacity : Nat} {r : Except IoFailure Bytes}
    {l : UsbLink} (turned : takeTurn b = b') (hread : hostRead capacity b'.link = (r, l)) :
    benchPipe.read capacity b = (r, { b' with link := l }) :=
  (congrArg (Bench.onLink (hostRead capacity)) turned).trans (Bench.onLink_of hread)

end UsbLink

namespace UartLink

variable {ω : Type}

def takeTurn (b : Bench UartLink ω) : Bench UartLink ω :=
  Bench.takeTurn (interface b.config) UartLink.device (fun d l => { l with device := d }) b

/-- The host end of a line with a device behind it. -/
def benchPort : BytePort (Bench UartLink ω) where
  write data := Bench.onLink (hostWrite data)
  flush := pure ()
  interruptions _ := 0
  write_interrupted := by
    intro data b b' e h
    exact absurd h (by simp [Bench.onLink, Attempt.onPart, hostWrite])
  setTimeout _ := pure ()
  read count b := Bench.onLink (hostRead count) (takeTurn b)
  purge := Bench.onLink hostPurge
  read_interrupted := by
    intro count b b' e h ht
    have hr : (hostRead count (takeTurn b).link).1 = .error e := congrArg Prod.fst h
    exact absurd (port.read_interrupted count _ _ e (Prod.ext hr rfl) ht) (Nat.lt_irrefl 0)

theorem benchRead_of_turn {b b' : Bench UartLink ω} {count : Nat} {r : Except IoFailure Bytes}
    {l : UartLink} (turned : takeTurn b = b') (hread : hostRead count b'.link = (r, l)) :
    benchPort.read count b = (r, { b' with link := l }) :=
  (congrArg (Bench.onLink (hostRead count)) turned).trans (Bench.onLink_of hread)

end UartLink

end PeripheralBridge
