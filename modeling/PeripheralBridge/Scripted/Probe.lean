import PeripheralBridge.Queue
import PeripheralBridge.Simulated.GpioBank

/-!
# Probes

Handlers that exercise a device, and the record of what reached them. Each kind of
handler shows one thing a response depends on: the request, the instance, or the calls
that went before.
-/

namespace PeripheralBridge

/-- One call of a handler. -/
structure ProbeCall where
  classId : UInt16
  index : UInt16
  function : UInt16
  request : Bytes
  deriving DecidableEq, Repr

/-- What a probe does with a call. -/
inductive Probe where
  /-- Answer with the request. -/
  | echo
  /-- Answer with the octets of the request in reverse. -/
  | reverse
  /-- Answer with the instance and the request. -/
  | indexed
  /-- Answer with the same octets each time. -/
  | const (answer : Bytes)
  /-- Answer with the number of calls so far. -/
  | count
  /-- Answer with a request of a given length, and refuse any other. -/
  | need (length : Nat)
  /-- Store a request for the instance, and answer an empty one with what is stored. -/
  | store
  /-- Write something and fail. -/
  | fail (fault : DeviceFault) (written : Bytes)
  /-- Write something and crash. -/
  | crash (written : Bytes)
  deriving DecidableEq, Repr

/-- Everything that probes and pins remember. -/
structure ProbeWorld where
  pins : Pins := GpioBank.initial
  /-- The calls, in order. -/
  calls : List ProbeCall := []
  /-- The instances brought up, by class name, in order. -/
  inits : Queue (String × UInt16) := {}
  /-- How often each counting probe was called. -/
  counts : List (Nat × Nat) := []
  /-- What each storing probe holds for each instance. -/
  stored : List ((Nat × UInt16) × Bytes) := []
  deriving Repr

namespace ProbeWorld

def note (c : ProbeCall) (w : ProbeWorld) : ProbeWorld := { w with calls := w.calls ++ [c] }

/-- How often a counting probe was called. -/
def countOf (key : Nat) (w : ProbeWorld) : Nat := (w.counts.lookup key).getD 0

/-- What a storing probe holds. -/
def storedAt (key : Nat × UInt16) (w : ProbeWorld) : Bytes := (w.stored.lookup key).getD []

def setPins (pins : Pins) (w : ProbeWorld) : ProbeWorld := { w with pins }

end ProbeWorld

namespace Probe

/-- The four octets of a count, least significant first. -/
def countBytes (n : Nat) : Bytes :=
  [n, n / 256, n / 65536, n / 16777216].map fun k => UInt8.ofNat (k % 256)

/-- What a probe that is known as `key` does with a call. -/
def outcome (key : Nat) (index : UInt16) (request : Bytes) (w : ProbeWorld) :
    Probe → Outcome × ProbeWorld
  | echo => (.reply request, w)
  | reverse => (.reply request.reverse, w)
  | indexed => (.reply (wordBytes index ++ request), w)
  | const answer => (.reply answer, w)
  | count =>
    let n := w.countOf key + 1
    (.reply (countBytes n), { w with counts := (key, n) :: w.counts.filter (·.1 != key) })
  | need length =>
    (if request.length = length then .reply request else .fail .invalidArgsFormat, w)
  | store =>
    let place := (key, index)
    if request = [] then (.reply (w.storedAt place), w)
    else (.reply [], { w with stored := (place, request) :: w.stored.filter (·.1 != place) })
  | fail fault written => (⟨written, .failed fault⟩, w)
  | crash written => (⟨written, .crashed⟩, w)

/-- A handler that notes its calls and then does what the probe does. -/
def handler (key : Nat) (classId function : UInt16) (p : Probe) : Handler ProbeWorld :=
  fun index request w => p.outcome key index request (w.note ⟨classId, index, function, request⟩)

/-- Note an instance that is brought up, and let it fail if it is listed. -/
def init (name : String) (failing : List (UInt16 × DeviceFault)) (index : UInt16) :
    Attempt ProbeWorld DeviceFault Unit := fun w =>
  let w := { w with inits := w.inits.push (name, index) }
  match failing.lookup index with
  | some fault => (.error fault, w)
  | none => (.ok (), w)

end Probe

end PeripheralBridge
