import PeripheralBridge.Service.Error
import PeripheralBridge.Bytes

/-!
# The receive queue

Octets from a byte stream wait in a queue of bounded capacity until they are parsed.
Octets that find the queue full empty it, and the rest of their chunk is dropped: the
parser then goes on at the start of a later chunk instead of the middle of a message.
-/

namespace PeripheralBridge

structure RxQueue where
  capacity : Nat
  bytes : Bytes := []
  /-- No more octets will come. -/
  closed : Bool := false
  deriving DecidableEq, Repr

namespace RxQueue

def empty (capacity : Nat) : RxQueue := { capacity }

def free (q : RxQueue) : Nat := q.capacity - q.bytes.length

/-- Queue a chunk of octets. The result counts those that were taken before one found the
queue full; such a chunk leaves the queue empty. -/
def push (chunk : Bytes) (q : RxQueue) : Nat × RxQueue :=
  if chunk.length ≤ q.free then (chunk.length, { q with bytes := q.bytes ++ chunk })
  else (q.free, { q with bytes := [] })

theorem push_of_le {chunk : Bytes} {q : RxQueue} (fits : chunk.length ≤ q.free) :
    q.push chunk = (chunk.length, { q with bytes := q.bytes ++ chunk }) :=
  if_pos fits

theorem push_of_lt {chunk : Bytes} {q : RxQueue} (exceeds : q.free < chunk.length) :
    q.push chunk = (q.free, { q with bytes := [] }) :=
  if_neg (Nat.not_le.mpr exceeds)

def purge (q : RxQueue) : Nat × RxQueue := (q.bytes.length, { q with bytes := [] })

def close (q : RxQueue) : RxQueue := { q with closed := true }

/-- Take one octet; none while the queue is empty and more may come. -/
def receive (q : RxQueue) : Option (Except InterfaceError UInt8 × RxQueue) :=
  match q.bytes with
  | b :: rest => some (.ok b, { q with bytes := rest })
  | [] => if q.closed then some (.error .closed, q) else none

/-- Why a queue that has run out gives nothing more after some silence. -/
def silence (timeout : Duration) (q : RxQueue) : InterfaceError :=
  if q.closed then .closed else .timeout timeout

/-- Take one octet, and give up after some silence. -/
def receiveWithin (timeout : Duration) (q : RxQueue) : Except InterfaceError UInt8 × RxQueue :=
  match q.bytes with
  | b :: rest => (.ok b, { q with bytes := rest })
  | [] => (.error (q.silence timeout), q)

end RxQueue

/-- What one read from a byte source gives; no octets at the end of input. -/
abbrev ReadResult := Except IoFailure Bytes

namespace RxQueue

/-- The name of the thread that pumps a source into the queue. -/
def pumpName : String := "buslink-rx"

/-- The octets that a single read of the pump takes. -/
def pumpChunk : Nat := 64

/-- A failure of a source that may well be followed by input. -/
def Passing (f : IoFailure) : Prop :=
  f.kind = .interrupted ∨ f.kind = .timedOut ∨ f.kind = .wouldBlock

instance (f : IoFailure) : Decidable (Passing f) := inferInstanceAs (Decidable (_ ∨ _))

/-- The chunks read from a source, to the end of its input or the first failure that does
not pass, and the number of reads it takes to find that out. -/
def chunksRead : List ReadResult → List Bytes × Nat
  | [] => ([], 1)
  | .ok [] :: _ => ([], 1)
  | .ok (b :: data) :: rest =>
    let (chunks, reads) := chunksRead rest
    ((b :: data) :: chunks, reads + 1)
  | .error f :: rest =>
    if Passing f then
      let (chunks, reads) := chunksRead rest
      (chunks, reads + 1)
    else ([], 1)

def pushAll (chunks : List Bytes) (q : RxQueue) : RxQueue :=
  chunks.foldl (fun q chunk => (q.push chunk).2) q

/-- Read a source to its end into the queue, and close the queue. -/
def pump (source : List ReadResult) (q : RxQueue) : RxQueue :=
  (q.pushAll (chunksRead source).1).close

/-- The reads of at most `pumpChunk` octets by which a source is read. -/
def chunked (source : List ReadResult) : List ReadResult :=
  source.flatMap fun
    | .ok [] => [.ok []]
    | .ok data => (packets pumpChunk data).map .ok
    | .error f => [.error f]

end RxQueue

end PeripheralBridge
