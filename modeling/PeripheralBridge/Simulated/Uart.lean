import PeripheralBridge.Link.Stream
import PeripheralBridge.Service.Config
import PeripheralBridge.Service.Stream

/-!
# A simulated UART

What the host writes goes through the receive queue of the device. What the device
writes reaches the host in chunks, and a read of the host never spans two of them.
-/

namespace PeripheralBridge

structure ReturnLine where
  chunks : List Bytes := []
  hostOpen : Bool := true
  deriving DecidableEq, Repr

namespace ReturnLine

/-- Send a chunk as long as somebody listens. -/
def write (data : Bytes) : Attempt ReturnLine IoFailure Nat := fun l =>
  if l.hostOpen then (.ok data.length, { l with chunks := l.chunks ++ [data] })
  else (.error .brokenPipe, l)

def sink : ByteSink ReturnLine where
  write := write
  flush := pure ()
  interruptions _ := 0
  write_interrupted := by
    intro data l l' e h ht
    unfold write at h
    split at h
    · exact absurd h (by simp)
    · injection h with h _
      injection h with h
      subst h
      exact absurd ht (by decide)

end ReturnLine

structure UartLink where
  device : StreamEnd ReturnLine
  /-- What the host has been sent and has not read yet of a chunk. -/
  pending : Bytes := []
  deviceOpen : Bool := true
  deriving Repr

namespace UartLink

/-- A line whose device queues up to `capacity` octets. -/
def ofCapacity (capacity : Nat) : UartLink := { device := ⟨.empty capacity, {}⟩ }

/-- Send octets to the device. The host does not learn of those the queue drops. -/
def hostWrite (data : Bytes) : Attempt UartLink IoFailure Nat := fun l =>
  (.ok data.length, { l with device := { l.device with queue := (l.device.queue.push data).2 } })

/-- Receive at most `count` octets of one chunk. -/
def hostRead (count : Nat) : Attempt UartLink IoFailure Bytes := fun l =>
  match l.pending, l.device.sink.chunks with
  | [], [] => (if l.deviceOpen then .error .timedOut else .ok [], l)
  | [], chunk :: rest =>
    (.ok (chunk.take count),
      { l with
        pending := chunk.drop count
        device := { l.device with sink := { l.device.sink with chunks := rest } } })
  | b :: waiting, _ =>
    (.ok ((b :: waiting).take count), { l with pending := (b :: waiting).drop count })

def hostPurge : Attempt UartLink IoFailure Unit := fun l =>
  (.ok (), { l with
    pending := []
    device := { l.device with sink := { l.device.sink with chunks := [] } } })

/-- The host leaves: nothing more reaches the device, and nobody listens to it. -/
def hostLeave (l : UartLink) : UartLink :=
  { l with device := ⟨l.device.queue.close, { l.device.sink with hostOpen := false }⟩ }

def port : BytePort UartLink where
  write := hostWrite
  flush := pure ()
  interruptions _ := 0
  write_interrupted := by
    intro data l l' e h
    exact absurd h (by simp [hostWrite])
  setTimeout _ := pure ()
  read := hostRead
  purge := hostPurge
  read_interrupted := by
    intro count l l' e h ht
    unfold hostRead at h
    split at h
    · split at h
      · injection h with h _
        injection h with h
        subst h
        exact absurd ht (by decide)
      · exact absurd h (by simp)
    · exact absurd h (by simp)
    · exact absurd h (by simp)

def interface (config : DeviceConfig) : Interface (StreamEnd ReturnLine) :=
  StreamInterface.interface "uart-sim" ReturnLine.sink config.limits config.byteTimeout

end UartLink

end PeripheralBridge
