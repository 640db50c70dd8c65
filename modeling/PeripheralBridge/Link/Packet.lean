import PeripheralBridge.Link.Basic
import PeripheralBridge.Message.Codec

/-!
# Packet links

A message on a packet link ends with the first packet that is not full, so a message
of a whole number of packets is followed by an empty one. A response is read into a
buffer one packet longer than the last full packet it can hold. The buffer is laid out when
the link is made and again when its limits change.

After an exchange that failed, its response may still be on the way. Such a pipe is
stale: it is reset before the next request goes out, and as long as the reset fails
nothing is written or read.
-/

namespace PeripheralBridge

/-- A pair of bulk endpoints, one in each direction. -/
structure BulkPipe (σ : Type) where
  packetSize : σ → Nat
  /-- Send one transfer; an empty one is a zero-length packet. -/
  write : Bytes → Attempt σ IoFailure Nat
  /-- Receive one transfer of at most the given length. -/
  read : Nat → Attempt σ IoFailure Bytes
  /-- Reset the device behind the pipe. -/
  reset : Attempt σ IoFailure Unit

/-- A transfer of `length` octets needs an empty packet to end it. -/
def needsEmptyPacket (length packetSize : Nat) : Bool :=
  packetSize != 0 && length % packetSize == 0

/-- Octets to reserve for a response of up to `limit` payload octets. -/
def receiveCapacity (limit packetSize : Nat) : Nat :=
  let longest := responseHeaderSize + limit
  if packetSize = 0 then longest else (longest / packetSize + 1) * packetSize

structure PacketLink (σ : Type) where
  pipe : σ
  config : LinkConfig
  /-- Octets of the buffer that responses are read into. -/
  buffer : Nat
  /-- A response to an earlier request may still arrive. -/
  stale : Bool := false
  deriving Repr

namespace PacketLink

variable {σ : Type}

/-- A new link over a pipe. -/
def onPipe (pipe : BulkPipe σ) (s : σ) (config : LinkConfig := {}) : PacketLink σ where
  pipe := s
  config := config
  buffer := receiveCapacity config.limits.response (pipe.packetSize s)

/-- Write one message, and an empty packet behind it where its length calls for one. -/
def send (pipe : BulkPipe σ) (timeout : Duration) (message : Bytes) :
    Attempt σ LinkError Unit := do
  let written ← (pipe.write message).mapError (.ofIo .request timeout)
  if written ≠ message.length then
    throw (.shortWrite written message.length)
  let packetSize ← Attempt.read pipe.packetSize
  if needsEmptyPacket message.length packetSize then
    let _ ← (pipe.write []).mapError (.ofIo .zeroLengthPacket timeout)

/-- A message that does not end with a full packet goes out alone. -/
theorem send_alone {pipe : BulkPipe σ} {message : Bytes} {s s' : σ}
    (written : pipe.write message s = (.ok message.length, s'))
    (short : message.length % pipe.packetSize s' ≠ 0) (timeout : Duration) :
    send pipe timeout message s = (.ok (), s') := by
  have ends : needsEmptyPacket message.length (pipe.packetSize s') = false := by
    simp [needsEmptyPacket, short]
  rw [send, Attempt.bind_of_ok (Attempt.mapError_of_ok written _)]
  simp [Attempt.bind_apply, ends]

/-- A message of whole packets goes out with an empty one behind it. -/
theorem send_ended {pipe : BulkPipe σ} {message : Bytes} {s s₁ s₂ : σ} {n : Nat}
    (written : pipe.write message s = (.ok message.length, s₁)) (hs : 0 < pipe.packetSize s₁)
    (full : message.length % pipe.packetSize s₁ = 0) (empty : pipe.write [] s₁ = (.ok n, s₂))
    (timeout : Duration) :
    send pipe timeout message s = (.ok (), s₂) := by
  have more : needsEmptyPacket message.length (pipe.packetSize s₁) = true := by
    simp [needsEmptyPacket, full, Nat.ne_of_gt hs]
  rw [send, Attempt.bind_of_ok (Attempt.mapError_of_ok written _)]
  simp [Attempt.bind_apply, Attempt.mapError, more, empty]

/-- Read one transfer into the buffer and take it for a response. -/
def receive (pipe : BulkPipe σ) (config : LinkConfig) (buffer : Nat) :
    Attempt σ LinkError Response := do
  let received ← (pipe.read buffer).mapError (.ofIo .response config.timeout)
  (Attempt.ofExcept (Response.decode received config.limits.response)).mapError .malformed

theorem receive_of_ok {pipe : BulkPipe σ} {config : LinkConfig} {buffer : Nat} {received : Bytes}
    {s s' : σ}
    (hread : pipe.read buffer s = (.ok received, s')) :
    receive pipe config buffer s =
      ((Response.decode received config.limits.response).mapError .malformed, s') := by
  rw [receive, Attempt.bind_of_ok (Attempt.mapError_of_ok hread _), Attempt.mapError_ofExcept]

theorem receive_of_error {pipe : BulkPipe σ} {config : LinkConfig} {buffer : Nat} {e : IoFailure}
    {s s' : σ}
    (hread : pipe.read buffer s = (.error e, s')) :
    receive pipe config buffer s = (.error (.ofIo .response config.timeout e), s') := by
  rw [receive, Attempt.bind_of_error (Attempt.mapError_of_error hread _)]

def transfer (pipe : BulkPipe σ) (config : LinkConfig) (buffer : Nat) (header : RequestHeader)
    (payload : Bytes) : Attempt σ LinkError Response := do
  send pipe config.timeout (header.bytes ++ payload)
  receive pipe config buffer

/-- Reset the pipe. Only a reset that succeeds makes a stale pipe fresh. -/
def reset (pipe : BulkPipe σ) : Attempt (PacketLink σ) LinkError Unit := fun l =>
  match pipe.reset l.pipe with
  | (.ok (), p) => (.ok (), { l with pipe := p, stale := false })
  | (.error e, p) => (.error (.ofIo .reset l.config.timeout e), { l with pipe := p })

/-- Reset a stale pipe and leave a fresh one alone. -/
def recover (pipe : BulkPipe σ) : Attempt (PacketLink σ) LinkError Unit := fun l =>
  if l.stale then reset pipe l else (.ok (), l)

def exchange (pipe : BulkPipe σ) (header : RequestHeader) (payload : Bytes) :
    Attempt (PacketLink σ) LinkError Response := fun l =>
  match recover pipe l with
  | (.error e, l) => (.error e, l)
  | (.ok (), l) =>
    match transfer pipe l.config l.buffer header payload l.pipe with
    | (.ok r, p) => (.ok r, { l with pipe := p })
    | (.error e, p) => (.error e, { l with pipe := p, stale := true })

/-- An exchange is a recovery and a transfer, and a transfer that fails leaves a stale link. -/
theorem exchange_of_recover {pipe : BulkPipe σ} {header : RequestHeader} {payload : Bytes}
    {l l' : PacketLink σ} {r : Except LinkError Response} {s : σ}
    (recovered : recover pipe l = (.ok (), l'))
    (transferred : transfer pipe l'.config l'.buffer header payload l'.pipe = (r, s)) :
    exchange pipe header payload l =
      (r, { l' with pipe := s, stale := l'.stale || !r.isOk }) := by
  rw [exchange, recovered]
  simp only [transferred]
  cases r <;> simp [Except.isOk, Except.toBool]

def link (pipe : BulkPipe σ) : Link (PacketLink σ) where
  kind _ := .packet
  limits l := l.config.limits
  setLimits limits l := { l with
    config := { l.config with limits }
    buffer := receiveCapacity limits.response (pipe.packetSize l.pipe) }
  exchange := exchange pipe
  reset := reset pipe

end PacketLink

end PeripheralBridge
