import PeripheralBridge.Message.Codec
import PeripheralBridge.Service.Interface

/-!
# Serving a packet link

A message is all packets up to and including the first that is not full. A message
longer than any acceptable request is read to its end before it is refused, so that the
next one starts where it should.
-/

namespace PeripheralBridge

structure PacketPort (σ : Type) where
  packetSize : σ → Nat
  /-- Take the next packet, which may have at most the given number of octets; none when
  no packet has arrived yet. -/
  read : Nat → σ → Option (Except InterfaceError Bytes × σ)
  /-- Send one packet. -/
  write : Bytes → Attempt σ InterfaceError Unit
  /-- A bound on the packets that have arrived. -/
  arrived : σ → Nat
  read_arrived : ∀ size s s' r,
    read size s = some (r, s') → r ≠ .error .closed → arrived s' < arrived s
  write_arrived : ∀ p s, arrived (write p s).2 ≤ arrived s

/-- The packets that carry a message, the last of them not full. -/
def messagePackets (size : Nat) (message : Bytes) : List Bytes :=
  packets size message ++ if message.length % size = 0 then [[]] else []

/-- What has been read of a message. -/
structure Intake where
  /-- Its length so far. -/
  total : Nat := 0
  /-- Its packets, last one first, as long as there was room for them. -/
  kept : List Bytes := []
  deriving DecidableEq, Repr

namespace Intake

/-- Count a packet, and keep it if the message still has no more than `room` octets. -/
def add (room : Nat) (p : Bytes) (i : Intake) : Intake where
  total := i.total + p.length
  kept := if i.total + p.length ≤ room then p :: i.kept else i.kept

def octets (i : Intake) : Bytes := i.kept.reverse.flatten

end Intake

namespace PacketPort

variable {σ : Type}

/-- Take packets to the end of a message; none while its end has not arrived. -/
def readMessage (port : PacketPort σ) (size room : Nat) (i : Intake) (s : σ) :
    Option (Except InterfaceError Intake × σ) :=
  match _h : port.read size s with
  | none => none
  | some (.error e, s') => some (.error e, s')
  | some (.ok p, s') =>
    let i := i.add room p
    if p.length < size then some (.ok i, s') else readMessage port size room i s'
termination_by port.arrived s
decreasing_by exact port.read_arrived _ _ _ _ _h (by simp)

def writeEach (port : PacketPort σ) : List Bytes → Attempt σ InterfaceError Unit
  | [] => pure ()
  | p :: rest => do
    port.write p
    writeEach port rest

theorem readMessage_arrived (port : PacketPort σ) (size room : Nat) (i : Intake) (s s' : σ)
    (r : Except InterfaceError Intake) (h : port.readMessage size room i s = some (r, s'))
    (hr : r ≠ .error .closed) : port.arrived s' < port.arrived s := by
  induction hn : port.arrived s using Nat.strongRecOn generalizing i s s' r with
  | ind n ih =>
    rw [readMessage] at h
    split at h
    · exact absurd h (by simp)
    · rename_i e s₁ hread
      injection h with h
      injection h with h₁ h₂
      subst h₁ h₂
      exact hn ▸ port.read_arrived _ _ _ _ hread (by simpa using hr)
    · rename_i p s₁ hread
      have hlt : port.arrived s₁ < n := hn ▸ port.read_arrived _ _ _ _ hread (by simp)
      split at h
      · injection h with h
        injection h with h₁ h₂
        subst h₂
        exact hlt
      · exact Nat.lt_trans (ih _ hlt _ _ _ _ h hr rfl) hlt

theorem writeEach_arrived (port : PacketPort σ) (ps : List Bytes) (s : σ) :
    port.arrived (port.writeEach ps s).2 ≤ port.arrived s := by
  induction ps generalizing s with
  | nil => exact Nat.le_refl _
  | cons p rest ih =>
    have hw := port.write_arrived p s
    simp only [writeEach, Attempt.bind_apply]
    split
    · rename_i a s' heq
      rw [heq] at hw
      exact Nat.le_trans (ih s') hw
    · rename_i e s' heq
      rw [heq] at hw
      exact hw

end PacketPort

namespace PacketInterface

variable {σ : Type}

/-- The longest message that can be a request within a payload limit. -/
def room (limit : Nat) : Nat := requestHeaderSize + limit

/-- The request that a whole message is, within a payload limit. -/
def accept (limit : Nat) (message : Intake) : Except InterfaceError Request :=
  if room limit < message.total then
    .error (.malformed (.payloadTooLarge (message.total - requestHeaderSize) limit))
  else (Request.decode message.octets limit).mapError .malformed

def receive (port : PacketPort σ) (limit : Nat) (s : σ) :
    Option (Except InterfaceError Request × σ) :=
  match port.readMessage (port.packetSize s) (room limit) {} s with
  | none => none
  | some (.error e, s) => some (.error e, s)
  | some (.ok message, s) => some (accept limit message, s)

/-- Send a response within a payload limit. -/
def send (port : PacketPort σ) (limit : Nat) (r : Response) : Attempt σ InterfaceError Unit := do
  if limit < r.payload.length then
    throw (.responseTooLarge r.payload.length limit)
  let message ← (Attempt.ofExcept r.encode).mapError .malformed
  let size ← Attempt.read port.packetSize
  port.writeEach (messagePackets size message)

/-- Packets of no octets cannot carry anything. -/
def init (port : PacketPort σ) : Attempt σ InterfaceError Unit := fun s =>
  if port.packetSize s = 0 then (.error (.init "max packet size must be nonzero"), s)
  else (.ok (), s)

theorem receive_arrived (port : PacketPort σ) (limit : Nat) (s s' : σ)
    (r : Except InterfaceError Request) (h : receive port limit s = some (r, s'))
    (hr : r ≠ .error .closed) : port.arrived s' < port.arrived s := by
  unfold receive at h
  split at h
  · exact absurd h (by simp)
  · rename_i e s₁ hm
    injection h with h
    injection h with h₁ h₂
    subst h₁ h₂
    exact port.readMessage_arrived _ _ _ _ _ _ hm (by simpa using hr)
  · rename_i message s₁ hm
    injection h with h
    injection h with h₁ h₂
    subst h₂
    exact port.readMessage_arrived _ _ _ _ _ _ hm (by simp)

theorem send_arrived (port : PacketPort σ) (limit : Nat) (r : Response) (s : σ) :
    port.arrived (send port limit r s).2 ≤ port.arrived s := by
  unfold send
  by_cases hl : limit < r.payload.length
  · simp [hl, Attempt.bind_apply]
  · cases he : r.encode with
    | error e => simp [hl, Attempt.bind_apply, Attempt.mapError]
    | ok message =>
      simpa [hl, he, Attempt.bind_apply, Attempt.mapError] using
        port.writeEach_arrived (messagePackets (port.packetSize s) message) s

def interface (name : String) (port : PacketPort σ) (limits : PayloadLimits) : Interface σ where
  name := name
  init := init port
  receive := receive port limits.request
  send := send port limits.response
  arrived := port.arrived
  receive_arrived := receive_arrived port limits.request
  send_arrived := send_arrived port limits.response

end PacketInterface

end PeripheralBridge
