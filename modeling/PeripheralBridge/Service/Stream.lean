import PeripheralBridge.BytePort
import PeripheralBridge.Message.Codec
import PeripheralBridge.Service.Interface
import PeripheralBridge.Service.RxQueue

/-!
# Serving a byte stream

A request is taken from the receive queue once its first octet is there. If the queue
runs out before its end, the octets read so far are lost with it; if its header
declares too much, the queue is purged. Either way the next request is looked for in
what arrives later.
-/

namespace PeripheralBridge

/-- The device end of a byte stream: what has been received, and where to answer. -/
structure StreamEnd (σ : Type) where
  queue : RxQueue
  sink : σ
  deriving Repr

namespace StreamInterface

variable {σ : Type}

def takeRequest (limit : Nat) (timeout : Duration) (q : RxQueue) :
    Option (Except InterfaceError Request × RxQueue) :=
  if q.bytes = [] then
    if q.closed then some (.error .closed, q) else none
  else
    match RequestHeader.read q.bytes with
    | .error _ => some (.error (q.silence timeout), { q with bytes := [] })
    | .ok (header, rest) =>
      let length := header.payloadLength.toNat
      match checkPayload length limit with
      | .error e => some (.error (.malformed e), { q with bytes := [] })
      | .ok () =>
        if rest.length < length then
          some (.error (q.silence timeout), { q with bytes := [] })
        else
          some (.ok ⟨header.toAddress, rest.take length⟩, { q with bytes := rest.drop length })

/-- Every request that is taken, and every failure but the end of input, leaves less in
the queue. -/
theorem takeRequest_length (limit : Nat) (timeout : Duration) (q q' : RxQueue)
    (r : Except InterfaceError Request) (h : takeRequest limit timeout q = some (r, q'))
    (hr : r ≠ .error .closed) : q'.bytes.length < q.bytes.length := by
  unfold takeRequest at h
  split at h
  · split at h
    · injection h with h
      injection h with h₁ h₂
      exact absurd h₁.symm hr
    · exact absurd h (by simp)
  · rename_i hne
    have hpos : 0 < q.bytes.length := List.length_pos_iff.mpr hne
    split at h
    · injection h with h
      injection h with h₁ h₂
      subst h₂
      exact hpos
    · rename_i header rest hread
      have hlen := congrArg List.length (RequestHeader.eq_of_read hread)
      simp only [List.length_append, RequestHeader.length_bytes, requestHeaderSize] at hlen
      dsimp only at h
      split at h
      · injection h with h
        injection h with h₁ h₂
        subst h₂
        exact hpos
      · split at h
        · injection h with h
          injection h with h₁ h₂
          subst h₂
          exact hpos
        · injection h with h
          injection h with h₁ h₂
          subst h₂
          simp only [List.length_drop]
          omega

def receive (limit : Nat) (timeout : Duration) (e : StreamEnd σ) :
    Option (Except InterfaceError Request × StreamEnd σ) :=
  match takeRequest limit timeout e.queue with
  | none => none
  | some (r, q) => some (r, { e with queue := q })

/-- Send a response within a payload limit. -/
def send (sink : ByteSink σ) (limit : Nat) (r : Response) :
    Attempt σ InterfaceError Unit := do
  if limit < r.payload.length then
    throw (.responseTooLarge r.payload.length limit)
  let message ← (Attempt.ofExcept r.encode).mapError .malformed
  Attempt.mapError .io do
    sink.writeAll message
    sink.flush

def interface (name : String) (sink : ByteSink σ) (limits : PayloadLimits)
    (timeout : Duration) : Interface (StreamEnd σ) where
  name := name
  init := pure ()
  receive := receive limits.request timeout
  send r := (send sink limits.response r).onPart StreamEnd.sink fun s e => { e with sink := s }
  arrived e := e.queue.bytes.length
  receive_arrived := by
    intro s s' r h hr
    unfold receive at h
    split at h
    · exact absurd h (by simp)
    · rename_i r' q hq
      injection h with h
      injection h with h₁ h₂
      subst h₁ h₂
      exact takeRequest_length _ _ _ _ _ hq hr
  send_arrived := fun _ _ => Nat.le_refl _

end StreamInterface

end PeripheralBridge
