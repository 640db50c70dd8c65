import PeripheralBridge.BytePort
import PeripheralBridge.Link.Basic
import PeripheralBridge.Message.Codec

/-!
# Stream links

A byte stream has no message ends. A response is read in two steps: the header, and
then the payload length it declares, never an octet more. Input is purged before each
request, so that what is left of an earlier response is not taken for the next one. A
timeout and a payload length beyond the limit purge at once as well.
-/

namespace PeripheralBridge

namespace BytePort

variable {σ : Type}

def readFull (port : BytePort σ) (stage : ExchangeStage) (timeout : Duration) (want : Nat)
    (s : σ) : Except LinkError Bytes × σ :=
  if _hw : want = 0 then (.ok [], s)
  else
    match _h : port.read want s with
    | (.ok [], s') => (.error .closed, s')
    | (.ok (b :: data), s') =>
      match readFull port stage timeout (want - (b :: data).length) s' with
      | (.ok rest, s'') => (.ok (b :: data ++ rest), s'')
      | (.error e, s'') => (.error e, s'')
    | (.error e, s') =>
      if _ht : e.Transient then readFull port stage timeout want s'
      else
        let e := LinkError.ofIo stage timeout e
        (.error e, if e.isTimeout then (port.purge s').2 else s')
termination_by (want, port.interruptions s)
decreasing_by
  · apply Prod.Lex.left
    simp only [List.length_cons]
    omega
  · exact Prod.Lex.right _ (port.read_interrupted _ _ _ _ _h _ht)

variable (port : BytePort σ) (stage : ExchangeStage) (timeout : Duration) {want : Nat}

theorem readFull_zero (s : σ) : port.readFull stage timeout 0 s = (.ok [], s) := by
  rw [readFull, dif_pos rfl]

/-- One step of reading an exact number of octets. -/
theorem readFull_of_ne_zero (hw : want ≠ 0) (s : σ) :
    port.readFull stage timeout want s = match port.read want s with
      | (.ok [], s') => (.error .closed, s')
      | (.ok (b :: data), s') =>
        ((port.readFull stage timeout (want - (b :: data).length) s').1.map (b :: data ++ ·),
          (port.readFull stage timeout (want - (b :: data).length) s').2)
      | (.error e, s') =>
        if e.Transient then port.readFull stage timeout want s'
        else (.error (.ofIo stage timeout e),
          if (LinkError.ofIo stage timeout e).isTimeout then (port.purge s').2 else s') := by
  rw [readFull, dif_neg hw]
  split <;> rename_i h <;> simp only [h, dite_eq_ite]
  split <;> rename_i h' <;> rw [h'] <;> rfl

end BytePort

structure StreamLink (σ : Type) where
  port : σ
  config : LinkConfig := {}
  deriving Repr

namespace StreamLink

variable {σ : Type}

/-- Take a port into use with the configured timeout. -/
def start (port : BytePort σ) (config : LinkConfig) (s : σ) :
    Except LinkError (StreamLink σ) :=
  match port.setTimeout config.timeout s with
  | (.ok (), s) => .ok { port := s, config }
  | (.error e, _) => .error (.ofIo .request config.timeout e)

/-- Send one message; output that failed is reported for the request as a whole. -/
def send (port : BytePort σ) (timeout : Duration) (message : Bytes) :
    Attempt σ LinkError Unit :=
  Attempt.mapError (.ofIo .request timeout) do
    port.toByteSink.writeAll message
    port.flush

/-- A port that takes a message in one step and can be flushed has sent it. -/
theorem send_of_whole {port : BytePort σ} {message : Bytes} {s s₁ s₂ : σ} (hm : message ≠ [])
    (written : port.write message s = (.ok message.length, s₁))
    (flushed : port.flush s₁ = (.ok (), s₂)) (timeout : Duration) :
    send port timeout message s = (.ok (), s₂) := by
  have hall : port.toByteSink.writeAll message s = (.ok (), s₁) :=
    ByteSink.writeAll_of_whole hm written
  exact Attempt.mapError_of_ok ((Attempt.bind_of_ok hall _).trans flushed) _

def receive (port : BytePort σ) (config : LinkConfig) : Attempt σ LinkError Response := do
  let head ← port.readFull .responseHeader config.timeout responseHeaderSize
  let (header, _) ← (Attempt.ofExcept (ResponseHeader.read head)).mapError .malformed
  match checkPayload header.payloadLength.toNat config.limits.response with
  | .error e => fun s => (.error (.malformed e), (port.purge s).2)
  | .ok () =>
    let payload ← port.readFull .responsePayload config.timeout header.payloadLength.toNat
    return ⟨header.code, payload⟩

/-- Purge, send, receive. A purge that fails does not stop the exchange. -/
def exchange (port : BytePort σ) (header : RequestHeader) (payload : Bytes) :
    Attempt (StreamLink σ) LinkError Response := fun l =>
  let step : Attempt σ LinkError Response := do
    Attempt.update fun s => (port.purge s).2
    send port l.config.timeout (header.bytes ++ payload)
    receive port l.config
  let (r, s) := step l.port
  (r, { l with port := s })

/-- After the purge an exchange sends and receives. -/
theorem exchange_eq (port : BytePort σ) (header : RequestHeader) (payload : Bytes)
    (l : StreamLink σ) :
    exchange port header payload l =
      let (answer, s) := (do
        send port l.config.timeout (header.bytes ++ payload)
        receive port l.config : Attempt σ LinkError Response) (port.purge l.port).2
      (answer, { l with port := s }) := rfl

/-- An exchange whose message went out comes to what is received then. -/
theorem exchange_of_send {port : BytePort σ} {header : RequestHeader} {payload : Bytes}
    {l : StreamLink σ} {s : σ}
    (sent : send port l.config.timeout (header.bytes ++ payload) (port.purge l.port).2 =
      (.ok (), s)) :
    exchange port header payload l =
      ((receive port l.config s).1, { l with port := (receive port l.config s).2 }) := by
  rw [exchange_eq, Attempt.bind_of_ok sent]

/-- The link over a port. There is no way to reset the device behind it. -/
def link (port : BytePort σ) : Link (StreamLink σ) where
  kind _ := .stream
  limits l := l.config.limits
  setLimits limits l := { l with config := { l.config with limits } }
  exchange := exchange port
  reset := pure ()

end StreamLink

end PeripheralBridge
