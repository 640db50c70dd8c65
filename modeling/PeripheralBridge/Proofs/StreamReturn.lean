import PeripheralBridge.Proofs.Wire
import PeripheralBridge.Simulated.Uart

/-!
# Responses on a byte stream

A host that reads a response takes its header and its payload and nothing behind them. A
response that is too large is purged with everything behind it, and so is the line when
nothing comes in time.
-/

namespace PeripheralBridge

section Port

variable {σ : Type} {port : BytePort σ} {want : Nat} {s s' : σ}

section ReadFull

variable (stage : ExchangeStage) (timeout : Duration)

theorem BytePort.readFull_of_whole {data : Bytes} (hread : port.read want s = (.ok data, s'))
    (hd : data ≠ []) (whole : data.length = want) :
    port.readFull stage timeout want s = (.ok data, s') := by
  subst whole
  have hw : data.length ≠ 0 := mt List.length_eq_zero_iff.mp hd
  rw [port.readFull_of_ne_zero stage timeout hw, hread]
  cases data with
  | nil => exact absurd rfl hd
  | cons b data =>
    simp only [Nat.sub_self, readFull_zero, Except.map, List.append_nil]

theorem BytePort.readFull_of_silence (hw : want ≠ 0)
    (hread : port.read want s = (.error .timedOut, s')) :
    port.readFull stage timeout want s =
      (.error (.timeout stage timeout), (port.purge s').2) := by
  rw [port.readFull_of_ne_zero stage timeout hw, hread]
  rfl

end ReadFull

variable {config : LinkConfig} {r : Response}

namespace StreamLink

theorem receive_of_silence
    (hread : port.read responseHeaderSize s = (.error .timedOut, s')) :
    receive port config s =
      (.error (.timeout .responseHeader config.timeout), (port.purge s').2) := by
  have hhead := BytePort.readFull_of_silence .responseHeader config.timeout (by decide) hread
  rw [receive]
  exact Attempt.bind_of_error hhead _

variable (declarable : r.payload.length ≤ declarableMax)
  (head : port.read responseHeaderSize s =
    (.ok (ResponseHeader.bytes ⟨r.code, UInt16.ofNat r.payload.length⟩), s'))

include declarable head

/-- What is received once the header of a response has been read. -/
theorem receive_of_head :
    receive port config s =
      if config.limits.response < r.payload.length then
        (.error (.malformed (.payloadTooLarge r.payload.length config.limits.response)),
          (port.purge s').2)
      else (do
        let payload ← port.readFull .responsePayload config.timeout r.payload.length
        return ⟨r.code, payload⟩ : Attempt σ LinkError Response) s' := by
  have hne : ResponseHeader.bytes ⟨r.code, UInt16.ofNat r.payload.length⟩ ≠ [] :=
    List.cons_ne_nil _ _
  have hhead := BytePort.readFull_of_whole .responseHeader config.timeout head hne
    (ResponseHeader.length_bytes _)
  have hheader := ResponseHeader.read_bytes_append
    ⟨r.code, UInt16.ofNat r.payload.length⟩ []
  rw [List.append_nil] at hheader
  rw [receive]
  refine (Attempt.bind_of_ok hhead _).trans ?_
  refine (Attempt.bind_of_ok (Attempt.mapError_of_ok
    (congrArg (fun x => (x, s')) hheader) _) _).trans ?_
  simp only [toNat_lengthField declarable, checkPayload]
  by_cases exceeds : config.limits.response < r.payload.length
  · simp only [if_pos exceeds]
  · simp only [if_neg exceeds]

theorem receive_of_over (exceeds : config.limits.response < r.payload.length) :
    receive port config s =
      ((r.within config.limits.response).mapError .malformed, (port.purge s').2) := by
  rw [receive_of_head declarable head, if_pos exceeds, Response.within, if_pos exceeds]
  rfl

theorem receive_of_empty (fits : r.payload.length ≤ config.limits.response)
    (empty : r.payload = []) :
    receive port config s = ((r.within config.limits.response).mapError .malformed, s') := by
  rw [receive_of_head declarable head, if_neg (Nat.not_lt.mpr fits), Response.within,
    if_neg (Nat.not_lt.mpr fits), empty]
  refine (Attempt.bind_of_ok (port.readFull_zero .responsePayload config.timeout s')
    _).trans ?_
  cases r
  cases empty
  rfl

theorem receive_of_body {s₂ : σ} (fits : r.payload.length ≤ config.limits.response)
    (nonempty : r.payload ≠ []) (body : port.read r.payload.length s' = (.ok r.payload, s₂)) :
    receive port config s = ((r.within config.limits.response).mapError .malformed, s₂) := by
  have hbody := BytePort.readFull_of_whole .responsePayload config.timeout body nonempty rfl
  rw [receive_of_head declarable head, if_neg (Nat.not_lt.mpr fits), Response.within,
    if_neg (Nat.not_lt.mpr fits)]
  exact Attempt.bind_of_ok hbody _

end StreamLink

end Port

namespace UartLink

/-- A line in use: what the device has received, what it has sent, and what the host has not
read of a chunk. -/
def line (capacity : Nat) (received : Bytes) (chunks : List Bytes) (pending : Bytes) : UartLink :=
  { device := ⟨{ capacity, bytes := received }, { chunks }⟩, pending }

variable {l : UartLink} {r : Response} {rest : List Bytes}

/-- A read for a header takes the header of the first response under way. -/
theorem hostRead_head (drained : l.pending = [])
    (waiting : l.device.sink.chunks = r.octets :: rest) :
    hostRead responseHeaderSize l =
      (.ok (ResponseHeader.bytes ⟨r.code, UInt16.ofNat r.payload.length⟩),
        { l with
          pending := r.payload
          device := { l.device with sink := { l.device.sink with chunks := rest } } }) := by
  rw [hostRead, drained, waiting]
  rfl

theorem hostRead_body (begun : l.pending = r.payload) (nonempty : r.payload ≠ []) :
    hostRead r.payload.length l = (.ok r.payload, { l with pending := [] }) := by
  cases hp : r.payload with
  | nil => exact absurd hp nonempty
  | cons b more =>
    rw [hostRead, begun, hp]
    simp

theorem hostRead_nothing (up : l.deviceOpen = true) (drained : l.pending = [])
    (idle : l.device.sink.chunks = []) (count : Nat) :
    hostRead count l = (.error .timedOut, l) := by
  rw [hostRead, drained, idle]
  simp [up]

end UartLink

end PeripheralBridge
