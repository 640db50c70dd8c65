import PeripheralBridge.Proofs.PacketReturn
import PeripheralBridge.Proofs.RequestParsing
import PeripheralBridge.Simulated.Bench

/-!
# Turns over a simulated link

A device that finds a request waiting answers it, and the response is under way before the
turn is over. A request whose payload is over the limit is refused: on packets it alone
is dropped, on a byte stream everything received behind it is dropped with it.
-/

namespace PeripheralBridge

variable {ω : Type} {d : Dispatcher ω} {q : Request} {w : ω}

/-- Serving goes on after the turn, whatever has gone before. -/
def Turn.GoesOn (t : Turn) : Prop := ∀ broken, ∃ next, t.standing broken = .serving next

theorem Turn.goesOn_of_sent {r : Response} : (answered q r (.ok ())).GoesOn :=
  fun _ => ⟨0, rfl⟩

theorem Turn.goesOn_of_recoverable {r : Response} {e : InterfaceError}
    (recoverable : e.recoverable = true) : (answered q r (.error e)).GoesOn := by
  intro broken
  cases e with
  | init _ => cases recoverable
  | closed => cases recoverable
  | _ => exact ⟨0, rfl⟩

theorem Interface.receive_eq_none {σ : Type} {i : Interface σ} {s : σ}
    (h : i.turn d s w = none) : i.receive s = none := by
  rw [turn] at h
  split at h
  · assumption
  · cases h
  · cases h

/-- What every turn keeps, serving keeps until nothing has arrived. -/
theorem Interface.run_keeps {σ : Type} {i : Interface σ} {Q : σ → ω → Prop}
    (kept : ∀ s w t s' w', Q s w → i.turn d s w = some (t, s', w') → t.GoesOn ∧ Q s' w')
    (broken : Nat) {s : σ} (h : Q s w) :
    Q (i.run d broken s w).state (i.run d broken s w).world ∧
      i.turn d (i.run d broken s w).state (i.run d broken s w).world = none := by
  induction hn : i.arrived s using Nat.strongRecOn generalizing s w broken with
  | ind n ih =>
    cases hturn : i.turn d s w with
    | none =>
      rw [run_of_none hturn]
      exact ⟨h, hturn⟩
    | some next =>
      obtain ⟨t, s', w'⟩ := next
      obtain ⟨goesOn, h'⟩ := kept s w t s' w' h hturn
      obtain ⟨m, hm⟩ := goesOn broken
      rw [run_of_serving hturn hm]
      exact ih _ (hn ▸ arrived_lt_of_turn hturn hm) m h' rfl

/-- No response is longer than the registry allows. -/
theorem Dispatcher.dispatch_payload_le (d : Dispatcher ω) (q : Request) (w : ω) :
    (d.dispatch q w).1.payload.length ≤ d.registry.limits.response := by
  have hfault : ∀ f : DeviceFault,
      (Response.ofFault f).payload.length ≤ d.registry.limits.response := fun _ => Nat.zero_le _
  rw [dispatch]
  cases handler? d.registry q.toAddress with
  | none => exact hfault _
  | some handler =>
    cases d.locks.slot? q.classId q.index with
    | none => exact hfault _
    | some lock =>
      simp only [respond]
      cases (handler q.index q.payload w).1.ending with
      | finished =>
        by_cases exceeds :
            d.registry.limits.response < (handler q.index q.payload w).1.written.length
        · simp only [if_pos exceeds]
          exact hfault _
        · simp only [if_neg exceeds]
          exact Nat.le_of_not_lt exceeds
      | failed fault => exact hfault _
      | crashed => exact hfault _

/-- What comes of a response, given the octets a payload may have and how a message is sent. -/
theorem Response.send_eq {σ : Type} (limit : Nat) (response : Response)
    (transmit : Bytes → Attempt σ InterfaceError Unit) (s : σ) :
    (do
        if limit < response.payload.length then
          throw (.responseTooLarge response.payload.length limit)
        let message ← (Attempt.ofExcept response.encode).mapError .malformed
        transmit message : Attempt σ InterfaceError Unit) s =
      if limit < response.payload.length then
        (.error (.responseTooLarge response.payload.length limit), s)
      else if response.payload.length ≤ declarableMax then transmit response.octets s
      else (.error (.malformed (.payloadTooLarge response.payload.length declarableMax)), s) := by
  by_cases exceeds : limit < response.payload.length
  · simp only [if_pos exceeds]
    rfl
  simp only [if_neg exceeds]
  rcases Nat.lt_or_ge declarableMax response.payload.length with long | short
  · rw [if_neg (Nat.not_le.mpr long), Response.encode_of_lt long]
    rfl
  · rw [if_pos short, Response.encode_octets short]
    rfl

/-- A response that is too long is refused before anything of it is sent, on either link. -/
theorem Response.unsent_of_long {σ : Type} {limit : Nat} {r : Response}
    (long : limit < r.payload.length ∨ declarableMax < r.payload.length)
    (transmit : Bytes → Attempt σ InterfaceError Unit) (s : σ) :
    ∃ e, (do
        if limit < r.payload.length then
          throw (.responseTooLarge r.payload.length limit)
        let message ← (Attempt.ofExcept r.encode).mapError .malformed
        transmit message : Attempt σ InterfaceError Unit) s = (.error e, s) ∧
      e.recoverable = true := by
  rw [send_eq]
  by_cases exceeds : limit < r.payload.length
  · exact ⟨_, if_pos exceeds, rfl⟩
  · have undeclarable := Nat.not_le.mpr (long.resolve_left exceeds)
    rw [if_neg exceeds, if_neg undeclarable]
    exact ⟨_, rfl, rfl⟩

namespace UsbLink

variable {l : UsbLink} {rest : List Bytes} {config : DeviceConfig}

theorem receive_request (config : DeviceConfig) (hs : 0 < l.packetSize)
    (declarable : q.payload.length ≤ declarableMax)
    (waiting : l.toDevice = messagePackets l.packetSize q.octets ++ rest) :
    (interface config).receive l =
      some ((q.within config.limits.request).mapError .malformed, { l with toDevice := rest }) := by
  have hdeclared : (UInt16.ofNat q.payload.length).toNat = q.payload.length :=
    toNat_lengthField declarable
  have hverdict : PacketInterface.verdict config.limits.request q.octets =
      (Request.decode q.octets config.limits.request).mapError .malformed :=
    PacketInterface.verdict_of_declared hdeclared config.limits.request
  rw [Request.decode_octets declarable] at hverdict
  have hreceive := receive_messagePackets hs config.limits.request waiting
  rwa [hverdict] at hreceive

/-- A request that is not too large is dispatched, and its response handed to the link. -/
theorem turn_taken (hs : 0 < l.packetSize) (declarable : q.payload.length ≤ declarableMax)
    (fits : q.payload.length ≤ config.limits.request)
    (waiting : l.toDevice = messagePackets l.packetSize q.octets ++ rest)
    {sent : Except InterfaceError Unit} {l' : UsbLink}
    (hsend : PacketInterface.send port config.limits.response (d.dispatch q w).1
      { l with toDevice := rest } = (sent, l')) :
    (interface config).turn d l w =
      some (.answered q (d.dispatch q w).1 sent, l', (d.dispatch q w).2) := by
  have hreceive : (interface config).receive l = some (.ok q, { l with toDevice := rest }) := by
    rw [receive_request config hs declarable waiting, Request.within, if_neg (Nat.not_lt.mpr fits)]
    rfl
  rw [Interface.turn, hreceive]
  simp only [interface, PacketInterface.interface, hsend]

/-- A response that can be sent is under way when the turn is over. -/
theorem turn_answered (hs : 0 < l.packetSize) (listening : l.hostOpen = true)
    (declarable : q.payload.length ≤ declarableMax)
    (fits : q.payload.length ≤ config.limits.request)
    (within : (d.dispatch q w).1.payload.length ≤ config.limits.response)
    (short : (d.dispatch q w).1.payload.length ≤ declarableMax)
    (waiting : l.toDevice = messagePackets l.packetSize q.octets ++ rest) :
    ∃ out, (interface config).turn d l w =
        some (.answered q (d.dispatch q w).1 (.ok ()),
          { l with toDevice := rest, toHost := out }, (d.dispatch q w).2) ∧
      out.toList = l.toHost.toList ++ messagePackets l.packetSize (d.dispatch q w).1.octets := by
  obtain ⟨out, hsend, hout⟩ := send_response (l := { l with toDevice := rest }) listening within
    short
  exact ⟨out, turn_taken hs declarable fits waiting hsend, hout⟩

/-- A response that is too long is not sent. -/
theorem send_too_long {limit : Nat} {r : Response}
    (long : limit < r.payload.length ∨ declarableMax < r.payload.length) :
    ∃ e, PacketInterface.send port limit r l = (.error e, l) ∧ e.recoverable = true :=
  Response.unsent_of_long long _ l

theorem turn_refused (hs : 0 < l.packetSize) (declarable : q.payload.length ≤ declarableMax)
    (exceeds : config.limits.request < q.payload.length)
    (waiting : l.toDevice = messagePackets l.packetSize q.octets ++ rest) :
    (interface config).turn d l w =
      some (.refused (.malformed (.payloadTooLarge q.payload.length config.limits.request)),
        { l with toDevice := rest }, w) := by
  rw [Interface.turn, receive_request config hs declarable waiting, Request.within, if_pos exceeds]
  rfl

/-- Packets that end no message are not taken. -/
theorem turn_none (config : DeviceConfig) (d : Dispatcher ω) (w : ω)
    (listening : l.hostOpen = true) (full : ∀ p ∈ l.toDevice, p.length = l.packetSize) :
    (interface config).turn d l w = none := by
  have hreceive : (interface config).receive l = none := by
    have hread := readMessage_unended (PacketInterface.room config.limits.request)
      listening {} full
    simp only [interface, PacketInterface.interface, PacketInterface.receive, port] at hread ⊢
    rw [hread]
  rw [Interface.turn, hreceive]

end UsbLink

namespace UartLink

variable {e : StreamEnd ReturnLine} {rest : Bytes} {config : DeviceConfig}

/-- A response goes out as one chunk. -/
theorem send_chunk {line : ReturnLine} (listening : line.hostOpen = true) {limit : Nat}
    {r : Response} (fits : r.payload.length ≤ limit)
    (declarable : r.payload.length ≤ declarableMax) :
    StreamInterface.send ReturnLine.sink limit r line =
      (.ok (), { line with chunks := line.chunks ++ [r.octets] }) := by
  have hwrite : ReturnLine.sink.writeAll r.octets line =
      (.ok (), { line with chunks := line.chunks ++ [r.octets] }) :=
    ByteSink.writeAll_of_whole r.octets_ne_nil
      (by simp [ReturnLine.sink, ReturnLine.write, listening])
  have hencode : ((Attempt.ofExcept r.encode).mapError InterfaceError.malformed) line =
      (.ok r.octets, line) := by
    rw [Response.encode_octets declarable]
    rfl
  rw [StreamInterface.send, if_neg (Nat.not_lt.mpr fits)]
  refine (Attempt.bind_of_ok hencode _).trans (Attempt.mapError_of_ok ?_ _)
  exact Attempt.bind_of_ok hwrite _

/-- A response that is too long is not sent. -/
theorem send_too_long {line : ReturnLine} {limit : Nat} {r : Response}
    (long : limit < r.payload.length ∨ declarableMax < r.payload.length) :
    ∃ e, StreamInterface.send ReturnLine.sink limit r line = (.error e, line) ∧
      e.recoverable = true :=
  Response.unsent_of_long long _ line

/-- A request that is not too large is dispatched, and its response handed to the line. -/
theorem turn_taken (declarable : q.payload.length ≤ declarableMax)
    (fits : q.payload.length ≤ config.limits.request)
    (waiting : e.queue.bytes = q.octets ++ rest) {sent : Except InterfaceError Unit}
    {line : ReturnLine}
    (hsend : StreamInterface.send ReturnLine.sink config.limits.response (d.dispatch q w).1
      e.sink = (sent, line)) :
    (interface config).turn d e w =
      some (.answered q (d.dispatch q w).1 sent,
        { queue := { e.queue with bytes := rest }, sink := line }, (d.dispatch q w).2) := by
  have htake := StreamInterface.takeRequest_octets config.limits.request config.byteTimeout
    declarable waiting
  rw [Request.within, if_neg (Nat.not_lt.mpr fits), if_neg (Nat.not_lt.mpr fits)] at htake
  have hreceive : (interface config).receive e =
      some (.ok q, { e with queue := { e.queue with bytes := rest } }) := by
    simp only [interface, StreamInterface.interface, StreamInterface.receive, htake]
    rfl
  rw [Interface.turn, hreceive]
  simp only [interface, StreamInterface.interface, Attempt.onPart, hsend]

/-- A response that can be sent is under way when the turn is over. -/
theorem turn_answered (listening : e.sink.hostOpen = true)
    (declarable : q.payload.length ≤ declarableMax)
    (fits : q.payload.length ≤ config.limits.request)
    (within : (d.dispatch q w).1.payload.length ≤ config.limits.response)
    (short : (d.dispatch q w).1.payload.length ≤ declarableMax)
    (waiting : e.queue.bytes = q.octets ++ rest) :
    (interface config).turn d e w =
      some (.answered q (d.dispatch q w).1 (.ok ()),
        { queue := { e.queue with bytes := rest }
          sink := { e.sink with chunks := e.sink.chunks ++ [(d.dispatch q w).1.octets] } },
        (d.dispatch q w).2) :=
  turn_taken declarable fits waiting (send_chunk listening within short)

theorem turn_refused (declarable : q.payload.length ≤ declarableMax)
    (exceeds : config.limits.request < q.payload.length)
    (waiting : e.queue.bytes = q.octets ++ rest) :
    (interface config).turn d e w =
      some (.refused (.malformed (.payloadTooLarge q.payload.length config.limits.request)),
        { e with queue := { e.queue with bytes := [] } }, w) := by
  have htake := StreamInterface.takeRequest_octets config.limits.request config.byteTimeout
    declarable waiting
  rw [Request.within, if_pos exceeds, if_pos exceeds] at htake
  have hreceive : (interface config).receive e =
      some (.error (.malformed (.payloadTooLarge q.payload.length config.limits.request)),
        { e with queue := { e.queue with bytes := [] } }) := by
    simp only [interface, StreamInterface.interface, StreamInterface.receive, htake]
    rfl
  rw [Interface.turn, hreceive]

theorem turn_none (config : DeviceConfig) (d : Dispatcher ω) (w : ω)
    (connected : e.queue.closed = false) (idle : e.queue.bytes = []) :
    (interface config).turn d e w = none := by
  have hreceive : (interface config).receive e = none := by
    simp [interface, StreamInterface.interface, StreamInterface.receive,
      StreamInterface.takeRequest, connected, idle]
  rw [Interface.turn, hreceive]

end UartLink

end PeripheralBridge
