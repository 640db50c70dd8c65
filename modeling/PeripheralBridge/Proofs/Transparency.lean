import PeripheralBridge.Proofs.Calls
import PeripheralBridge.Proofs.StreamReturn
import PeripheralBridge.Proofs.Turns

/-!
# The stack is transparent

With a device that takes a turn before the host reads, a call over a simulated link comes
to what its request comes to at the dispatcher. A request that does not get through is
answered by a timeout and leaves the device as it was. Nothing of a call is left to the
next, whatever happened to it.
-/

namespace PeripheralBridge

variable {ω : Type}

structure Passage where
  /-- The limits the caller keeps to. -/
  limits : PayloadLimits
  /-- A request payload of this length reaches the dispatcher. -/
  admits : Nat → Bool
  /-- What the caller is told of a request that does not get through. -/
  silence : LinkError

namespace Passage

variable {σ : Type} {p : Passage} {d : Dispatcher ω}

/-- An exchange with nothing but a dispatcher behind the passage. -/
def exchange (p : Passage) (d : Dispatcher ω) (address : Address) (payload : Bytes) :
    Attempt ω LinkError Response := fun w =>
  if p.admits payload.length then
    let (response, w) := d.dispatch ⟨address, payload⟩ w
    ((response.within p.limits.response).mapError .malformed, w)
  else (.error p.silence, w)

theorem exchange_of_admitted {address : Address} {payload : Bytes} {w : ω}
    (admitted : p.admits payload.length = true) :
    p.exchange d address payload w =
      (((d.dispatch ⟨address, payload⟩ w).1.within p.limits.response).mapError .malformed,
        (d.dispatch ⟨address, payload⟩ w).2) := by
  rw [exchange, if_pos admitted]

theorem exchange_of_refused {address : Address} {payload : Bytes} {w : ω}
    (refused : p.admits payload.length = false) :
    p.exchange d address payload w = (.error p.silence, w) := by
  rw [exchange, refused]
  rfl

/-- A call with nothing but a dispatcher behind the passage. -/
def call (p : Passage) (d : Dispatcher ω) (address : Address) (payload : Bytes) :
    Attempt ω CallError Bytes := fun w =>
  if p.limits.request < payload.length then
    (.error (.requestTooLarge payload.length p.limits.request), w)
  else if declarableMax < payload.length then
    (.error (.requestTooLarge payload.length declarableMax), w)
  else if p.admits payload.length then
    let (response, w) := d.dispatch ⟨address, payload⟩ w
    (Device.answer p.limits.response response, w)
  else (.error (.link p.silence), w)

/-- A link whose exchanges come to what they come to over a passage has calls that do. -/
theorem call_simulates (link : Link σ) {R : ω → σ → Prop}
    (limits : ∀ w s, R w s → link.limits s = p.limits)
    (exchanges : ∀ address payload w s, R w s → payload.length ≤ declarableMax → ∃ s',
      link.exchange ⟨address, UInt16.ofNat payload.length⟩ payload s =
          ((p.exchange d address payload w).1, s') ∧
        R (p.exchange d address payload w).2 s')
    (address : Address) (payload : Bytes) (w : ω) (s : σ) (related : R w s) :
    ∃ s', Device.call link address payload s = ((p.call d address payload w).1, s') ∧
      R (p.call d address payload w).2 s' := by
  have hlimits := limits w s related
  rw [call]
  by_cases exceeds : p.limits.request < payload.length
  · rw [if_pos exceeds, ← hlimits]
    exact ⟨s, Device.call_of_over (hlimits ▸ exceeds), related⟩
  have fits : payload.length ≤ (link.limits s).request := hlimits ▸ Nat.le_of_not_lt exceeds
  rw [if_neg exceeds]
  by_cases undeclarable : declarableMax < payload.length
  · rw [if_pos undeclarable]
    exact ⟨s, Device.call_of_undeclarable fits undeclarable, related⟩
  have declarable := Nat.le_of_not_lt undeclarable
  obtain ⟨s', hexchange, next⟩ := exchanges address payload w s related declarable
  rw [if_neg undeclarable]
  cases admitted : p.admits payload.length with
  | true =>
    rw [exchange_of_admitted admitted] at hexchange next
    rw [← hlimits] at hexchange ⊢
    exact ⟨s', Device.call_of_response fits declarable hexchange, next⟩
  | false =>
    rw [exchange_of_refused admitted] at hexchange next
    exact ⟨s', Device.call_of_error fits declarable hexchange, next⟩

def ofPackets (host : LinkConfig) (config : DeviceConfig) : Passage where
  limits := host.limits
  admits n := n ≤ config.limits.request
  silence := .timeout .response host.timeout

/-- The passage of a byte stream. A request has to fit into the receive queue. -/
def ofStream (host : LinkConfig) (config : DeviceConfig) : Passage where
  limits := host.limits
  admits n := n ≤ config.limits.request ∧ requestHeaderSize + n ≤ config.queueCapacity
  silence := .timeout .responseHeader host.timeout

end Passage

/-- An event that says nothing worse than that a request was refused. -/
def BenchEvent.Mild : BenchEvent → Prop
  | .refused (.malformed _) | .reset _ => True
  | _ => False

theorem mild_append {journal more : List BenchEvent} (mild : ∀ e ∈ journal, e.Mild)
    (added : ∀ e ∈ more, e.Mild) : ∀ e ∈ journal ++ more, e.Mild := by
  intro e he
  exact (List.mem_append.mp he).elim (mild e) (added e)

variable {d : Dispatcher ω} {config : DeviceConfig} {host : LinkConfig} {w : ω} {size : Nat}
  {address : Address} {payload : Bytes}

namespace UsbLink

/-- Between calls no request waits, and no response is under way on a link that is not stale. -/
inductive Idle (size : Nat) (d : Dispatcher ω) (config : DeviceConfig) (host : LinkConfig) :
    ω → PacketLink (Bench UsbLink ω) → Prop where
  | intro {w : ω} {toHost : Queue Bytes} {resets : Nat} {journal : List BenchEvent}
      {stale : Bool} (drained : stale = false → toHost.toList = [])
      (mild : ∀ e ∈ journal, e.Mild) :
      Idle size d config host w
        ⟨⟨{ packetSize := size, toHost, resets }, d, config, w, journal⟩, host,
          receiveCapacity host.limits.response size, stale⟩

/-- A message is written and ended with no turn in between. -/
theorem send_bench (b : Bench UsbLink ω) (hs : 0 < b.link.packetSize)
    (up : b.link.deviceOpen = true) {message : Bytes} (hm : message ≠ []) (timeout : Duration) :
    PacketLink.send benchPipe timeout message b =
      (.ok (), { b with
        link := { b.link with
          toDevice := b.link.toDevice ++ messagePackets b.link.packetSize message } }) := by
  have hwrite : benchPipe.write message b = (.ok message.length, { b with
      link := { b.link with
        toDevice := b.link.toDevice ++ packets b.link.packetSize message } }) :=
    Bench.onLink_of (hostWrite_message up hm)
  by_cases full : message.length % b.link.packetSize = 0
  · have hempty := Bench.onLink_of
      (b := { b with
        link := { b.link with
          toDevice := b.link.toDevice ++ packets b.link.packetSize message } })
      (hostWrite_empty up)
    rw [PacketLink.send_ended hwrite hs full hempty, messagePackets, if_pos full,
      ← List.append_assoc]
  · rw [PacketLink.send_alone hwrite full, messagePackets, if_neg full, List.append_nil]

theorem recover_idle {x : PacketLink (Bench UsbLink ω)} (idle : Idle size d config host w x) :
    ∃ toHost resets journal, PacketLink.recover benchPipe x =
        (.ok (), ⟨⟨{ packetSize := size, toHost, resets }, d, config, w, journal⟩, host,
          receiveCapacity host.limits.response size, false⟩) ∧
      toHost.toList = [] ∧ ∀ e ∈ journal, e.Mild := by
  cases idle with
  | @intro toHost resets journal stale drained mild =>
    cases stale with
    | false => exact ⟨toHost, resets, journal, rfl, drained rfl, mild⟩
    | true =>
      refine ⟨{}, resets + 1, journal ++ [.reset (resets + 1)], rfl, rfl, mild_append mild ?_⟩
      simp [BenchEvent.Mild]

section Transfer

variable (host : LinkConfig) (address : Address) (w : ω) {toHost : Queue Bytes} (resets : Nat)
  (journal : List BenchEvent)

/-- What a transfer reads, after the turn in which the device answers its request. -/
theorem transfer_answered (hs : 0 < size) (same : d.registry.limits = config.limits)
    (small : config.limits.response ≤ declarableMax) (drained : toHost.toList = [])
    (declarable : payload.length ≤ declarableMax)
    (fits : payload.length ≤ config.limits.request) :
    ∃ left, PacketLink.transfer benchPipe host (receiveCapacity host.limits.response size)
        ⟨address, UInt16.ofNat payload.length⟩ payload
        ⟨{ packetSize := size, toHost, resets }, d, config, w, journal⟩ =
          (((d.dispatch ⟨address, payload⟩ w).1.within host.limits.response).mapError .malformed,
            ⟨{ packetSize := size, toHost := .ofList left, resets }, d, config,
              (d.dispatch ⟨address, payload⟩ w).2, journal⟩) ∧
      ((d.dispatch ⟨address, payload⟩ w).1.payload.length ≤ host.limits.response → left = []) := by
  have hsend := send_bench ⟨{ packetSize := size, toHost, resets }, d, config, w, journal⟩ hs rfl
    (Request.octets_ne_nil ⟨address, payload⟩) host.timeout
  have within : (d.dispatch ⟨address, payload⟩ w).1.payload.length ≤ config.limits.response :=
    same ▸ d.dispatch_payload_le ⟨address, payload⟩ w
  have hle := Nat.le_trans within small
  obtain ⟨out, hturn, hout⟩ := turn_answered
    (l := { packetSize := size,
            toDevice := messagePackets size (Request.octets ⟨address, payload⟩), toHost, resets })
    (q := ⟨address, payload⟩) hs rfl declarable fits within hle (List.append_nil _).symm
  rw [drained, List.nil_append] at hout
  obtain ⟨received, left, hread, hdecode, hleft⟩ := hostRead_response
    (l := { packetSize := size, toHost := out, resets }) hs host.limits.response hle
    (hout.trans (List.append_nil _).symm)
  rw [List.append_nil] at hread
  have hpipe : benchPipe.read (receiveCapacity host.limits.response size)
      ⟨{ packetSize := size,
         toDevice := messagePackets size (Request.octets ⟨address, payload⟩), toHost, resets },
        d, config, w, journal⟩ =
      (.ok received, ⟨{ packetSize := size, toHost := .ofList left, resets }, d, config,
        (d.dispatch ⟨address, payload⟩ w).2, journal⟩) := by
    have htake : takeTurn
        ⟨{ packetSize := size,
           toDevice := messagePackets size (Request.octets ⟨address, payload⟩), toHost, resets },
          d, config, w, journal⟩ =
        ⟨{ packetSize := size, toHost := out, resets }, d, config,
          (d.dispatch ⟨address, payload⟩ w).2, journal⟩ := by
      rw [takeTurn, Bench.takeTurn_of_some hturn]
      simp [BenchEvent.ofTurn]
    exact benchRead_of_turn htake hread
  refine ⟨left, ?_, hleft⟩
  rw [PacketLink.transfer]
  refine (Attempt.bind_of_ok hsend _).trans ?_
  rw [← hdecode]
  exact PacketLink.receive_of_ok hpipe

/-- A transfer of a request that the device refuses comes to a timeout. -/
theorem transfer_unanswered (hs : 0 < size) (drained : toHost.toList = [])
    (declarable : payload.length ≤ declarableMax)
    (exceeds : config.limits.request < payload.length) :
    PacketLink.transfer benchPipe host (receiveCapacity host.limits.response size)
        ⟨address, UInt16.ofNat payload.length⟩ payload
        ⟨{ packetSize := size, toHost, resets }, d, config, w, journal⟩ =
      (.error (.timeout .response host.timeout),
        ⟨{ packetSize := size, toHost := .ofList [], resets }, d, config, w, journal ++
          [.refused (.malformed (.payloadTooLarge payload.length config.limits.request))]⟩) := by
  have hsend := send_bench ⟨{ packetSize := size, toHost, resets }, d, config, w, journal⟩ hs rfl
    (Request.octets_ne_nil ⟨address, payload⟩) host.timeout
  have hturn := turn_refused
    (l := { packetSize := size,
            toDevice := messagePackets size (Request.octets ⟨address, payload⟩), toHost, resets })
    (d := d) (q := ⟨address, payload⟩) (w := w) hs declarable exceeds (List.append_nil _).symm
  have htake : takeTurn
      ⟨{ packetSize := size,
         toDevice := messagePackets size (Request.octets ⟨address, payload⟩), toHost, resets },
        d, config, w, journal⟩ =
      ⟨{ packetSize := size, toHost, resets }, d, config, w, journal ++
        [.refused (.malformed (.payloadTooLarge payload.length config.limits.request))]⟩ := by
    rw [takeTurn, Bench.takeTurn_of_some hturn]
    rfl
  have hread := hostRead_nothing (l := { packetSize := size, toHost, resets }) rfl drained
    (receiveCapacity host.limits.response size)
  have hpipe : benchPipe.read (receiveCapacity host.limits.response size)
      ⟨{ packetSize := size,
         toDevice := messagePackets size (Request.octets ⟨address, payload⟩), toHost, resets },
        d, config, w, journal⟩ =
      (.error .timedOut, ⟨{ packetSize := size, toHost := .ofList [], resets }, d, config, w,
        journal ++
          [.refused (.malformed (.payloadTooLarge payload.length config.limits.request))]⟩) :=
    benchRead_of_turn htake hread
  rw [PacketLink.transfer]
  exact (Attempt.bind_of_ok hsend _).trans (PacketLink.receive_of_error hpipe)

end Transfer

/-- An exchange on an idle link comes to what it comes to over the passage, and leaves an idle
link behind. -/
theorem exchange_idle (hs : 0 < size) (same : d.registry.limits = config.limits)
    (small : config.limits.response ≤ declarableMax) (address : Address) (payload : Bytes) (w : ω)
    (x : PacketLink (Bench UsbLink ω)) (idle : Idle size d config host w x)
    (declarable : payload.length ≤ declarableMax) :
    ∃ x', PacketLink.exchange benchPipe ⟨address, UInt16.ofNat payload.length⟩ payload x =
        (((Passage.ofPackets host config).exchange d address payload w).1, x') ∧
      Idle size d config host
        ((Passage.ofPackets host config).exchange d address payload w).2 x' := by
  obtain ⟨toHost, resets, journal, hrecover, drained, mild⟩ := recover_idle idle
  by_cases admitted : payload.length ≤ config.limits.request
  · obtain ⟨left, htransfer, hleft⟩ :=
      transfer_answered host address w resets journal hs same small drained declarable admitted
    have hexchange := PacketLink.exchange_of_recover hrecover htransfer
    rw [Passage.exchange_of_admitted (decide_eq_true admitted)]
    refine ⟨_, hexchange, .intro ?_ mild⟩
    intro fresh
    refine hleft (Nat.le_of_not_lt fun exceeds => ?_)
    rw [Response.within, if_pos exceeds] at fresh
    cases fresh
  · have htransfer := transfer_unanswered (d := d) host address w resets journal hs drained
      declarable (Nat.lt_of_not_le admitted)
    have hexchange := PacketLink.exchange_of_recover hrecover htransfer
    rw [Passage.exchange_of_refused (decide_eq_false admitted)]
    refine ⟨_, hexchange, .intro (fun _ => rfl) (mild_append mild ?_)⟩
    simp [BenchEvent.Mild]

end UsbLink

namespace UartLink

/-- Between calls no request waits. What is under way to the host does not matter. -/
inductive Idle (d : Dispatcher ω) (config : DeviceConfig) (host : LinkConfig) :
    ω → StreamLink (Bench UartLink ω) → Prop where
  | intro {w : ω} {chunks : List Bytes} {pending : Bytes} {journal : List BenchEvent}
      (mild : ∀ e ∈ journal, e.Mild) :
      Idle d config host w
        ⟨⟨line config.queueCapacity [] chunks pending, d, config, w, journal⟩, host⟩

section Receive

variable {capacity : Nat} {journal : List BenchEvent}

/-- With no request waiting a read takes no turn. -/
theorem benchRead_idle {chunks : List Bytes} {pending : Bytes} {count : Nat}
    {r : Except IoFailure Bytes} {l : UartLink}
    (hread : hostRead count (line capacity [] chunks pending) = (r, l)) :
    benchPort.read count ⟨line capacity [] chunks pending, d, config, w, journal⟩ =
      (r, ⟨l, d, config, w, journal⟩) := by
  have hturn := turn_none (e := (line capacity [] chunks pending).device) config d w rfl rfl
  have htake : takeTurn ⟨line capacity [] chunks pending, d, config, w, journal⟩ =
      ⟨line capacity [] chunks pending, d, config, w, journal⟩ := by
    rw [takeTurn, Bench.takeTurn_of_none hturn]
  exact benchRead_of_turn htake hread

theorem receive_unheard :
    StreamLink.receive benchPort host
        ⟨line capacity [] [] [], d, config, w, journal⟩ =
      (.error (.timeout .responseHeader host.timeout),
        ⟨line capacity [] [] [], d, config, w, journal⟩) :=
  StreamLink.receive_of_silence (benchRead_idle (hostRead_nothing rfl rfl rfl _))

/-- What is received after the turn in which the device answers. -/
theorem receive_answered (same : d.registry.limits = config.limits)
    (small : config.limits.response ≤ declarableMax) (declarable : payload.length ≤ declarableMax)
    (fits : payload.length ≤ config.limits.request) :
    StreamLink.receive benchPort host
        ⟨line capacity (Request.octets ⟨address, payload⟩) [] [], d, config, w, journal⟩ =
      (((d.dispatch ⟨address, payload⟩ w).1.within host.limits.response).mapError .malformed,
        ⟨line capacity [] [] [], d, config, (d.dispatch ⟨address, payload⟩ w).2, journal⟩) := by
  have within : (d.dispatch ⟨address, payload⟩ w).1.payload.length ≤ config.limits.response :=
    same ▸ d.dispatch_payload_le ⟨address, payload⟩ w
  have hturn := turn_answered
    (e := (line capacity (Request.octets ⟨address, payload⟩) [] []).device)
    (q := ⟨address, payload⟩) rfl declarable fits within (Nat.le_trans within small)
    (List.append_nil _).symm
  have htake : takeTurn
      ⟨line capacity (Request.octets ⟨address, payload⟩) [] [], d, config, w, journal⟩ =
      ⟨line capacity [] [(d.dispatch ⟨address, payload⟩ w).1.octets] [], d, config,
        (d.dispatch ⟨address, payload⟩ w).2, journal⟩ := by
    rw [takeTurn, Bench.takeTurn_of_some hturn]
    simp [BenchEvent.ofTurn, line]
  obtain ⟨r, hr⟩ : ∃ r, r = (d.dispatch ⟨address, payload⟩ w).1 := ⟨_, rfl⟩
  have hle : r.payload.length ≤ declarableMax :=
    hr ▸ Nat.le_trans (same ▸ d.dispatch_payload_le ⟨address, payload⟩ w) small
  rw [← hr] at htake ⊢
  have hhead : benchPort.read responseHeaderSize
      ⟨line capacity (Request.octets ⟨address, payload⟩) [] [], d, config, w, journal⟩ =
      (.ok (ResponseHeader.bytes ⟨r.code, UInt16.ofNat r.payload.length⟩),
        ⟨line capacity [] [] r.payload, d, config, (d.dispatch ⟨address, payload⟩ w).2,
          journal⟩) :=
    benchRead_of_turn htake (hostRead_head rfl rfl)
  by_cases exceeds : host.limits.response < r.payload.length
  · exact StreamLink.receive_of_over hle hhead exceeds
  have within := Nat.le_of_not_lt exceeds
  by_cases empty : r.payload = []
  · rw [StreamLink.receive_of_empty hle hhead within empty, empty]
  · exact StreamLink.receive_of_body hle hhead within empty
      (benchRead_idle (hostRead_body rfl empty))

/-- The same for a request that the device refuses. -/
theorem receive_refused (declarable : payload.length ≤ declarableMax)
    (exceeds : config.limits.request < payload.length) :
    StreamLink.receive benchPort host
        ⟨line capacity (Request.octets ⟨address, payload⟩) [] [], d, config, w, journal⟩ =
      (.error (.timeout .responseHeader host.timeout),
        ⟨line capacity [] [] [], d, config, w, journal ++
          [.refused (.malformed (.payloadTooLarge payload.length config.limits.request))]⟩) := by
  have hturn := turn_refused
    (e := (line capacity (Request.octets ⟨address, payload⟩) [] []).device)
    (q := ⟨address, payload⟩) (d := d) (w := w) declarable exceeds (List.append_nil _).symm
  have htake : takeTurn
      ⟨line capacity (Request.octets ⟨address, payload⟩) [] [], d, config, w, journal⟩ =
      ⟨line capacity [] [] [], d, config, w, journal ++
        [.refused (.malformed (.payloadTooLarge payload.length config.limits.request))]⟩ := by
    rw [takeTurn, Bench.takeTurn_of_some hturn]
    rfl
  exact StreamLink.receive_of_silence (benchRead_of_turn htake (hostRead_nothing rfl rfl rfl _))

end Receive

/-- A request is queued as a whole or not at all. -/
theorem send_line (d : Dispatcher ω) (config : DeviceConfig) (w : ω) (capacity : Nat)
    {message : Bytes} (hm : message ≠ []) (timeout : Duration) (journal : List BenchEvent) :
    StreamLink.send benchPort timeout message
        ⟨line capacity [] [] [], d, config, w, journal⟩ =
      (.ok (), ⟨line capacity (if message.length ≤ capacity then message else []) [] [],
        d, config, w, journal⟩) := by
  have hwrite : hostWrite message (line capacity [] [] []) = (.ok message.length,
      line capacity (if message.length ≤ capacity then message else []) [] []) := by
    by_cases fits : message.length ≤ capacity
    · simp [hostWrite, RxQueue.push, RxQueue.free, line, fits]
    · simp [hostWrite, RxQueue.push, RxQueue.free, line, fits]
  have hbench : benchPort.write message ⟨line capacity [] [] [], d, config, w, journal⟩ =
      (.ok message.length, ⟨line capacity (if message.length ≤ capacity then message else []) [] [],
        d, config, w, journal⟩) :=
    Bench.onLink_of (b := ⟨line capacity [] [] [], d, config, w, journal⟩) hwrite
  exact StreamLink.send_of_whole hm hbench rfl timeout

/-- An exchange on an idle line comes to what it comes to over the passage, and leaves an idle
line behind. -/
theorem exchange_idle (same : d.registry.limits = config.limits)
    (small : config.limits.response ≤ declarableMax) (address : Address) (payload : Bytes) (w : ω)
    (x : StreamLink (Bench UartLink ω)) (idle : Idle d config host w x)
    (declarable : payload.length ≤ declarableMax) :
    ∃ x', StreamLink.exchange benchPort ⟨address, UInt16.ofNat payload.length⟩ payload x =
        (((Passage.ofStream host config).exchange d address payload w).1, x') ∧
      Idle d config host ((Passage.ofStream host config).exchange d address payload w).2 x' := by
  cases idle with
  | @intro chunks pending journal mild =>
    have hlen := Request.length_octets ⟨address, payload⟩
    have hsend := send_line d config w config.queueCapacity
      (Request.octets_ne_nil ⟨address, payload⟩) host.timeout journal
    have hexchange : StreamLink.exchange benchPort ⟨address, UInt16.ofNat payload.length⟩ payload
        ⟨⟨line config.queueCapacity [] chunks pending, d, config, w, journal⟩, host⟩ = _ :=
      StreamLink.exchange_of_send hsend
    by_cases roomy : requestHeaderSize + payload.length ≤ config.queueCapacity
    · rw [if_pos (hlen ▸ roomy)] at hexchange
      by_cases fits : payload.length ≤ config.limits.request
      · rw [receive_answered same small declarable fits] at hexchange
        rw [Passage.exchange_of_admitted (decide_eq_true ⟨fits, roomy⟩)]
        exact ⟨_, hexchange, .intro mild⟩
      · rw [receive_refused declarable (Nat.lt_of_not_le fits)] at hexchange
        rw [Passage.exchange_of_refused (decide_eq_false fun h => fits h.1)]
        exact ⟨_, hexchange, .intro (mild_append mild (by simp [BenchEvent.Mild]))⟩
    · rw [if_neg (hlen ▸ roomy), receive_unheard] at hexchange
      rw [Passage.exchange_of_refused (decide_eq_false fun h => roomy h.2)]
      exact ⟨_, hexchange, .intro mild⟩

end UartLink

/-- A device that has booted serves the registry it was booted from. -/
theorem Dispatcher.eq_of_boot {r : Registry ω} {w₀ : ω} (booted : boot r w₀ = (.ok d, w)) :
    d = ofRegistry r := by
  rw [boot, Attempt.bind_apply] at booted
  split at booted
  · simp only [Attempt.pure_apply, Prod.mk.injEq, Except.ok.injEq] at booted
    exact booted.1.symm
  · simp at booted

/-- Every run of calls to a booted device over a simulated link comes to what it comes to at the
dispatcher: each request that gets through is dispatched once, in order, and no other is. -/
theorem calls_transparent {r : Registry ω} {w₀ : ω}
    (booted : Dispatcher.boot r w₀ = (.ok d, w)) (same : r.limits = config.limits)
    (small : config.limits.response ≤ declarableMax) (host : LinkConfig)
    (calls : List (Address × Bytes)) :
    (∀ size, 1 ≤ size → ∃ x,
      callEach (Device.call (PacketLink.link UsbLink.benchPipe)) calls
          (.onPipe UsbLink.benchPipe ⟨{ packetSize := size }, d, config, w, []⟩ host) =
        ((callEach ((Passage.ofPackets host config).call d) calls w).1, x) ∧
      x.pipe.world = (callEach ((Passage.ofPackets host config).call d) calls w).2 ∧
      ∀ e ∈ x.pipe.journal, e.Mild) ∧
    ∃ l x,
      StreamLink.start UartLink.benchPort host
        ⟨UartLink.ofCapacity config.queueCapacity, d, config, w, []⟩ = .ok l ∧
      callEach (Device.call (StreamLink.link UartLink.benchPort)) calls l =
        ((callEach ((Passage.ofStream host config).call d) calls w).1, x) ∧
      x.port.world = (callEach ((Passage.ofStream host config).call d) calls w).2 ∧
      ∀ e ∈ x.port.journal, e.Mild := by
  have limits : d.registry.limits = config.limits := by
    rw [Dispatcher.eq_of_boot booted]
    exact same
  constructor
  · intro size hs
    have fresh : UsbLink.Idle size d config host w
        (.onPipe UsbLink.benchPipe ⟨{ packetSize := size }, d, config, w, []⟩ host) :=
      .intro (fun _ => rfl) (by simp)
    have step := Passage.call_simulates (p := Passage.ofPackets host config) (d := d)
      (PacketLink.link UsbLink.benchPipe) (fun w x idle => by cases idle; rfl)
      (UsbLink.exchange_idle hs limits small)
    obtain ⟨x, hcalls, idle⟩ := callEach_simulates step calls fresh
    refine ⟨x, hcalls, ?_⟩
    generalize (callEach ((Passage.ofPackets host config).call d) calls w).2 = w' at idle
    cases idle with
    | intro _ mild => exact ⟨rfl, mild⟩
  · have fresh : UartLink.Idle d config host w
        ⟨⟨UartLink.ofCapacity config.queueCapacity, d, config, w, []⟩, host⟩ :=
      .intro (by simp)
    have step := Passage.call_simulates (p := Passage.ofStream host config) (d := d)
      (StreamLink.link UartLink.benchPort) (fun w x idle => by cases idle; rfl)
      (UartLink.exchange_idle limits small)
    obtain ⟨x, hcalls, idle⟩ := callEach_simulates step calls fresh
    refine ⟨_, x, rfl, hcalls, ?_⟩
    generalize (callEach ((Passage.ofStream host config).call d) calls w).2 = w' at idle
    cases idle with
    | intro mild => exact ⟨rfl, mild⟩

/-- A device with one function of its own, which answers with the request payload and counts. -/
def echoRegistry : Registry Nat :=
  let plan : RegistryPlan Nat := { serial := "echo", limits := ⟨4, 4⟩ }
  (plan.place .gpio {
    name := "echo"
    instances := 1
    functions := [fun _ payload count => (.reply payload, count + 1)] }).assemble

def echoAddress : Address := ⟨PeripheralClass.gpio.id, 0, 0⟩

/-- Four calls: the second request is over the limit of the device, and the third does not fit
into a receive queue of ten octets. -/
theorem calls_transparent_echo :
    (∃ x, callEach (Device.call (PacketLink.link UsbLink.benchPipe))
        [(echoAddress, [1, 2]), (echoAddress, [1, 2, 3, 4, 5]), (echoAddress, [1, 2, 3]),
          (echoAddress, [])]
        (.onPipe UsbLink.benchPipe ⟨{ packetSize := 8 }, .ofRegistry echoRegistry,
          { limits := ⟨4, 4⟩, queueCapacity := 10 }, 0, []⟩) =
      ([.ok [1, 2], .error (.link (.timeout .response defaultTimeout)), .ok [1, 2, 3], .ok []],
        x) ∧ x.pipe.world = 3) ∧
    ∃ l x, StreamLink.start UartLink.benchPort {} ⟨UartLink.ofCapacity 10,
        .ofRegistry echoRegistry, { limits := ⟨4, 4⟩, queueCapacity := 10 }, 0, []⟩ = .ok l ∧
      callEach (Device.call (StreamLink.link UartLink.benchPort))
        [(echoAddress, [1, 2]), (echoAddress, [1, 2, 3, 4, 5]), (echoAddress, [1, 2, 3]),
          (echoAddress, [])]
        l =
      ([.ok [1, 2], .error (.link (.timeout .responseHeader defaultTimeout)),
        .error (.link (.timeout .responseHeader defaultTimeout)), .ok []], x) ∧
      x.port.world = 2 := by
  have h := @calls_transparent Nat (.ofRegistry echoRegistry)
    { limits := ⟨4, 4⟩, queueCapacity := 10 } 0 echoRegistry 0 rfl rfl (by decide) {}
    [(echoAddress, [1, 2]), (echoAddress, [1, 2, 3, 4, 5]), (echoAddress, [1, 2, 3]),
      (echoAddress, [])]
  obtain ⟨x, husb, hworld, _⟩ := h.1 8 (by decide)
  obtain ⟨l, y, hstart, huart, hworld', _⟩ := h.2
  exact ⟨⟨x, husb, hworld⟩, l, y, hstart, huart, hworld'⟩

end PeripheralBridge
