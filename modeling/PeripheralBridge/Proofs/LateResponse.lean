import PeripheralBridge.Proofs.PacketSchedule
import PeripheralBridge.Proofs.StreamSchedule
import PeripheralBridge.Proofs.Transparency

/-!
# Late responses

A request that has timed out may still wait at the device when the host resets or purges
its link before the next request. Neither step reaches it, and messages carry no number:
its response is then the first to come, and is taken for the answer to the next request.
A call gets the answer to its own request where nothing else is still to come when that
request goes out. Where something is, it gets the answer to an earlier one.
-/

namespace PeripheralBridge

variable {ω : Type} {d : Dispatcher ω} {config : DeviceConfig} {host : LinkConfig} {w : ω}
  {size : Nat} {calls : List (Address × Bytes)}

/-- While some responses are still to come, a call that is answered is answered by the first of
them, and by that to its own request where there are none. -/
def AnsweredInTurn (limit : Nat) (d : Dispatcher ω) (request : Request) (late : List Response)
    (w : ω) (result : Except CallError Bytes) : Prop :=
  Device.Answered result →
    result = Device.answer limit (late.head?.getD (d.dispatch request w).1)

/-- An exchange that takes the first response to come makes a call that does. -/
theorem answered_in_turn {σ : Type} {link : Link σ} {s : σ} {address : Address} {payload : Bytes}
    {late : List Response}
    (first : payload.length ≤ declarableMax → ∃ r s',
      link.exchange ⟨address, UInt16.ofNat payload.length⟩ payload s = (r, s') ∧
        ∀ response, r = .ok response →
          (late ++ [(d.dispatch ⟨address, payload⟩ w).1]).head? = some response) :
    AnsweredInTurn (link.limits s).response d ⟨address, payload⟩ late w
      (Device.call link address payload s).1 := by
  intro answered
  obtain ⟨declarable, response, s₁, hexchange, hresult⟩ := Device.exchange_of_answered answered
  obtain ⟨r, s₂, hfirst, hhead⟩ := first declarable
  have heq := hfirst.symm.trans hexchange
  have hresponse := hhead response (congrArg Prod.fst heq)
  rw [hresult]
  cases late with
  | nil =>
    injection hresponse with hown
    rw [← hown]
    rfl
  | cons earliest rest =>
    injection hresponse with hearliest
    rw [← hearliest]
    rfl

namespace UsbLink

/-- A link to a device that follows a schedule, after some calls. -/
def called (size : Nat) (d : Dispatcher ω) (config : DeviceConfig) (w : ω) (schedule : List Nat)
    (host : LinkConfig) (calls : List (Address × Bytes)) : PacketLink (Timed UsbLink ω) :=
  (callEach (Device.call (PacketLink.link timedPipe)) calls
    (.onPipe timedPipe ⟨{ packetSize := size }, d, config, w, .serving 0, schedule⟩ host)).2

/-- What the device still does, left to itself, where the next request would go out. -/
def leftover (x : PacketLink (Timed UsbLink ω)) : Service UsbLink ω :=
  let b := (PacketLink.recover timedPipe x).2.pipe
  (interface b.config).run b.device 0 b.link b.world

variable (hs : 0 < size)

include hs

theorem called_between (w : ω) (schedule : List Nat) (host : LinkConfig)
    (calls : List (Address × Bytes)) :
    Between size d config host calls (called size d config w schedule host calls) :=
  callEach_keeps (fun _ hc _ between => call_between hs hc between)
    (between_start size d config host calls w schedule)

/-- The next call after some calls is answered by the first response still to come. -/
theorem call_in_turn {x : PacketLink (Timed UsbLink ω)}
    (between : Between size d config host calls x) (address : Address) (payload : Bytes) :
    ∃ late, (leftover x).state.toHost.toList = wire size (late.map Response.octets) ∧
      (∀ r ∈ late, Produced d calls r) ∧
      AnsweredInTurn host.limits.response d ⟨address, payload⟩ late (leftover x).world
        (Device.call (PacketLink.link timedPipe) address payload x).1 := by
  obtain ⟨b, late, final, hrecover, h⟩ := recover_between hs between
  obtain ⟨sent, last⟩ := run_queued hs h
  have hleft : leftover x = (interface config).run d 0 b.link b.world := by
    simp only [leftover, hrecover, h.config, h.device]
  rw [hleft, last]
  refine ⟨late, sent, h.holds.produced_late, ?_⟩
  have hlimits : host.limits = (PacketLink.link timedPipe).limits x :=
    congrArg LinkConfig.limits between.config_eq.symm
  rw [hlimits]
  refine answered_in_turn fun declarable => ?_
  -- The call itself joins those whose requests may be queued only now, so that what is late
  -- belongs to the calls before it.
  have sendable : Sendable (calls ++ [(address, payload)]) ⟨address, payload⟩ :=
    ⟨List.mem_append_right calls List.mem_cons_self, declarable⟩
  obtain ⟨r, x', hexchange, _, hfirst⟩ := exchange_recovered hs hrecover
    (h.imp fun _ _ queued => queued.append [(address, payload)]) sendable
  exact ⟨r, x', hexchange, hfirst⟩

end UsbLink

namespace UartLink

/-- A line to a device that follows a schedule, after some calls. -/
def called (d : Dispatcher ω) (config : DeviceConfig) (w : ω) (schedule : List Nat)
    (host : LinkConfig) (calls : List (Address × Bytes)) : StreamLink (Timed UartLink ω) :=
  (callEach (Device.call (StreamLink.link timedPort)) calls
    ⟨⟨.ofCapacity config.queueCapacity, d, config, w, .serving 0, schedule⟩, host⟩).2

/-- What the device still does, left to itself, where the next request would go out. -/
def leftover (x : StreamLink (Timed UartLink ω)) : Service (StreamEnd ReturnLine) ω :=
  let b := (timedPort.purge x.port).2
  (interface b.config).run b.device 0 b.link.device b.world

theorem called_between (w : ω) (schedule : List Nat) (host : LinkConfig)
    (calls : List (Address × Bytes)) :
    Between config.queueCapacity d config host calls (called d config w schedule host calls) :=
  callEach_keeps (fun _ hc _ between => call_between hc between)
    (between_start config.queueCapacity d config host calls w schedule)

/-- The next call after some calls is answered by the first response still to come. -/
theorem call_in_turn {capacity : Nat} {x : StreamLink (Timed UartLink ω)}
    (between : Between capacity d config host calls x) (address : Address) (payload : Bytes) :
    ∃ late, (leftover x).state.sink.chunks = late.map Response.octets ∧
      (∀ r ∈ late, Produced d calls r) ∧
      AnsweredInTurn host.limits.response d ⟨address, payload⟩ late (leftover x).world
        (Device.call (StreamLink.link timedPort) address payload x).1 := by
  obtain ⟨late, final, h⟩ := purge_between between
  obtain ⟨sent, last⟩ := run_queued h
  have hleft : leftover x = (interface config).run d 0 (timedPort.purge x.port).2.link.device
      (timedPort.purge x.port).2.world := by
    simp only [leftover, h.config, h.device]
  rw [hleft, last]
  refine ⟨late, sent, h.holds.produced_late, ?_⟩
  have hlimits : host.limits = (StreamLink.link timedPort).limits x :=
    congrArg LinkConfig.limits between.config_eq.symm
  rw [hlimits]
  refine answered_in_turn fun declarable => ?_
  have sendable : Sendable (calls ++ [(address, payload)]) ⟨address, payload⟩ :=
    ⟨List.mem_append_right calls List.mem_cons_self, declarable⟩
  obtain ⟨r, x', hexchange, _, hfirst⟩ := exchange_purged between.config_eq
    (h.imp fun _ _ queued => queued.append [(address, payload)]) sendable
  exact ⟨r, x', hexchange, hfirst⟩

end UartLink

def echoRequest (b : UInt8) : Request := ⟨echoAddress, [b]⟩

namespace UsbLink

/-- A link to the echo device, which has been sent some packets and has answered nothing. -/
def echoLink (toDevice : List Bytes) (resets : Nat) (stale : Bool) (schedule : List Nat) :
    PacketLink (Timed UsbLink Nat) :=
  { PacketLink.onPipe timedPipe ⟨{ packetSize := 64, toDevice, resets }, .ofRegistry echoRegistry,
      { limits := ⟨4, 4⟩ }, 0, .serving 0, schedule⟩ with stale }

/-- With no turn before it, a request of one octet joins what waits on the link. -/
theorem send_echo (b : UInt8) (toDevice : List Bytes) (resets : Nat) (schedule : List Nat) :
    PacketLink.send timedPipe defaultTimeout (echoRequest b).octets
        (echoLink toDevice resets false (0 :: schedule)).pipe =
      (.ok (), (echoLink (toDevice ++ messagePackets 64 (echoRequest b).octets) resets false
        schedule).pipe) := by
  have short : (echoRequest b).octets.length % 64 ≠ 0 := by
    rw [Request.length_octets]
    exact (by decide : (requestHeaderSize + 1) % 64 ≠ 0)
  have hwrite : timedPipe.write (echoRequest b).octets
      (echoLink toDevice resets false (0 :: schedule)).pipe = (.ok (echoRequest b).octets.length,
        (echoLink (toDevice ++ messagePackets 64 (echoRequest b).octets) resets false
          schedule).pipe) := by
    have hhost : hostWrite (echoRequest b).octets
        (echoLink toDevice resets false (0 :: schedule)).pipe.link = _ :=
      hostWrite_message rfl (echoRequest b).octets_ne_nil
    rw [messagePackets, if_neg short, List.append_nil]
    exact congrArg
      (fun x => (x.1, { (echoLink toDevice resets false schedule).pipe with link := x.2 })) hhost
  exact PacketLink.send_alone hwrite short defaultTimeout

/-- With no turn before its read, a call leaves its request at the device. -/
theorem call_echo_unheard :
    Device.call (PacketLink.link timedPipe) echoAddress [1] (echoLink [] 0 false [0, 0, 0, 0, 1]) =
      (.error (.link (.timeout .response defaultTimeout)),
        echoLink (messagePackets 64 (echoRequest 1).octets) 0 true [0, 0, 1]) := by
  have hsend := send_echo 1 [] 0 [0, 0, 0, 1]
  have hread : timedPipe.read (receiveCapacity minimumPayload 64)
      (echoLink (messagePackets 64 (echoRequest 1).octets) 0 false [0, 0, 0, 1]).pipe =
        (.error .timedOut,
          (echoLink (messagePackets 64 (echoRequest 1).octets) 0 false [0, 0, 1]).pipe) := rfl
  have htransfer : PacketLink.transfer timedPipe {} (receiveCapacity minimumPayload 64)
      ⟨echoAddress, UInt16.ofNat 1⟩ [1]
      (echoLink [] 0 false [0, 0, 0, 0, 1]).pipe = _ :=
    (Attempt.bind_of_ok hsend _).trans (PacketLink.receive_of_error hread)
  have hrecover : PacketLink.recover timedPipe (echoLink [] 0 false [0, 0, 0, 0, 1]) =
      (.ok (), echoLink [] 0 false [0, 0, 0, 0, 1]) := rfl
  exact Device.call_of_error (by decide) (by decide)
    (PacketLink.exchange_of_recover hrecover htransfer)

/-- With a turn before its read, the next call is answered by what the device makes of that
request. -/
theorem call_echo_late :
    (Device.call (PacketLink.link timedPipe) echoAddress [2]
      (echoLink (messagePackets 64 (echoRequest 1).octets) 0 true [0, 0, 1])).1 = .ok [1] := by
  have hsend := send_echo 2 (messagePackets 64 (echoRequest 1).octets) 1 [1]
  obtain ⟨out, hturn, hout⟩ := @turn_answered Nat (.ofRegistry echoRegistry) (echoRequest 1) 0
    (echoLink (messagePackets 64 (echoRequest 1).octets ++
      messagePackets 64 (echoRequest 2).octets) 1 false []).pipe.link _ { limits := ⟨4, 4⟩ }
    (by decide) rfl (by decide) (by decide) (by decide) (by decide) rfl
  have waited : Timed.wait timedTurn (echoLink (messagePackets 64 (echoRequest 1).octets ++
      messagePackets 64 (echoRequest 2).octets) 1 false [1]).pipe = _ :=
    timedTurn_of_some rfl hturn
  obtain ⟨received, junk, hhost, hdecode, _⟩ := hostRead_response (r := ⟨0, [1]⟩)
    (l := { packetSize := 64, toDevice := messagePackets 64 (echoRequest 2).octets,
            toHost := out, resets := 1 })
    (Nat.zero_lt_succ 63) ({} : LinkConfig).limits.response (by decide)
    (hout.trans (List.append_nil _).symm)
  have hread : timedPipe.read (receiveCapacity minimumPayload 64)
      (echoLink (messagePackets 64 (echoRequest 1).octets ++
        messagePackets 64 (echoRequest 2).octets) 1 false [1]).pipe = _ :=
    Timed.step_of_wait waited hhost
  have hreceive : PacketLink.receive timedPipe {} (receiveCapacity minimumPayload 64)
      (echoLink (messagePackets 64 (echoRequest 1).octets ++
        messagePackets 64 (echoRequest 2).octets) 1 false [1]).pipe = _ :=
    PacketLink.receive_of_ok hread
  rw [hdecode] at hreceive
  have htransfer : PacketLink.transfer timedPipe {} (receiveCapacity minimumPayload 64)
      ⟨echoAddress, UInt16.ofNat 1⟩ [2]
      (echoLink (messagePackets 64 (echoRequest 1).octets) 1 false [0, 1]).pipe = _ :=
    (Attempt.bind_of_ok hsend _).trans hreceive
  have hrecover : PacketLink.recover timedPipe
      (echoLink (messagePackets 64 (echoRequest 1).octets) 0 true [0, 0, 1]) =
        (.ok (), echoLink (messagePackets 64 (echoRequest 1).octets) 1 false [0, 1]) := rfl
  exact congrArg Prod.fst (Device.call_of_response (r := ⟨0, [1]⟩) (by decide) (by decide)
    (PacketLink.exchange_of_recover hrecover htransfer))

theorem calls_echo :
    (callEach (Device.call (PacketLink.link timedPipe)) [(echoAddress, [1]), (echoAddress, [2])]
        (echoLink [] 0 false [0, 0, 0, 0, 1])).1 =
      [.error (.link (.timeout .response defaultTimeout)), .ok [1]] := by
  simp only [callEach, call_echo_unheard, call_echo_late]

end UsbLink

namespace UartLink

/-- A line to the echo device, which has received some octets and has sent nothing. -/
def echoLine (received : Bytes) (schedule : List Nat) : StreamLink (Timed UartLink Nat) :=
  ⟨⟨line 520 received [] [], .ofRegistry echoRegistry, { limits := ⟨4, 4⟩ }, 0, .serving 0,
    schedule⟩, {}⟩

/-- With no turn before its read, a call leaves its request at the device. -/
theorem call_echo_unheard :
    Device.call (StreamLink.link timedPort) echoAddress [1]
        (echoLine [] [0, 0, 0, 0, 0, 0, 0, 0, 1]) =
      (.error (.link (.timeout .responseHeader defaultTimeout)),
        echoLine (echoRequest 1).octets [0, 0, 0, 1]) := by
  have hwrite : timedPort.write (echoRequest 1).octets
      (echoLine [] [0, 0, 0, 0, 0, 0, 0, 1]).port =
        (.ok (echoRequest 1).octets.length,
          (echoLine (echoRequest 1).octets [0, 0, 0, 0, 0, 0, 1]).port) := rfl
  have hflush : timedPort.flush (echoLine (echoRequest 1).octets [0, 0, 0, 0, 0, 0, 1]).port =
      (.ok (), (echoLine (echoRequest 1).octets [0, 0, 0, 0, 0, 1]).port) := rfl
  have hread : timedPort.read responseHeaderSize
      (echoLine (echoRequest 1).octets [0, 0, 0, 0, 0, 1]).port =
        (.error .timedOut, (echoLine (echoRequest 1).octets [0, 0, 0, 0, 1]).port) := rfl
  have hsend := StreamLink.send_of_whole (echoRequest 1).octets_ne_nil hwrite hflush defaultTimeout
  have hreceive : StreamLink.receive timedPort {}
      (echoLine (echoRequest 1).octets [0, 0, 0, 0, 0, 1]).port = _ :=
    StreamLink.receive_of_silence hread
  have hexchange : (StreamLink.link timedPort).exchange ⟨echoAddress, UInt16.ofNat 1⟩ [1]
      (echoLine [] [0, 0, 0, 0, 0, 0, 0, 0, 1]) = _ :=
    (StreamLink.exchange_of_send hsend).trans
      (congrArg (fun x => (x.1, StreamLink.mk x.2 {})) hreceive)
  exact Device.call_of_error (by decide) (by decide) hexchange

/-- With a turn before its read, the next call is answered by what the device makes of that
request. -/
theorem call_echo_late :
    (Device.call (StreamLink.link timedPort) echoAddress [2]
      (echoLine (echoRequest 1).octets [0, 0, 0, 1])).1 = .ok [1] := by
  have hwrite : timedPort.write (echoRequest 2).octets
      (echoLine (echoRequest 1).octets [0, 0, 1]).port =
        (.ok (echoRequest 2).octets.length,
          (echoLine ((echoRequest 1).octets ++ (echoRequest 2).octets) [0, 1]).port) := rfl
  have hflush : timedPort.flush
      (echoLine ((echoRequest 1).octets ++ (echoRequest 2).octets) [0, 1]).port =
        (.ok (), (echoLine ((echoRequest 1).octets ++ (echoRequest 2).octets) [1]).port) := rfl
  have hturn : (interface { limits := ⟨4, 4⟩ }).turn (.ofRegistry echoRegistry)
      (echoLine ((echoRequest 1).octets ++ (echoRequest 2).octets) []).port.link.device 0 = _ :=
    turn_answered (q := echoRequest 1) rfl (by decide) (by decide) (by decide) (by decide) rfl
  have hread : timedPort.read responseHeaderSize
      (echoLine ((echoRequest 1).octets ++ (echoRequest 2).octets) [1]).port =
        (.ok (ResponseHeader.bytes ⟨0, 1⟩),
          ⟨line 520 (echoRequest 2).octets [] [1], .ofRegistry echoRegistry,
            { limits := ⟨4, 4⟩ }, 1, .serving 0, []⟩) := by
    have waited : Timed.wait timedTurn
        (echoLine ((echoRequest 1).octets ++ (echoRequest 2).octets) [1]).port = _ :=
      timedTurn_of_some
        (b := (echoLine ((echoRequest 1).octets ++ (echoRequest 2).octets) []).port) rfl hturn
    exact Timed.step_of_wait waited rfl
  have hsend := StreamLink.send_of_whole (echoRequest 2).octets_ne_nil hwrite hflush defaultTimeout
  have hreceive : StreamLink.receive timedPort {}
      (echoLine ((echoRequest 1).octets ++ (echoRequest 2).octets) [1]).port = _ :=
    StreamLink.receive_of_body (r := ⟨0, [1]⟩) (by decide) hread (by decide) (by decide) rfl
  have hexchange : (StreamLink.link timedPort).exchange ⟨echoAddress, UInt16.ofNat 1⟩ [2]
      (echoLine (echoRequest 1).octets [0, 0, 0, 1]) = _ :=
    (StreamLink.exchange_of_send hsend).trans
      (congrArg (fun x => (x.1, StreamLink.mk x.2 {})) hreceive)
  exact congrArg Prod.fst
    (Device.call_of_response (r := ⟨0, [1]⟩) (by decide) (by decide) hexchange)

theorem calls_echo :
    (callEach (Device.call (StreamLink.link timedPort)) [(echoAddress, [1]), (echoAddress, [2])]
        (echoLine [] [0, 0, 0, 0, 0, 0, 0, 0, 1])).1 =
      [.error (.link (.timeout .responseHeader defaultTimeout)), .ok [1]] := by
  simp only [callEach, call_echo_unheard, call_echo_late]

end UartLink

/-- Whatever the schedule and the calls before it, a call that is answered is answered by the
first of the responses which the device, left to itself, still sends once the link has been reset
or purged for the call. All of them were produced for the calls before, and only where there are
none is the answer that to the request of the call. -/
theorem answered_by_first_to_come (hs : 1 ≤ size) (d : Dispatcher ω) (config : DeviceConfig)
    (w : ω) (schedule : List Nat) (host : LinkConfig) (calls : List (Address × Bytes))
    (address : Address) (payload : Bytes) :
    (∃ late,
      (UsbLink.leftover
          (UsbLink.called size d config w schedule host calls)).state.toHost.toList =
        UsbLink.wire size (late.map Response.octets) ∧
      (∀ r ∈ late, Produced d calls r) ∧
      AnsweredInTurn host.limits.response d ⟨address, payload⟩ late
        (UsbLink.leftover (UsbLink.called size d config w schedule host calls)).world
        (Device.call (PacketLink.link UsbLink.timedPipe) address payload
          (UsbLink.called size d config w schedule host calls)).1) ∧
    ∃ late,
      (UartLink.leftover
          (UartLink.called d config w schedule host calls)).state.sink.chunks =
        late.map Response.octets ∧
      (∀ r ∈ late, Produced d calls r) ∧
      AnsweredInTurn host.limits.response d ⟨address, payload⟩ late
        (UartLink.leftover (UartLink.called d config w schedule host calls)).world
        (Device.call (StreamLink.link UartLink.timedPort) address payload
          (UartLink.called d config w schedule host calls)).1 :=
  ⟨UsbLink.call_in_turn hs (UsbLink.called_between hs w schedule host calls) address payload,
    UartLink.call_in_turn (UartLink.called_between w schedule host calls) address payload⟩

/-- The second call is answered by what the echo device produced for the first. -/
theorem answered_by_first_to_come_echo :
    (∃ r, Produced (.ofRegistry echoRegistry) [(echoAddress, [1])] r ∧
      (callEach (Device.call (PacketLink.link UsbLink.timedPipe))
          [(echoAddress, [1]), (echoAddress, [2])]
          (UsbLink.echoLink [] 0 false [0, 0, 0, 0, 1])).1 =
        [.error (.link (.timeout .response defaultTimeout)), Device.answer minimumPayload r]) ∧
    ∃ r, Produced (.ofRegistry echoRegistry) [(echoAddress, [1])] r ∧
      (callEach (Device.call (StreamLink.link UartLink.timedPort))
          [(echoAddress, [1]), (echoAddress, [2])]
          (UartLink.echoLine [] [0, 0, 0, 0, 0, 0, 0, 0, 1])).1 =
        [.error (.link (.timeout .responseHeader defaultTimeout)),
          Device.answer minimumPayload r] := by
  have own : ∀ count, Device.answer minimumPayload
      ((Dispatcher.ofRegistry echoRegistry).dispatch (echoRequest 2) count).1 = .ok [2] :=
    fun _ => rfl
  constructor
  · obtain ⟨late, _, produced, inTurn⟩ := (@answered_by_first_to_come Nat 64 (by decide)
      (.ofRegistry echoRegistry) { limits := ⟨4, 4⟩ } 0 [0, 0, 0, 0, 1] {} [(echoAddress, [1])]
      echoAddress [2]).1
    have second := (List.cons.inj (List.cons.inj UsbLink.calls_echo).2).1
    have answer := second.symm.trans (inTurn (.inl ⟨[1], second⟩))
    cases late with
    | nil => exact absurd (answer.trans (own _)) (by simp)
    | cons r rest =>
      refine ⟨r, produced r List.mem_cons_self, ?_⟩
      rw [UsbLink.calls_echo, answer]
      rfl
  · obtain ⟨late, _, produced, inTurn⟩ := (@answered_by_first_to_come Nat 64 (by decide)
      (.ofRegistry echoRegistry) { limits := ⟨4, 4⟩ } 0 [0, 0, 0, 0, 0, 0, 0, 0, 1] {}
      [(echoAddress, [1])] echoAddress [2]).2
    have second := (List.cons.inj (List.cons.inj UartLink.calls_echo).2).1
    have answer := second.symm.trans (inTurn (.inl ⟨[1], second⟩))
    cases late with
    | nil => exact absurd (answer.trans (own _)) (by simp)
    | cons r rest =>
      refine ⟨r, produced r List.mem_cons_self, ?_⟩
      rw [UartLink.calls_echo, answer]
      rfl

/-- An answer to the second call would be two, whatever the echo device has counted. -/
theorem late_response_taken :
    (callEach (Device.call (PacketLink.link UsbLink.timedPipe))
        [(echoAddress, [1]), (echoAddress, [2])] (UsbLink.echoLink [] 0 false [0, 0, 0, 0, 1])).1 =
      [.error (.link (.timeout .response defaultTimeout)), .ok [1]] ∧
    (callEach (Device.call (StreamLink.link UartLink.timedPort))
        [(echoAddress, [1]), (echoAddress, [2])]
        (UartLink.echoLine [] [0, 0, 0, 0, 0, 0, 0, 0, 1])).1 =
      [.error (.link (.timeout .responseHeader defaultTimeout)), .ok [1]] ∧
    ∀ count, Device.answer minimumPayload
      ((Dispatcher.ofRegistry echoRegistry).dispatch (echoRequest 2) count).1 = .ok [2] :=
  ⟨UsbLink.calls_echo, UartLink.calls_echo, fun _ => rfl⟩

end PeripheralBridge
