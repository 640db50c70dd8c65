import PeripheralBridge.Proofs.Schedule

/-!
# Schedules on a byte stream

What a device is still to send over a byte stream is known from what is queued on it, as
on a packet link. A purge before each request discards what is under way and leaves what
is due to the requests that wait. A request that finds the receive queue full is lost with
all that wait in it.
-/

namespace PeripheralBridge

namespace UartLink

variable {ω : Type}

/-- Whole requests wait in the receive queue of the device, and whole responses are under way
behind what the host has not read of a chunk; `late` are the responses still to come, and
`final` is the world after the last of them. -/
inductive Queued (capacity : Nat) (d : Dispatcher ω) (config : DeviceConfig)
    (calls : List (Address × Bytes)) (pending : Bytes) (late : List Response) (final : ω) :
    UartLink → ω → Prop where
  | intro {received : Bytes} {chunks : List Bytes} {arriving : List Response}
      {waiting : List Request} {w : ω}
      (queued : received = waiting.flatMap Request.octets)
      (sent : chunks = arriving.map Response.octets)
      (coming : Coming d config.limits true calls arriving waiting late final w) :
      Queued capacity d config calls pending late final (line capacity received chunks pending) w

variable {capacity : Nat} {d : Dispatcher ω} {config : DeviceConfig}
  {calls : List (Address × Bytes)} {pending : Bytes} {late : List Response}
  {final w w' : ω} {l : UartLink} {q : Request} {host : LinkConfig}

/-- A request that is not too large is dispatched, and what goes out of its response is under way
when the turn is over. -/
theorem turn_outgoing {e : StreamEnd ReturnLine} {rest : Bytes} (listening : e.sink.hostOpen = true)
    (declarable : q.payload.length ≤ declarableMax)
    (fits : q.payload.length ≤ config.limits.request)
    (waiting : e.queue.bytes = q.octets ++ rest) :
    ∃ sent, (interface config).turn d e w =
        some (.answered q (d.dispatch q w).1 sent,
          { queue := { e.queue with bytes := rest }
            sink := { e.sink with
              chunks := e.sink.chunks ++
                ((d.dispatch q w).1.outgoing config.limits.response).map Response.octets } },
          (d.dispatch q w).2) ∧
      (Turn.answered q (d.dispatch q w).1 sent).GoesOn := by
  by_cases long : config.limits.response < (d.dispatch q w).1.payload.length ∨
      declarableMax < (d.dispatch q w).1.payload.length
  · obtain ⟨error, hsend, recoverable⟩ := send_too_long long
    refine ⟨.error error, ?_, Turn.goesOn_of_recoverable recoverable⟩
    rw [turn_taken declarable fits waiting hsend, Response.outgoing, if_pos long, List.map_nil,
      List.append_nil]
  · obtain ⟨within, short⟩ := not_or.mp long
    refine ⟨.ok (), ?_, Turn.goesOn_of_sent⟩
    rw [turn_answered listening declarable fits (Nat.le_of_not_lt within)
      (Nat.le_of_not_lt short) waiting, Response.outgoing, if_neg long]
    rfl

namespace Queued

/-- Whatever is still to come was produced for one of the calls. -/
theorem produced_late (h : Queued capacity d config calls pending late final l w) :
    ∀ r ∈ late, Produced d calls r := by
  cases h with
  | intro _ _ coming => exact coming.produced_late

/-- More calls make no difference to what is queued. -/
theorem append (h : Queued capacity d config calls pending late final l w)
    (more : List (Address × Bytes)) :
    Queued capacity d config (calls ++ more) pending late final l w := by
  cases h with
  | intro queued sent coming => exact .intro queued sent (coming.append more)

/-- With nothing left to take, the line holds what was still to come. -/
theorem idle (h : Queued capacity d config calls [] late final l w)
    (hturn : (interface config).turn d l.device w = none) :
    l.device.sink.chunks = late.map Response.octets ∧ w = final := by
  cases h with
  | @intro received chunks arriving waiting w queued sent coming =>
    cases waiting with
    | nil =>
      obtain ⟨rfl, hfinal⟩ := coming.drained
      exact ⟨sent, hfinal⟩
    | cons q rest =>
      have hq := coming.sendable q List.mem_cons_self
      have waits : ({ capacity, bytes := received } : RxQueue).bytes =
          q.octets ++ rest.flatMap Request.octets := queued
      have htake := StreamInterface.takeRequest_octets config.limits.request config.byteTimeout
        hq.2 waits
      have hreceive := Interface.receive_eq_none hturn
      simp only [interface, StreamInterface.interface, StreamInterface.receive, line,
        htake] at hreceive
      cases hreceive

/-- A turn moves a response to the line at most. -/
theorem turn {t : Turn} {e : StreamEnd ReturnLine}
    (h : Queued capacity d config calls pending late final l w)
    (hturn : (interface config).turn d l.device w = some (t, e, w')) :
    t.GoesOn ∧ Queued capacity d config calls pending late final { l with device := e } w' := by
  cases h with
  | @intro received chunks arriving waiting w queued sent coming =>
    cases waiting with
    | nil => cases hturn.symm.trans (turn_none config d w rfl queued)
    | cons q rest =>
      have hq := coming.sendable q List.mem_cons_self
      rw [List.flatMap_cons] at queued
      by_cases exceeds : config.limits.request < q.payload.length
      · cases hturn.symm.trans (turn_refused hq.2 exceeds queued)
        have forgotten : ([] : Bytes) = ([] : List Request).flatMap Request.octets := rfl
        exact ⟨fun broken => ⟨broken, rfl⟩,
          .intro forgotten sent (coming.refused exceeds)⟩
      · have fits := Nat.le_of_not_lt exceeds
        obtain ⟨answer, hanswered, goesOn⟩ := turn_outgoing
          (e := (line capacity received chunks pending).device) (d := d) (w := w) rfl hq.2
          fits queued
        cases hturn.symm.trans hanswered
        have onLine : chunks ++
            ((d.dispatch q w).1.outgoing config.limits.response).map Response.octets =
              (arriving ++ (d.dispatch q w).1.outgoing config.limits.response).map
                Response.octets := by
          rw [List.map_append, ← sent]
        exact ⟨goesOn, .intro rfl onLine (coming.answered fits)⟩

/-- A purge discards what is under way, and leaves what is due to the requests that wait. -/
theorem purge (h : Queued capacity d config calls pending late final l w) :
    ∃ late', Queued capacity d config calls [] late' final (hostPurge l).2 w := by
  cases h with
  | intro queued sent coming =>
    obtain ⟨late', left⟩ := coming.discarded
    have cleared : ([] : List Bytes) = ([] : List Response).map Response.octets := rfl
    exact ⟨late', .intro queued cleared left⟩

/-- A request adds its own response at most to what is still to come. One that finds the receive
queue full is lost, and what waits in the queue with it. -/
theorem write (h : Queued capacity d config calls pending late final l w)
    (sendable : Sendable calls q) :
    ∃ late' final', late' <+: late ++ [(d.dispatch q final).1] ∧
      Queued capacity d config calls pending late' final' (hostWrite q.octets l).2 w := by
  cases h with
  | @intro received chunks arriving waiting w queued sent coming =>
    by_cases fits : q.octets.length ≤ capacity - received.length
    · have hwrite : (hostWrite q.octets (line capacity received chunks pending)).2 =
          line capacity (received ++ q.octets) chunks pending := by
        simp [hostWrite, RxQueue.push, RxQueue.free, line, fits]
      obtain ⟨late', final', hle, next⟩ := coming.queued sendable
      rw [hwrite]
      refine ⟨late', final', hle, .intro ?_ sent next⟩
      simp [queued]
    · have hwrite : (hostWrite q.octets (line capacity received chunks pending)).2 =
          line capacity [] chunks pending := by
        simp [hostWrite, RxQueue.push, RxQueue.free, line, fits]
      obtain ⟨late', hle, next⟩ := coming.forgotten (d.dispatch q final).1
      have forgotten : ([] : Bytes) = ([] : List Request).flatMap Request.octets := rfl
      rw [hwrite]
      exact ⟨late', w, hle, .intro forgotten sent next⟩

/-- A host that reads a header is told that nothing has come in time, or takes the header of the
first response still to come. -/
theorem head (h : Queued capacity d config calls [] late final l w) :
    hostRead responseHeaderSize l = (.error .timedOut, l) ∨
      ∃ r rest l', late = r :: rest ∧ r.payload.length ≤ declarableMax ∧
        hostRead responseHeaderSize l =
          (.ok (ResponseHeader.bytes ⟨r.code, UInt16.ofNat r.payload.length⟩), l') ∧
        Queued capacity d config calls r.payload rest final l' w := by
  cases h with
  | @intro received chunks arriving waiting w queued sent coming =>
    cases arriving with
    | nil => exact .inl (hostRead_nothing rfl rfl sent _)
    | cons r rest =>
      obtain ⟨late', hlate, left⟩ := coming.taken
      exact .inr ⟨r, late', _, hlate, coming.short r List.mem_cons_self, hostRead_head rfl sent,
        .intro queued rfl left⟩

/-- A host that has read the header of a response takes its payload. -/
theorem body {r : Response} (nonempty : r.payload ≠ [])
    (h : Queued capacity d config calls r.payload late final l w) :
    ∃ l', hostRead r.payload.length l = (.ok r.payload, l') ∧
      Queued capacity d config calls [] late final l' w := by
  cases h with
  | intro queued sent coming => exact ⟨_, hostRead_body rfl nonempty, .intro queued sent coming⟩

end Queued

section Timed

variable {b : Timed UartLink ω}

theorem purge_serves
    (waited : (Timed.wait timedTurn b).Serves d config
      (Queued capacity d config calls pending late final)) :
    ∃ late', (timedPort.purge b).2.Serves d config
      (Queued capacity d config calls [] late' final) := by
  obtain ⟨late', cleared⟩ := waited.holds.purge
  obtain ⟨b', hpurge, next⟩ := waited.step (x := hostPurge) rfl cleared
  have hport : timedPort.purge b = (.ok (), b') := hpurge
  exact ⟨late', by rw [hport]; exact next⟩

theorem wait_serves (h : b.Serves d config (Queued capacity d config calls pending late final)) :
    (Timed.wait timedTurn b).Serves d config
      (Queued capacity d config calls pending late final) := by
  refine h.wait fun b h => ?_
  rw [timedTurn, h.config]
  exact h.turn fun l w t e w' queued hturn => queued.turn hturn

/-- A message goes out, with turns before it and before the flush. -/
theorem send_serves (h : b.Serves d config (Queued capacity d config calls [] late final))
    (sendable : Sendable calls q) (timeout : Duration) :
    ∃ b' late' final', StreamLink.send timedPort timeout q.octets b = (.ok (), b') ∧
      late' <+: late ++ [(d.dispatch q final).1] ∧
      b'.Serves d config (Queued capacity d config calls [] late' final') := by
  have waited := wait_serves h
  obtain ⟨late', final', hle, written⟩ := waited.holds.write sendable
  obtain ⟨b₁, hwrite, queued⟩ := waited.step (x := hostWrite q.octets) rfl written
  have again := wait_serves queued
  obtain ⟨b₂, hflush, sent⟩ := again.step
    (x := (pure () : Attempt UartLink IoFailure Unit)) rfl again.holds
  exact ⟨b₂, late', final', StreamLink.send_of_whole q.octets_ne_nil hwrite hflush timeout,
    hle, sent⟩

/-- What is taken for a response is the first of those still to come. -/
theorem receive_serves (h : b.Serves d config (Queued capacity d config calls [] late final))
    (host : LinkConfig) :
    ∃ r b' late', StreamLink.receive timedPort host b = (r, b') ∧
      b'.Serves d config (Queued capacity d config calls [] late' final) ∧
      ∀ response, r = .ok response → ∃ rest, late = response :: rest := by
  have waited := wait_serves h
  rcases waited.holds.head with silent | ⟨r, rest, l, hlate, declarable, hhead, begun⟩
  · obtain ⟨b₁, hread, quiet⟩ := waited.step silent waited.holds
    obtain ⟨late', purged⟩ := purge_serves (wait_serves quiet)
    refine ⟨_, _, late', StreamLink.receive_of_silence hread, purged, ?_⟩
    intro response h
    cases h
  · obtain ⟨b₁, hread, headed⟩ := waited.step hhead begun
    by_cases exceeds : host.limits.response < r.payload.length
    · obtain ⟨late', purged⟩ := purge_serves (wait_serves headed)
      refine ⟨_, _, late', StreamLink.receive_of_over declarable hread exceeds, purged, ?_⟩
      intro response h
      rw [Response.within, if_pos exceeds] at h
      cases h
    have fits := Nat.le_of_not_lt exceeds
    have first : ∀ response, (r.within host.limits.response).mapError LinkError.malformed =
        .ok response → ∃ rest, late = response :: rest := by
      intro response h
      rw [Response.within, if_neg exceeds] at h
      cases h
      exact ⟨rest, hlate⟩
    by_cases empty : r.payload = []
    · rw [empty] at headed
      exact ⟨_, b₁, rest, StreamLink.receive_of_empty declarable hread fits empty, headed, first⟩
    · have again := wait_serves headed
      obtain ⟨l', hbody, ended⟩ := again.holds.body empty
      obtain ⟨b₂, hread', taken⟩ := again.step hbody ended
      exact ⟨_, b₂, rest, StreamLink.receive_of_body declarable hread fits empty hread', taken,
        first⟩

/-- A line between two calls: no chunk is read in part. -/
structure Between (capacity : Nat) (d : Dispatcher ω) (config : DeviceConfig) (host : LinkConfig)
    (calls : List (Address × Bytes)) (x : StreamLink (Timed UartLink ω)) : Prop where
  config_eq : x.config = host
  queued : ∃ late final,
    x.port.Serves d config (Queued capacity d config calls [] late final)

theorem between_start (capacity : Nat) (d : Dispatcher ω) (config : DeviceConfig)
    (host : LinkConfig) (calls : List (Address × Bytes)) (w : ω) (schedule : List Nat) :
    Between capacity d config host calls
      ⟨⟨.ofCapacity capacity, d, config, w, .serving 0, schedule⟩, host⟩ := by
  have queued : Queued capacity d config calls [] [] w (.ofCapacity capacity) w := by
    have hidle : ([] : Bytes) = ([] : List Request).flatMap Request.octets := rfl
    have hline : ([] : List Bytes) = ([] : List Response).map Response.octets := rfl
    exact .intro hidle hline (.start w)
  exact ⟨rfl, [], w, rfl, rfl, ⟨0, rfl⟩, queued⟩

theorem purge_between {x : StreamLink (Timed UartLink ω)}
    (between : Between capacity d config host calls x) :
    ∃ late final, (timedPort.purge x.port).2.Serves d config
      (Queued capacity d config calls [] late final) := by
  obtain ⟨_, late₀, final, h⟩ := between
  obtain ⟨late, purged⟩ := purge_serves (wait_serves h)
  exact ⟨late, final, purged⟩

/-- An exchange that succeeds has taken the first response still to come after its purge. -/
theorem exchange_purged {x : StreamLink (Timed UartLink ω)} (hconfig : x.config = host)
    (h : (timedPort.purge x.port).2.Serves d config
      (Queued capacity d config calls [] late final))
    (sendable : Sendable calls q) :
    ∃ r x', StreamLink.exchange timedPort ⟨q.toAddress, UInt16.ofNat q.payload.length⟩
        q.payload x = (r, x') ∧
      Between capacity d config host calls x' ∧
      ∀ response, r = .ok response →
        (late ++ [(d.dispatch q final).1]).head? = some response := by
  obtain ⟨b₁, sentLate, final', hsend, hle, sent⟩ :=
    send_serves h sendable x.config.timeout
  obtain ⟨r, b₂, late', hreceive, left, hfirst⟩ := receive_serves sent x.config
  have hexchange : StreamLink.exchange timedPort ⟨q.toAddress, UInt16.ofNat q.payload.length⟩
      q.payload x = _ := StreamLink.exchange_of_send hsend
  rw [hreceive] at hexchange
  refine ⟨r, _, hexchange, ⟨hconfig, late', final', left⟩, ?_⟩
  intro response hr
  obtain ⟨rest, hrest⟩ := hfirst response hr
  exact head_of_prefix hle hrest

/-- A call leaves a line as calls leave it. -/
theorem call_between {x : StreamLink (Timed UartLink ω)} {c : Address × Bytes} (hc : c ∈ calls)
    (between : Between capacity d config host calls x) :
    Between capacity d config host calls
      (Device.call (StreamLink.link timedPort) c.1 c.2 x).2 := by
  rcases Device.call_state (StreamLink.link timedPort) c.1 c.2 x with hcall | ⟨declarable, hcall⟩
  · rw [hcall]
    exact between
  · obtain ⟨late, final, h⟩ := purge_between between
    obtain ⟨r, x', hexchange, next, _⟩ :=
      exchange_purged (q := ⟨c.1, c.2⟩) between.config_eq h ⟨hc, declarable⟩
    have hlink : (StreamLink.link timedPort).exchange ⟨c.1, UInt16.ofNat c.2.length⟩ c.2 x =
        (r, x') := hexchange
    rw [hcall, hlink]
    exact next

/-- Left to itself, a device sends what is still to come. -/
theorem run_queued (h : b.Serves d config (Queued capacity d config calls [] late final)) :
    ((interface config).run d 0 b.link.device b.world).state.sink.chunks =
        late.map Response.octets ∧
      ((interface config).run d 0 b.link.device b.world).world = final := by
  obtain ⟨queued, hturn⟩ := Interface.run_keeps
    (Q := fun e w => Queued capacity d config calls [] late final { b.link with device := e } w)
    (fun e w t e' w' queued hturn => queued.turn hturn) 0 h.holds
  exact queued.idle hturn

end Timed

end UartLink

end PeripheralBridge
