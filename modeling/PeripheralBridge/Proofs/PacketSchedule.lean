import PeripheralBridge.Proofs.Schedule

/-!
# Schedules on a packet link

What a device is still to send over a packet link is known from what is queued on it: the
responses under way, and those due to the requests that wait. Turns keep it as it is, a
message adds to its end, a read takes from its front, and a reset leaves what is due to
the requests that wait.
-/

namespace PeripheralBridge

namespace UsbLink

variable {ω : Type}

def wire (size : Nat) (messages : List Bytes) : List Bytes :=
  messages.flatMap (messagePackets size)

/-- The packets for the device are those of whole requests and the `tail` of one that has not
ended, the packets for the host those of responses behind some `junk`; `late` are the responses
still to come, and `final` is the world after the last of them. -/
inductive Queued (size : Nat) (d : Dispatcher ω) (config : DeviceConfig)
    (calls : List (Address × Bytes)) (tail junk : List Bytes) (late : List Response) (final : ω) :
    UsbLink → ω → Prop where
  | intro {toHost : Queue Bytes} {resets : Nat} {arriving : List Response}
      {waiting : List Request} {w : ω}
      (sent : toHost.toList = junk ++ wire size (arriving.map Response.octets))
      (coming : Coming d config.limits false calls arriving waiting late final w) :
      Queued size d config calls tail junk late final
        { packetSize := size, toDevice := wire size (waiting.map Request.octets) ++ tail,
          toHost, resets } w

variable {size : Nat} {d : Dispatcher ω} {config : DeviceConfig} {host : LinkConfig}
  {calls : List (Address × Bytes)} {tail junk : List Bytes} {late : List Response}
  {final w w' : ω} {l l' : UsbLink}

/-- A request that is not too large is dispatched, and what goes out of its response is under way
when the turn is over. -/
theorem turn_outgoing {rest : List Bytes} {q : Request} (hs : 0 < l.packetSize)
    (listening : l.hostOpen = true) (declarable : q.payload.length ≤ declarableMax)
    (fits : q.payload.length ≤ config.limits.request)
    (waiting : l.toDevice = messagePackets l.packetSize q.octets ++ rest) :
    ∃ sent out, (interface config).turn d l w =
        some (.answered q (d.dispatch q w).1 sent, { l with toDevice := rest, toHost := out },
          (d.dispatch q w).2) ∧
      (Turn.answered q (d.dispatch q w).1 sent).GoesOn ∧
      out.toList = l.toHost.toList ++ wire l.packetSize
        (((d.dispatch q w).1.outgoing config.limits.response).map Response.octets) := by
  by_cases long : config.limits.response < (d.dispatch q w).1.payload.length ∨
      declarableMax < (d.dispatch q w).1.payload.length
  · obtain ⟨e, hsend, recoverable⟩ := send_too_long (l := { l with toDevice := rest }) long
    refine ⟨_, l.toHost, turn_taken hs declarable fits waiting hsend,
      Turn.goesOn_of_recoverable recoverable, ?_⟩
    simp [Response.outgoing, if_pos long, wire]
  · obtain ⟨within, short⟩ := not_or.mp long
    obtain ⟨out, hturn, hout⟩ := turn_answered hs listening declarable fits
      (Nat.le_of_not_lt within) (Nat.le_of_not_lt short) waiting
    refine ⟨_, out, hturn, Turn.goesOn_of_sent, ?_⟩
    rw [hout, Response.outgoing, if_neg long]
    simp [wire]

namespace Queued

theorem packetSize_eq (h : Queued size d config calls tail junk late final l w) :
    l.packetSize = size := by
  cases h
  rfl

theorem up (h : Queued size d config calls tail junk late final l w) : l.deviceOpen = true := by
  cases h
  rfl

theorem write (h : Queued size d config calls tail junk late final l w) {message : Bytes}
    (hm : message ≠ []) :
    hostWrite message l = (.ok message.length,
      { l with toDevice := l.toDevice ++ packets size message }) := by
  cases h
  exact hostWrite_message rfl hm

/-- Whatever is still to come was produced for one of the calls. -/
theorem produced_late (h : Queued size d config calls tail junk late final l w) :
    ∀ r ∈ late, Produced d calls r := by
  cases h with
  | intro _ coming => exact coming.produced_late

/-- More calls make no difference to what is queued. -/
theorem append (h : Queued size d config calls tail junk late final l w)
    (more : List (Address × Bytes)) :
    Queued size d config (calls ++ more) tail junk late final l w := by
  cases h with
  | intro sent coming => exact .intro sent (coming.append more)

/-- With nothing left to take, the line holds what was still to come. -/
theorem idle (hs : 0 < size) (h : Queued size d config calls [] [] late final l w)
    (hturn : (interface config).turn d l w = none) :
    l.toHost.toList = wire size (late.map Response.octets) ∧ w = final := by
  cases h with
  | @intro toHost resets arriving waiting w sent coming =>
    cases waiting with
    | nil =>
      obtain ⟨rfl, hfinal⟩ := coming.drained
      exact ⟨sent, hfinal⟩
    | cons q rest =>
      have hq := coming.sendable q List.mem_cons_self
      have waiting : wire size ((q :: rest).map Request.octets) ++ [] =
          messagePackets size q.octets ++ (wire size (rest.map Request.octets) ++ []) := by
        simp [wire]
      have hreceive := (Interface.receive_eq_none hturn).symm.trans
        (receive_request config hs hq.2 waiting)
      cases hreceive

/-- A turn moves a response to the line at most. -/
theorem turn (hs : 0 < size) {t : Turn} (full : ∀ p ∈ tail, p.length = size)
    (h : Queued size d config calls tail junk late final l w)
    (hturn : (interface config).turn d l w = some (t, l', w')) :
    t.GoesOn ∧ Queued size d config calls tail junk late final l' w' := by
  cases h with
  | @intro toHost resets arriving waiting w sent coming =>
    cases waiting with
    | nil => cases hturn.symm.trans (turn_none config d w rfl full)
    | cons q rest =>
      have hq := coming.sendable q List.mem_cons_self
      have waiting : wire size ((q :: rest).map Request.octets) ++ tail =
          messagePackets size q.octets ++ (wire size (rest.map Request.octets) ++ tail) := by
        simp [wire]
      by_cases exceeds : config.limits.request < q.payload.length
      · cases hturn.symm.trans (turn_refused hs hq.2 exceeds waiting)
        exact ⟨fun broken => ⟨broken, rfl⟩, .intro sent (coming.refused exceeds)⟩
      · have fits := Nat.le_of_not_lt exceeds
        obtain ⟨answer, out, hanswered, goesOn, hout⟩ := turn_outgoing (d := d) (w := w)
          (l := { packetSize := size, toHost, resets,
                  toDevice := wire size ((q :: rest).map Request.octets) ++ tail })
          hs rfl hq.2 fits waiting
        cases hturn.symm.trans hanswered
        have onLine : out.toList = junk ++ wire size
            ((arriving ++ (d.dispatch q w).1.outgoing config.limits.response).map
              Response.octets) := by
          rw [hout, sent]
          simp [wire]
        exact ⟨goesOn, .intro onLine (coming.answered fits)⟩

/-- A message has begun, and its end is not on the link yet. -/
theorem begun (h : Queued size d config calls [] junk late final l w) (more : List Bytes) :
    Queued size d config calls more junk late final
      { l with toDevice := l.toDevice ++ more } w := by
  cases h with
  | intro sent coming =>
    simp only [List.append_nil]
    exact .intro sent coming

/-- A request that has come to its end adds its own response at most to what is still to
come. -/
theorem ended {q : Request} {more : List Bytes}
    (h : Queued size d config calls tail junk late final l w)
    (sendable : Sendable calls q) (whole : tail ++ more = messagePackets size q.octets) :
    ∃ late' final', late' <+: late ++ [(d.dispatch q final).1] ∧
      Queued size d config calls [] junk late' final'
        { l with toDevice := l.toDevice ++ more } w := by
  cases h with
  | @intro toHost resets arriving waiting w sent coming =>
    obtain ⟨late', final', hle, next⟩ := coming.queued sendable
    have onLink : wire size (waiting.map Request.octets) ++ tail ++ more =
        wire size ((waiting ++ [q]).map Request.octets) ++ [] := by
      rw [List.append_assoc, whole]
      simp [wire]
    refine ⟨late', final', hle, ?_⟩
    simp only [onLink]
    exact .intro sent next

/-- A reset discards what is under way, and leaves what is due to the requests that wait. -/
theorem reset (h : Queued size d config calls tail junk late final l w) :
    ∃ late', Queued size d config calls tail [] late' final (hostReset l).2 w := by
  cases h with
  | intro sent coming =>
    obtain ⟨late', left⟩ := coming.discarded
    have cleared : ({} : Queue Bytes).toList =
        [] ++ wire size (([] : List Response).map Response.octets) := rfl
    exact ⟨late', .intro cleared left⟩

/-- A host that reads a clear line is told that nothing has come in time, or takes the first of
the responses still to come. -/
theorem read (hs : 0 < size) (h : Queued size d config calls tail [] late final l w)
    (limit : Nat) :
    ∃ answer junk late' l', hostRead (receiveCapacity limit size) l = (answer, l') ∧
      Queued size d config calls tail junk late' final l' w ∧
      (answer = .error .timedOut ∧ junk = [] ∨
        ∃ r received, late = r :: late' ∧ answer = .ok received ∧
          Response.decode received limit = r.within limit ∧
          (r.payload.length ≤ limit → junk = [])) := by
  cases h with
  | @intro toHost resets arriving waiting w sent coming =>
    cases arriving with
    | nil =>
      have hread := hostRead_nothing
        (l := { packetSize := size, toDevice := wire size (waiting.map Request.octets) ++ tail,
                toHost, resets }) rfl sent (receiveCapacity limit size)
      have drained : (Queue.ofList ([] : List Bytes)).toList =
          [] ++ wire size (([] : List Response).map Response.octets) := rfl
      exact ⟨_, [], late, _, hread, .intro drained coming, .inl ⟨rfl, rfl⟩⟩
    | cons r rest =>
      obtain ⟨received, junk, hread, hdecode, hjunk⟩ := hostRead_response
        (l := { packetSize := size, toDevice := wire size (waiting.map Request.octets) ++ tail,
                toHost, resets }) hs limit (coming.short r List.mem_cons_self) sent
      obtain ⟨late', hlate, left⟩ := coming.taken
      have onLine : (Queue.ofList (junk ++ wire size (rest.map Response.octets))).toList =
          junk ++ wire size (rest.map Response.octets) := rfl
      exact ⟨_, junk, late', _, hread, .intro onLine left,
        .inr ⟨r, received, hlate, rfl, hdecode, hjunk⟩⟩

end Queued

section Timed

variable (hs : 0 < size) {q : Request} {b : Timed UsbLink ω}

include hs

theorem wait_serves (full : ∀ p ∈ tail, p.length = size)
    (h : b.Serves d config (Queued size d config calls tail junk late final)) :
    (Timed.wait timedTurn b).Serves d config (Queued size d config calls tail junk late final) := by
  refine h.wait fun b h => ?_
  rw [timedTurn, h.config]
  exact h.turn fun l w t s w' queued hturn => queued.turn hs full hturn

/-- A message goes out, with turns before it and before its end. -/
theorem send_serves (h : b.Serves d config (Queued size d config calls [] [] late final))
    (sendable : Sendable calls q) (timeout : Duration) :
    ∃ b' late' final', PacketLink.send timedPipe timeout q.octets b = (.ok (), b') ∧
      late' <+: late ++ [(d.dispatch q final).1] ∧
      b'.Serves d config (Queued size d config calls [] [] late' final') := by
  have waited := wait_serves hs (by simp) h
  have hmessage := waited.holds.write q.octets_ne_nil
  by_cases full : q.octets.length % size = 0
  · obtain ⟨b₁, hwrite, begun⟩ :=
      waited.step hmessage (waited.holds.begun (packets size q.octets))
    have again := wait_serves hs (length_of_mem_packets hs full) begun
    have whole : packets size q.octets ++ [[]] = messagePackets size q.octets := by
      rw [messagePackets, if_pos full]
    obtain ⟨late', final', hle, ended⟩ := again.holds.ended sendable whole
    obtain ⟨b₂, hempty, sent⟩ := again.step (hostWrite_empty again.holds.up) ended
    have hsize : timedPipe.packetSize b₁ = size := begun.holds.packetSize_eq
    have hsend := PacketLink.send_ended hwrite (hsize.symm ▸ hs) (hsize.symm ▸ full) hempty timeout
    exact ⟨b₂, late', final', hsend, hle, sent⟩
  · have whole : [] ++ packets size q.octets = messagePackets size q.octets := by
      rw [messagePackets, if_neg full, List.append_nil, List.nil_append]
    obtain ⟨late', final', hle, ended⟩ := waited.holds.ended sendable whole
    obtain ⟨b₁, hwrite, sent⟩ := waited.step hmessage ended
    have hsize : timedPipe.packetSize b₁ = size := sent.holds.packetSize_eq
    have hsend := PacketLink.send_alone hwrite (hsize.symm ▸ full) timeout
    exact ⟨b₁, late', final', hsend, hle, sent⟩

/-- A transfer that succeeds has taken the first response still to come, which is its own where
there was none. -/
theorem transfer_serves (h : b.Serves d config (Queued size d config calls [] [] late final))
    (sendable : Sendable calls q) (host : LinkConfig) :
    ∃ r b' junk late' final',
      PacketLink.transfer timedPipe host (receiveCapacity host.limits.response size)
        ⟨q.toAddress, UInt16.ofNat q.payload.length⟩ q.payload b = (r, b') ∧
      b'.Serves d config (Queued size d config calls [] junk late' final') ∧
      (r.isOk = true → junk = []) ∧
      ∀ response, r = .ok response →
        (late ++ [(d.dispatch q final).1]).head? = some response := by
  obtain ⟨b₁, sentLate, final', hsend, hle, sent⟩ := send_serves hs h sendable host.timeout
  have waited := wait_serves hs (by simp) sent
  obtain ⟨answer, junk, late', l', hread, taken, outcome⟩ :=
    waited.holds.read hs host.limits.response
  obtain ⟨b₂, hstep, left⟩ := waited.step hread taken
  have htransfer : PacketLink.transfer timedPipe host (receiveCapacity host.limits.response size)
      ⟨q.toAddress, UInt16.ofNat q.payload.length⟩ q.payload b =
        PacketLink.receive timedPipe host (receiveCapacity host.limits.response size) b₁ :=
    Attempt.bind_of_ok hsend _
  rcases outcome with ⟨rfl, hjunk⟩ | ⟨response, received, hlate, rfl, hdecode, hjunk⟩
  · refine ⟨_, b₂, junk, late', final', htransfer.trans (PacketLink.receive_of_error hstep), left,
      fun _ => hjunk, ?_⟩
    intro response h
    cases h
  · refine ⟨_, b₂, junk, late', final', htransfer.trans (PacketLink.receive_of_ok hstep), left, ?_⟩
    rw [hdecode]
    cases hwithin : response.within host.limits.response with
    | error e =>
      refine ⟨?_, ?_⟩
      · intro h
        cases h
      · intro r h
        cases h
    | ok r =>
      obtain ⟨rfl, fits⟩ := Response.of_within hwithin
      refine ⟨fun _ => hjunk fits, ?_⟩
      intro r' h
      cases h
      exact head_of_prefix hle hlate

/-- A link between two calls, which has leftovers on the line only when it is stale. -/
structure Between (size : Nat) (d : Dispatcher ω) (config : DeviceConfig) (host : LinkConfig)
    (calls : List (Address × Bytes)) (x : PacketLink (Timed UsbLink ω)) : Prop where
  config_eq : x.config = host
  buffer_eq : x.buffer = receiveCapacity host.limits.response size
  queued : ∃ junk late final, (x.stale = false → junk = []) ∧
    x.pipe.Serves d config (Queued size d config calls [] junk late final)

omit hs in
theorem between_start (size : Nat) (d : Dispatcher ω) (config : DeviceConfig) (host : LinkConfig)
    (calls : List (Address × Bytes)) (w : ω) (schedule : List Nat) :
    Between size d config host calls
      (.onPipe timedPipe ⟨{ packetSize := size }, d, config, w, .serving 0, schedule⟩ host) := by
  have queued : Queued size d config calls [] [] [] w { packetSize := size } w := by
    have hidle : ({} : Queue Bytes).toList =
        [] ++ wire size (([] : List Response).map Response.octets) := rfl
    exact .intro hidle (.start w)
  exact ⟨rfl, rfl, [], [], w, fun _ => rfl, rfl, rfl, ⟨0, rfl⟩, queued⟩

theorem recover_between {x : PacketLink (Timed UsbLink ω)}
    (between : Between size d config host calls x) :
    ∃ b late final, PacketLink.recover timedPipe x =
        (.ok (), ⟨b, host, receiveCapacity host.limits.response size, false⟩) ∧
      b.Serves d config (Queued size d config calls [] [] late final) := by
  obtain ⟨hconfig, hbuffer, junk, late, final, fresh, h⟩ := between
  obtain ⟨b, link, buffer, stale⟩ := x
  obtain rfl : link = host := hconfig
  obtain rfl : buffer = _ := hbuffer
  cases stale with
  | false =>
    have hjunk := fresh rfl
    subst hjunk
    exact ⟨b, late, final, rfl, h⟩
  | true =>
    have waited := wait_serves hs (by simp) h
    obtain ⟨late', cleared⟩ := waited.holds.reset
    obtain ⟨b', hreset, next⟩ := waited.step (x := hostReset) rfl cleared
    refine ⟨b', late', final, ?_, next⟩
    have hpipe : timedPipe.reset b = (.ok (), b') := hreset
    simp [PacketLink.recover, PacketLink.reset, hpipe]

/-- An exchange that succeeds has taken the first response still to come after its recovery. -/
theorem exchange_recovered {x : PacketLink (Timed UsbLink ω)}
    (hrecover : PacketLink.recover timedPipe x =
      (.ok (), ⟨b, host, receiveCapacity host.limits.response size, false⟩))
    (h : b.Serves d config (Queued size d config calls [] [] late final))
    (sendable : Sendable calls q) :
    ∃ r x', PacketLink.exchange timedPipe ⟨q.toAddress, UInt16.ofNat q.payload.length⟩
        q.payload x = (r, x') ∧
      Between size d config host calls x' ∧
      ∀ response, r = .ok response →
        (late ++ [(d.dispatch q final).1]).head? = some response := by
  obtain ⟨r, b', junk, late', final', htransfer, carried, hjunk, hresponse⟩ :=
    transfer_serves hs h sendable host
  refine ⟨r, _, PacketLink.exchange_of_recover hrecover htransfer,
    ⟨rfl, rfl, junk, late', final', ?_, carried⟩, hresponse⟩
  intro fresh
  exact hjunk (by simpa using fresh)

/-- A call leaves a link as calls leave it. -/
theorem call_between {x : PacketLink (Timed UsbLink ω)} {c : Address × Bytes} (hc : c ∈ calls)
    (between : Between size d config host calls x) :
    Between size d config host calls
      (Device.call (PacketLink.link timedPipe) c.1 c.2 x).2 := by
  rcases Device.call_state (PacketLink.link timedPipe) c.1 c.2 x with hcall | ⟨declarable, hcall⟩
  · rw [hcall]
    exact between
  · obtain ⟨b, late, final, hrecover, h⟩ := recover_between hs between
    obtain ⟨r, x', hexchange, next, _⟩ :=
      exchange_recovered (q := ⟨c.1, c.2⟩) hs hrecover h ⟨hc, declarable⟩
    have hlink : (PacketLink.link timedPipe).exchange ⟨c.1, UInt16.ofNat c.2.length⟩ c.2 x =
        (r, x') := hexchange
    rw [hcall, hlink]
    exact next

/-- Left to itself, a device sends what is still to come. -/
theorem run_queued (h : b.Serves d config (Queued size d config calls [] [] late final)) :
    ((interface config).run d 0 b.link b.world).state.toHost.toList =
        wire size (late.map Response.octets) ∧
      ((interface config).run d 0 b.link b.world).world = final := by
  obtain ⟨queued, hturn⟩ := Interface.run_keeps
    (fun s w t s' w' queued hturn => queued.turn hs (by simp) hturn) 0 h.holds
  exact queued.idle hs hturn

end Timed

end UsbLink

end PeripheralBridge
