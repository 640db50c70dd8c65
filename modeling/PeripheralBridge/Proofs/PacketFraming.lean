import PeripheralBridge.Proofs.PipeRecord
import PeripheralBridge.Simulated.Usb

/-!
# Messages on a packet link

A message ends with its first packet that is not full, so messages that follow each other
on a link stay apart, whatever their lengths and their contents. An interface takes the
packets of one message at a time, the empty one at its end included, also where the
message is too long to be kept.
-/

namespace PeripheralBridge

variable {size : Nat} {message : Bytes}

theorem messagePackets_of_lt (short : message.length < size) :
    messagePackets size message = [message] := by
  have hs : size ≠ 0 := by omega
  rw [messagePackets, Nat.mod_eq_of_lt short]
  by_cases hm : message = []
  · simp [hm]
  · have hpos : message.length ≠ 0 := fun h => hm (List.length_eq_zero_iff.mp h)
    rw [packets_of_ne_nil hs hm, List.take_of_length_le (by omega),
      List.drop_eq_nil_of_le (by omega), packets_nil, if_neg hpos]
    rfl

theorem messagePackets_of_le (hs : 0 < size) (long : size ≤ message.length) :
    messagePackets size message =
      message.take size :: messagePackets size (message.drop size) := by
  have hm : message ≠ [] := by
    intro h
    rw [h] at long
    exact absurd long (by simp; omega)
  rw [messagePackets, messagePackets, packets_of_ne_nil (by omega) hm, List.length_drop,
    Nat.mod_eq_sub_mod long]
  rfl

/-- Induction on a message packet by packet. -/
theorem message_induction (hs : 0 < size) {P : Bytes → Prop}
    (short : ∀ m : Bytes, m.length < size → P m)
    (long : ∀ m : Bytes, size ≤ m.length → P (m.drop size) → P m) (message : Bytes) :
    P message := by
  induction h : message.length using Nat.strongRecOn generalizing message with
  | ind n ih =>
    by_cases hm : message.length < size
    · exact short message hm
    · exact long message (by omega)
        (ih _ (by rw [List.length_drop]; omega) (message.drop size) rfl)

/-- A message that an empty packet has to end is full packets until then. -/
theorem length_of_mem_packets (hs : 0 < size) (full : message.length % size = 0) :
    ∀ p ∈ packets size message, p.length = size := by
  induction message using message_induction hs with
  | short m hm =>
    rw [Nat.mod_eq_of_lt hm] at full
    rw [List.length_eq_zero_iff.mp full]
    simp
  | long m hm ih =>
    have hne : m ≠ [] := fun h => by
      rw [h] at hm
      exact absurd hs (Nat.not_lt.mpr hm)
    rw [packets_of_ne_nil (Nat.ne_of_gt hs) hne]
    intro p hp
    rcases List.mem_cons.mp hp with rfl | hp
    · exact List.length_take_of_le hm
    · exact ih (by rw [List.length_drop, ← Nat.mod_eq_sub_mod hm, full]) p hp

theorem flatten_messagePackets (hs : 0 < size) (message : Bytes) :
    (messagePackets size message).flatten = message := by
  rw [messagePackets, List.flatten_append, flatten_packets (by omega)]
  split <;> simp

namespace Intake

def addAll (room : Nat) (ps : List Bytes) (i : Intake) : Intake :=
  ps.foldl (fun i p => i.add room p) i

theorem total_addAll (room : Nat) (ps : List Bytes) (i : Intake) :
    (i.addAll room ps).total = i.total + ps.flatten.length := by
  induction ps generalizing i with
  | nil => simp [addAll]
  | cons p rest ih =>
    have h := ih (i.add room p)
    simp only [addAll, List.foldl_cons, add, List.flatten_cons, List.length_append] at h ⊢
    omega

/-- Nothing is dropped from a message that has room as a whole. -/
theorem octets_addAll (room : Nat) (ps : List Bytes) (i : Intake)
    (fits : i.total + ps.flatten.length ≤ room) :
    (i.addAll room ps).octets = i.octets ++ ps.flatten := by
  induction ps generalizing i with
  | nil => simp [addAll]
  | cons p rest ih =>
    simp only [List.flatten_cons, List.length_append] at fits
    have hp : i.total + p.length ≤ room := by omega
    have h := ih (i.add room p) (by simp only [add]; omega)
    have hadd : (i.add room p).octets = i.octets ++ p := by simp [add, octets, hp]
    rw [hadd] at h
    simpa [addAll, List.append_assoc] using h

end Intake

namespace PacketInterface

/-- What an interface makes of a message, given the octets a request payload may have. -/
def verdict (limit : Nat) (message : Bytes) : Except InterfaceError Request :=
  if message.length ≤ requestHeaderSize + limit then
    (Request.decode message limit).mapError .malformed
  else .error (.malformed (.payloadTooLarge (message.length - requestHeaderSize) limit))

theorem accept_messagePackets (hs : 0 < size) (limit : Nat) (message : Bytes) :
    accept limit (Intake.addAll (room limit) (messagePackets size message) {}) =
      verdict limit message := by
  have htotal := Intake.total_addAll (room limit) (messagePackets size message) {}
  rw [flatten_messagePackets hs, Nat.zero_add] at htotal
  by_cases fits : message.length ≤ requestHeaderSize + limit
  · have hoctets := Intake.octets_addAll (room limit) (messagePackets size message) {}
      (by rw [flatten_messagePackets hs, Nat.zero_add]; exact fits)
    have hempty : Intake.octets {} = [] := rfl
    rw [flatten_messagePackets hs, hempty, List.nil_append] at hoctets
    rw [accept, verdict, htotal, hoctets, if_pos fits, if_neg (by rw [room]; omega)]
  · rw [accept, verdict, htotal, if_neg fits, if_pos (by rw [room]; omega)]

/-- A message whose header declares what follows it is refused for its length in the same
way whether or not it was kept. -/
theorem verdict_of_declared {header : RequestHeader} {payload : Bytes}
    (declared : header.payloadLength.toNat = payload.length) (limit : Nat) :
    verdict limit (header.bytes ++ payload) =
      (Request.decode (header.bytes ++ payload) limit).mapError .malformed := by
  have hlen : (header.bytes ++ payload).length = requestHeaderSize + payload.length := by
    rw [List.length_append, RequestHeader.length_bytes]
  by_cases fits : payload.length ≤ limit
  · rw [verdict, if_pos (by rw [hlen]; omega)]
  · have hsize : requestHeaderSize + payload.length - requestHeaderSize = payload.length := by
      omega
    rw [verdict, hlen, if_neg (by omega), hsize, Request.decode, RequestHeader.read_bytes_append]
    simp only [bind, Except.bind, checkPayload, declared, if_pos (Nat.lt_of_not_le fits)]
    rfl

end PacketInterface

namespace PacketPort

variable {σ : Type} {port : PacketPort σ} {room : Nat} {s s' : σ} {p : Bytes}

theorem readMessage_of_none (i : Intake) (hread : port.read size s = none) :
    port.readMessage size room i s = none := by
  rw [readMessage]
  split
  · rfl
  · rename_i h
    exact absurd (hread.symm.trans h) (by simp)
  · rename_i h
    exact absurd (hread.symm.trans h) (by simp)

theorem readMessage_of_error {e : InterfaceError} (i : Intake)
    (hread : port.read size s = some (.error e, s')) :
    port.readMessage size room i s = some (.error e, s') := by
  rw [readMessage]
  split
  · rename_i h
    exact absurd (hread.symm.trans h) (by simp)
  · rename_i h
    have heq := hread.symm.trans h
    simp only [Option.some.injEq, Prod.mk.injEq, Except.error.injEq] at heq
    obtain ⟨rfl, rfl⟩ := heq
    rfl
  · rename_i h
    exact absurd (hread.symm.trans h) (by simp)

/-- A packet that is not full ends a message, and a full one does not. -/
theorem readMessage_of_ok (i : Intake) (hread : port.read size s = some (.ok p, s')) :
    port.readMessage size room i s =
      if p.length < size then some (.ok (i.add room p), s')
      else port.readMessage size room (i.add room p) s' := by
  rw [readMessage]
  split
  · rename_i h
    exact absurd (hread.symm.trans h) (by simp)
  · rename_i h
    exact absurd (hread.symm.trans h) (by simp)
  · rename_i h
    have heq := hread.symm.trans h
    simp only [Option.some.injEq, Prod.mk.injEq, Except.ok.injEq] at heq
    obtain ⟨rfl, rfl⟩ := heq
    rfl

end PacketPort

namespace UsbLink

variable {l : UsbLink} {p : Bytes} {rest : List Bytes} {limit room : Nat}

theorem deviceRead_cons {capacity : Nat} (waiting : l.toDevice = p :: rest)
    (fits : p.length ≤ capacity) :
    deviceRead capacity l = some (.ok p, { l with toDevice := rest }) := by
  rw [deviceRead, waiting]
  simp [Nat.not_lt.mpr fits]

/-- An interface takes the packets of one message and leaves those behind it. -/
theorem readMessage_messagePackets (hs : 0 < size) (room : Nat) (i : Intake)
    (waiting : l.toDevice = messagePackets size message ++ rest) :
    port.readMessage size room i l =
      some (.ok (i.addAll room (messagePackets size message)),
        { l with toDevice := rest }) := by
  induction message using message_induction hs generalizing i l with
  | short m hm =>
    rw [messagePackets_of_lt hm] at waiting ⊢
    rw [PacketPort.readMessage_of_ok i (deviceRead_cons waiting (Nat.le_of_lt hm)), if_pos hm]
    rfl
  | long m hm ih =>
    rw [messagePackets_of_le hs hm] at waiting ⊢
    have full : (m.take size).length = size := List.length_take_of_le hm
    rw [PacketPort.readMessage_of_ok i (deviceRead_cons waiting (Nat.le_of_eq full)),
      if_neg (by omega)]
    exact ih (l := { l with toDevice := messagePackets size (m.drop size) ++ rest }) _ rfl

/-- As long as a message has not ended, nothing is made of it. -/
theorem readMessage_unended (room : Nat) (listening : l.hostOpen = true) (i : Intake)
    (full : ∀ p ∈ l.toDevice, p.length = size) :
    port.readMessage size room i l = none := by
  induction h : l.toDevice generalizing i l with
  | nil =>
    refine PacketPort.readMessage_of_none i ?_
    show deviceRead size l = none
    rw [deviceRead, h]
    simp [listening]
  | cons p rest ih =>
    rw [h] at full
    have hp : p.length = size := full p List.mem_cons_self
    rw [PacketPort.readMessage_of_ok i (deviceRead_cons h (Nat.le_of_eq hp)),
      if_neg (by omega)]
    exact ih (l := { l with toDevice := rest }) listening _
      (fun q hq => full q (List.mem_cons_of_mem p hq)) rfl

theorem receive_messagePackets (hs : 0 < l.packetSize) (limit : Nat)
    (waiting : l.toDevice = messagePackets l.packetSize message ++ rest) :
    PacketInterface.receive port limit l =
      some (PacketInterface.verdict limit message, { l with toDevice := rest }) := by
  have hread : port.readMessage (port.packetSize l) (PacketInterface.room limit) {} l =
      some (.ok (Intake.addAll (PacketInterface.room limit)
        (messagePackets l.packetSize message) {}), { l with toDevice := rest }) :=
    readMessage_messagePackets hs _ _ waiting
  rw [PacketInterface.receive, hread]
  simp only [PacketInterface.accept_messagePackets hs]

end UsbLink

/-- The empty packet of a host is the one that ends a message of whole packets. -/
theorem needsEmptyPacket_iff (hs : 0 < size) (length : Nat) :
    needsEmptyPacket length size = true ↔ length % size = 0 := by
  simp [needsEmptyPacket, Nat.ne_of_gt hs]

namespace PacketLink

variable {σ : Type}

def asked (pipe : BulkPipe σ) (header : RequestHeader) (payload : Bytes) (l : PacketLink σ) :
    List PipeEvent :=
  (exchange pipe.recorded header payload (l.noting [])).2.pipe.2

/-- An exchange that gets past recovery, over a pipe that takes what it is given, writes its
message as one transfer, and an empty one behind it where the message is whole packets. -/
theorem asked_written {pipe : BulkPipe σ} {l : PacketLink σ} {header : RequestHeader}
    {payload : Bytes} (hs : 0 < pipe.packetSize l.pipe)
    (steady : ∀ data s, pipe.packetSize (pipe.write data s).2 = pipe.packetSize s)
    (kept : ∀ s, pipe.packetSize (pipe.reset s).2 = pipe.packetSize s)
    (recovered : l.stale = false ∨ (pipe.reset l.pipe).1 = .ok ())
    (whole : ∀ e ∈ asked pipe header payload l, e.Whole) :
    (asked pipe header payload l).filterMap PipeEvent.written? =
      (header.bytes ++ payload) ::
        if (header.bytes ++ payload).length % pipe.packetSize l.pipe = 0 then [[]] else [] := by
  obtain ⟨events, r, l', exchanged, _, hr⟩ := exchange_recorded pipe l header payload
  have hasked : asked pipe header payload l = events := by
    rw [asked, hr, List.nil_append, noting_pipe]
  rw [hasked] at whole ⊢
  have ends : ∀ s, pipe.packetSize s = pipe.packetSize l.pipe →
      (if needsEmptyPacket (header.bytes ++ payload).length
        (pipe.packetSize (pipe.write (header.bytes ++ payload) s).2) then [[]] else []) =
      if (header.bytes ++ payload).length % pipe.packetSize l.pipe = 0 then [([] : Bytes)]
        else [] := by
    intro s same
    rw [steady, same]
    simp only [needsEmptyPacket_iff hs]
  cases exchanged with
  | refused stale failed =>
    rw [failed, stale] at recovered
    simp at recovered
  | recovered stale reset transferred =>
    have same := kept l.pipe
    rw [reset] at same
    rw [List.filterMap_cons]
    simp only [PipeEvent.written?]
    rw [transferred.written fun e mem => whole e (List.mem_cons_of_mem _ mem), ends _ same]
  | straight fresh transferred => rw [transferred.written whole, ends _ rfl]

end PacketLink

namespace UsbLink

variable {l : UsbLink}

theorem hostWrite_message (up : l.deviceOpen = true) (hm : message ≠ []) :
    hostWrite message l = (.ok message.length,
      { l with toDevice := l.toDevice ++ packets l.packetSize message }) := by
  simp [hostWrite, up, hm]

theorem hostWrite_empty (up : l.deviceOpen = true) :
    hostWrite [] l = (.ok 0, { l with toDevice := l.toDevice ++ [[]] }) := by
  simp [hostWrite, up]

/-- A host sends a message in the packets that carry it. -/
theorem send_messagePackets (hs : 0 < l.packetSize) (up : l.deviceOpen = true)
    (hm : message ≠ []) (timeout : Duration) :
    PacketLink.send pipe timeout message l =
      (.ok (), { l with toDevice := l.toDevice ++ messagePackets l.packetSize message }) := by
  by_cases full : message.length % l.packetSize = 0
  · have hempty := hostWrite_empty
      (l := { l with toDevice := l.toDevice ++ packets l.packetSize message }) up
    rw [PacketLink.send_ended (hostWrite_message up hm) hs full hempty, messagePackets,
      if_pos full, ← List.append_assoc]
  · rw [PacketLink.send_alone (hostWrite_message up hm) full, messagePackets, if_neg full,
      List.append_nil]

/-- Reading a response changes nothing but what is on the way to the host. -/
theorem receive_toHost (config : LinkConfig) (buffer : Nat) (l : UsbLink) :
    ∃ q, (PacketLink.receive pipe config buffer l).2 = { l with toHost := q } := by
  rcases hread : pipe.read buffer l with ⟨answer, l'⟩
  have hl' : ∃ q, l' = { l with toHost := q } := by
    have hsnd := congrArg Prod.snd hread
    exact ⟨_, hsnd.symm⟩
  cases answer with
  | error e => rwa [PacketLink.receive_of_error hread]
  | ok received => rwa [PacketLink.receive_of_ok hread]

theorem header_append_ne_nil (header : RequestHeader) (payload : Bytes) :
    header.bytes ++ payload ≠ [] := by
  intro h
  have hlen := congrArg List.length h
  rw [List.length_append, RequestHeader.length_bytes] at hlen
  simp [requestHeaderSize] at hlen

/-- An exchange puts the packets of its message on the link, whatever comes back. -/
theorem exchange_messagePackets (l : PacketLink UsbLink) (hs : 0 < l.pipe.packetSize)
    (up : l.pipe.deviceOpen = true) (header : RequestHeader) (payload : Bytes) :
    ∃ q n, (PacketLink.exchange pipe header payload l).2.pipe =
      { l.pipe with
        toDevice :=
          l.pipe.toDevice ++ messagePackets l.pipe.packetSize (header.bytes ++ payload)
        toHost := q
        resets := n } := by
  have htransfer : ∀ (config : LinkConfig) (q : Queue Bytes) (n : Nat), ∃ q',
      (PacketLink.transfer pipe config l.buffer header payload
        { l.pipe with toHost := q, resets := n }).2 =
        { l.pipe with
          toDevice :=
            l.pipe.toDevice ++ messagePackets l.pipe.packetSize (header.bytes ++ payload)
          toHost := q'
          resets := n } := by
    intro config q n
    have hsend := send_messagePackets (l := { l.pipe with toHost := q, resets := n }) hs up
      (header_append_ne_nil header payload) config.timeout
    rw [PacketLink.transfer, Attempt.bind_of_ok hsend]
    exact receive_toHost config _ _
  cases stale : l.stale with
  | false =>
    have hr : PacketLink.recover pipe l = (.ok (), l) := by simp [PacketLink.recover, stale]
    rw [PacketLink.exchange_of_recover hr rfl]
    obtain ⟨q, hq⟩ := htransfer l.config l.pipe.toHost l.pipe.resets
    exact ⟨q, _, hq⟩
  | true =>
    have hr : PacketLink.recover pipe l =
        (.ok (), { l with pipe := (hostReset l.pipe).2, stale := false }) := by
      rw [PacketLink.recover, if_pos stale]
      rfl
    rw [PacketLink.exchange_of_recover hr rfl]
    obtain ⟨q, hq⟩ := htransfer l.config {} (l.pipe.resets + 1)
    exact ⟨q, _, hq⟩

def exchangeEach : List (RequestHeader × Bytes) → PacketLink UsbLink → PacketLink UsbLink
  | [], l => l
  | (header, payload) :: rest, l => exchangeEach rest (PacketLink.exchange pipe header payload l).2

theorem exchangeEach_messagePackets (l : PacketLink UsbLink) (hs : 0 < l.pipe.packetSize)
    (up : l.pipe.deviceOpen = true) (requests : List (RequestHeader × Bytes)) :
    ∃ q n, (exchangeEach requests l).pipe =
      { l.pipe with
        toDevice := l.pipe.toDevice ++
          (requests.map fun r => r.1.bytes ++ r.2).flatMap (messagePackets l.pipe.packetSize)
        toHost := q
        resets := n } := by
  induction requests generalizing l with
  | nil => exact ⟨l.pipe.toHost, l.pipe.resets, by simp [exchangeEach]⟩
  | cons r rest ih =>
    obtain ⟨header, payload⟩ := r
    obtain ⟨q, n, hx⟩ := exchange_messagePackets l hs up header payload
    obtain ⟨q', n', hrest⟩ := ih (PacketLink.exchange pipe header payload l).2
      (by rw [hx]; exact hs) (by rw [hx]; exact up)
    refine ⟨q', n', ?_⟩
    rw [exchangeEach, hrest, hx]
    simp

def sendEach (timeout : Duration) : List Bytes → Attempt UsbLink LinkError Unit
  | [] => pure ()
  | message :: rest => do
    let _ ← PacketLink.send pipe timeout message
    sendEach timeout rest

def receiveEach (limit : Nat) : Nat → UsbLink → List (Except InterfaceError Request) × UsbLink
  | 0, l => ([], l)
  | n + 1, l =>
    match PacketInterface.receive port limit l with
    | none => ([], l)
    | some (r, l) =>
      let (rs, l) := receiveEach limit n l
      (r :: rs, l)

theorem sendEach_messagePackets (hs : 0 < l.packetSize) (up : l.deviceOpen = true)
    (timeout : Duration) {messages : List Bytes} (hm : ∀ m ∈ messages, m ≠ []) :
    sendEach timeout messages l = (.ok (),
      { l with toDevice := l.toDevice ++ messages.flatMap (messagePackets l.packetSize) }) := by
  induction messages generalizing l with
  | nil => simp [sendEach]
  | cons m rest ih =>
    have hsend := send_messagePackets hs up (hm m List.mem_cons_self) timeout
    rw [sendEach, Attempt.bind_of_ok hsend,
      ih (l := { l with toDevice := l.toDevice ++ messagePackets l.packetSize m }) hs up
        fun q hq => hm q (List.mem_cons_of_mem m hq)]
    simp

theorem receiveEach_messagePackets (hs : 0 < l.packetSize) (limit : Nat) (messages : List Bytes)
    (rest : List Bytes)
    (waiting : l.toDevice = messages.flatMap (messagePackets l.packetSize) ++ rest) :
    receiveEach limit messages.length l =
      (messages.map (PacketInterface.verdict limit), { l with toDevice := rest }) := by
  induction messages generalizing l with
  | nil =>
    rw [List.flatMap_nil, List.nil_append] at waiting
    rw [← waiting]
    rfl
  | cons m others ih =>
    rw [List.flatMap_cons, List.append_assoc] at waiting
    rw [List.length_cons, receiveEach, receive_messagePackets hs limit waiting]
    simp only
    rw [ih (l := { l with
      toDevice := others.flatMap (messagePackets l.packetSize) ++ rest }) hs rfl]
    rfl

/-- Messages sent one behind the other are received one by one: each receive takes the packets
of one message, its empty one included, and answers for that message alone. An exchange sends
its message in this way, so a device receives the very octets of each exchange. -/
theorem messages_stay_apart (hs : 1 ≤ l.packetSize) (up : l.deviceOpen = true)
    (idle : l.toDevice = []) (limits : PayloadLimits) :
    (∀ (timeout : Duration) (messages : List Bytes), (∀ m ∈ messages, m ≠ []) →
      ∃ sent, sendEach timeout messages l = (.ok (), sent) ∧
        sent.toDevice = messages.flatMap (messagePackets l.packetSize) ∧
        ∀ before message after, messages = before ++ message :: after →
          ∃ l', receiveEach limits.request before.length sent =
              (before.map (PacketInterface.verdict limits.request), l') ∧
            l'.toDevice = messagePackets l.packetSize message ++
              after.flatMap (messagePackets l.packetSize) ∧
            (PacketInterface.interface "usb" port limits).receive l' =
              some (PacketInterface.verdict limits.request message,
                { l' with toDevice := after.flatMap (messagePackets l.packetSize) })) ∧
    (∀ {σ : Type} (pipe : BulkPipe σ) (x : PacketLink σ) (header : RequestHeader)
      (payload : Bytes), 1 ≤ pipe.packetSize x.pipe →
      (∀ data s, pipe.packetSize (pipe.write data s).2 = pipe.packetSize s) →
      (∀ s, pipe.packetSize (pipe.reset s).2 = pipe.packetSize s) →
      (x.stale = false ∨ (pipe.reset x.pipe).1 = .ok ()) →
      (∀ e ∈ PacketLink.asked pipe header payload x, e.Whole) →
      (PacketLink.asked pipe header payload x).filterMap PipeEvent.written? =
        (header.bytes ++ payload) ::
          if (header.bytes ++ payload).length % pipe.packetSize x.pipe = 0 then [[]] else []) ∧
    (∀ (config : LinkConfig) (buffer : Nat) (stale : Bool)
      (requests : List (RequestHeader × Bytes)),
      (∀ r ∈ requests, r.1.payloadLength.toNat = r.2.length) →
      ∃ l', receiveEach limits.request requests.length
          (exchangeEach requests ⟨l, config, buffer, stale⟩).pipe =
        (requests.map fun r =>
          (Request.decode (r.1.bytes ++ r.2) limits.request).mapError .malformed, l') ∧
        l'.toDevice = []) := by
  refine ⟨?_, fun pipe x header payload => PacketLink.asked_written, ?_⟩
  · intro timeout messages hm
    have hsend := sendEach_messagePackets hs up timeout hm
    rw [idle, List.nil_append] at hsend
    refine ⟨_, hsend, rfl, ?_⟩
    rintro before message after rfl
    have hreceive := receiveEach_messagePackets
      (l := { l with
        toDevice := (before ++ message :: after).flatMap (messagePackets l.packetSize) })
      hs limits.request before ((message :: after).flatMap (messagePackets l.packetSize))
      List.flatMap_append
    have hnext := receive_messagePackets
      (l := { l with toDevice := (message :: after).flatMap (messagePackets l.packetSize) })
      hs limits.request List.flatMap_cons
    exact ⟨_, hreceive, List.flatMap_cons, hnext⟩
  · intro config buffer stale requests declared
    obtain ⟨q, n, hx⟩ := exchangeEach_messagePackets ⟨l, config, buffer, stale⟩ hs up requests
    have hreceive := receiveEach_messagePackets (l := (exchangeEach requests _).pipe)
      (by rw [hx]; exact hs) limits.request (requests.map fun r => r.1.bytes ++ r.2) []
      (by rw [hx, idle]; simp)
    rw [List.length_map, List.map_map] at hreceive
    have hverdict : requests.map (PacketInterface.verdict limits.request ∘
          fun r => r.1.bytes ++ r.2) = requests.map fun r =>
        (Request.decode (r.1.bytes ++ r.2) limits.request).mapError .malformed :=
      List.map_congr_left fun r hr =>
        PacketInterface.verdict_of_declared (declared r hr) limits.request
    rw [hverdict] at hreceive
    exact ⟨_, hreceive, rfl⟩

/-- Packets of eight octets: a message that is too short, a request of one full packet, and a
message that is too long. -/
theorem messages_stay_apart_in_eights :
    (∃ sent l', sendEach defaultTimeout
        [[1, 2, 3], [0, 0, 0, 0, 2, 0, 0, 0], List.replicate 13 7] { packetSize := 8 } =
          (.ok (), sent) ∧
      receiveEach 4 2 sent =
        ([.error (.malformed (.truncatedHeader 3 8)), .ok ⟨⟨0, 0, 2⟩, []⟩], l') ∧
      (PacketInterface.interface "usb" port ⟨4, 4⟩).receive l' =
        some (.error (.malformed (.payloadTooLarge 5 4)), { l' with toDevice := [] })) ∧
    (PacketLink.asked pipe ⟨⟨0, 0, 2⟩, 0⟩ [] ⟨{ packetSize := 8 }, {}, 520, true⟩).filterMap
      PipeEvent.written? = [[0, 0, 0, 0, 2, 0, 0, 0], []] ∧
    ∃ l', receiveEach 4 1
        (exchangeEach [(⟨⟨0, 0, 2⟩, 0⟩, [])] ⟨{ packetSize := 8 }, {}, 520, true⟩).pipe =
          ([.ok ⟨⟨0, 0, 2⟩, []⟩], l') ∧ l'.toDevice = [] := by
  have h := messages_stay_apart (l := { packetSize := 8 }) (by decide) rfl rfl ⟨4, 4⟩
  refine ⟨?_, ?_, ?_⟩
  · obtain ⟨sent, hsend, _, hreceive⟩ := h.1 defaultTimeout
      [[1, 2, 3], [0, 0, 0, 0, 2, 0, 0, 0], List.replicate 13 7] (by decide)
    obtain ⟨l', hbefore, _, hnext⟩ :=
      hreceive [[1, 2, 3], [0, 0, 0, 0, 2, 0, 0, 0]] (List.replicate 13 7) [] rfl
    exact ⟨sent, l', hsend, hbefore, hnext⟩
  · have steady : ∀ data s, pipe.packetSize (pipe.write data s).2 = pipe.packetSize s := by
      intro data s
      simp only [pipe, hostWrite]
      split <;> rfl
    have hasked : PacketLink.asked pipe ⟨⟨0, 0, 2⟩, 0⟩ [] ⟨{ packetSize := 8 }, {}, 520, true⟩ =
        [.reset (.ok ()), .write [0, 0, 0, 0, 2, 0, 0, 0] (.ok 8), .write [] (.ok 0),
          .read 520 (.error .timedOut)] := rfl
    exact h.2.1 pipe ⟨{ packetSize := 8 }, {}, 520, true⟩ ⟨⟨0, 0, 2⟩, 0⟩ [] (by decide) steady
      (fun _ => rfl) (.inr rfl) (by rw [hasked]; simp [PipeEvent.Whole])
  · exact h.2.2 {} 520 true [(⟨⟨0, 0, 2⟩, 0⟩, [])] (by decide)

end UsbLink

end PeripheralBridge
