import PeripheralBridge.Proofs.PacketReturn

/-!
# Responses one behind the other

A device may send several responses before the host reads any. The host then reads them
one by one: each read ends with the packet that ends a response, and never because its
buffer is full, so that what one read leaves behind begins with the next response.
-/

namespace PeripheralBridge

def Interface.respondEach {σ : Type} (i : Interface σ) :
    List Response → Attempt σ InterfaceError Unit
  | [] => pure ()
  | r :: rest => do
    i.send r
    respondEach i rest

def BulkPipe.readEach {σ : Type} (pipe : BulkPipe σ) (capacity : Nat) :
    Nat → σ → List (Except IoFailure Bytes) × σ
  | 0, s => ([], s)
  | n + 1, s =>
    let (received, s) := pipe.read capacity s
    let (others, s) := readEach pipe capacity n s
    (received :: others, s)

/-- A message is carried by full packets and one that is not full. -/
theorem messagePackets_ends {size : Nat} (hs : 0 < size) (message : Bytes) :
    ∃ full last, messagePackets size message = full ++ [last] ∧
      (∀ p ∈ full, p.length = size) ∧ last.length < size := by
  induction message using message_induction hs with
  | short m hm => exact ⟨[], m, messagePackets_of_lt hm, by simp, hm⟩
  | long m hm ih =>
    obtain ⟨full, last, hpackets, hfull, hlast⟩ := ih
    refine ⟨m.take size :: full, last, ?_, ?_, hlast⟩
    · rw [messagePackets_of_le hs hm, hpackets, List.cons_append]
    · exact List.forall_mem_cons.mpr ⟨List.length_take_of_le hm, hfull⟩

namespace UsbLink

variable {size room : Nat} {l : UsbLink} {message : Bytes} {rest : List Bytes}

/-- The size of a buffer makes no difference as long as a message does not fill it. -/
theorem gather_unfilled (hs : 0 < size) (message : Bytes) (rest : List Bytes)
    (unfilled : message.length < room) :
    gather size room (messagePackets size message ++ rest) = (some (.ok message), rest) := by
  induction message using message_induction hs generalizing room with
  | short m hm =>
    rw [messagePackets_of_lt hm, List.singleton_append, gather, if_neg (by omega),
      if_pos (.inl hm)]
  | long m hm ih =>
    have full : (m.take size).length = size := List.length_take_of_le hm
    have fewer : (m.drop size).length < room - size := by
      rw [List.length_drop]
      omega
    rw [messagePackets_of_le hs hm, List.cons_append, gather, full, if_neg (by omega),
      if_neg (by omega), ih fewer]
    simp only [List.take_append_drop]

theorem hostRead_message (hs : 0 < l.packetSize) {capacity : Nat}
    (unfilled : message.length < capacity)
    (waiting : l.toHost.toList = messagePackets l.packetSize message ++ rest) :
    hostRead capacity l = (.ok message, { l with toHost := .ofList rest }) := by
  rw [hostRead, waiting, gather_unfilled hs message rest unfilled]
  rfl

theorem receive_response (hs : 0 < l.packetSize) (config : LinkConfig) {r : Response}
    (fits : r.payload.length ≤ config.limits.response)
    (declarable : r.payload.length ≤ declarableMax)
    (waiting : l.toHost.toList = messagePackets l.packetSize r.octets ++ rest) :
    PacketLink.receive pipe config (receiveCapacity config.limits.response l.packetSize) l =
      (.ok r, { l with toHost := .ofList rest }) := by
  have hread : pipe.read (receiveCapacity config.limits.response l.packetSize) l =
      (.ok r.octets, { l with toHost := .ofList rest }) := by
    refine hostRead_message hs ?_ waiting
    have hlong := (receiveCapacity_spec hs config.limits.response).2.2
    rw [r.length_octets]
    omega
  rw [PacketLink.receive_of_ok hread, Response.decode_octets declarable, Response.within,
    if_neg (Nat.not_lt.mpr fits)]
  rfl

variable {responses : List Response}

theorem respondEach_toHost (listening : l.hostOpen = true) (name : String) (limits : PayloadLimits)
    (fits : ∀ r ∈ responses, r.payload.length ≤ limits.response)
    (declarable : ∀ r ∈ responses, r.payload.length ≤ declarableMax) :
    ∃ q, (PacketInterface.interface name port limits).respondEach responses l =
        (.ok (), { l with toHost := q }) ∧
      q.toList = l.toHost.toList ++
        responses.flatMap fun r => messagePackets l.packetSize r.octets := by
  induction responses generalizing l with
  | nil => exact ⟨l.toHost, rfl, by simp⟩
  | cons r rest ih =>
    obtain ⟨q, hsend, hq⟩ := send_response listening (fits r List.mem_cons_self)
      (declarable r List.mem_cons_self)
    obtain ⟨q', hrest, hq'⟩ := ih (l := { l with toHost := q }) listening
      (fun r' hr => fits r' (List.mem_cons_of_mem r hr))
      (fun r' hr => declarable r' (List.mem_cons_of_mem r hr))
    refine ⟨q', ?_, by simp [hq', hq]⟩
    rw [Interface.respondEach]
    exact (Attempt.bind_of_ok hsend _).trans hrest

theorem readEach_responses (hs : 0 < l.packetSize) {capacity : Nat}
    (responses : List Response) (rest : List Bytes)
    (unfilled : ∀ r ∈ responses, r.octets.length < capacity)
    (waiting : l.toHost.toList =
      (responses.flatMap fun r => messagePackets l.packetSize r.octets) ++ rest) :
    ∃ q, pipe.readEach capacity responses.length l =
        (responses.map fun r => .ok r.octets, { l with toHost := q }) ∧ q.toList = rest := by
  induction responses generalizing l with
  | nil => exact ⟨l.toHost, rfl, by simpa using waiting⟩
  | cons r others ih =>
    rw [List.flatMap_cons, List.append_assoc] at waiting
    have hread : pipe.read capacity l = (.ok r.octets, _) :=
      hostRead_message hs (unfilled r List.mem_cons_self) waiting
    obtain ⟨q, hrest, hq⟩ := ih
      (l := { l with
        toHost := .ofList
          ((others.flatMap fun r => messagePackets l.packetSize r.octets) ++ rest) })
      hs (fun r' hr => unfilled r' (List.mem_cons_of_mem r hr)) rfl
    refine ⟨q, ?_, hq⟩
    rw [List.length_cons, BulkPipe.readEach, hread]
    simp only [hrest, List.map_cons]

/-- Responses that both ends allow are sent one behind the other and read one by one: each read
takes the packets of one response, the one that is not full included, and would do so with any
larger buffer. The host has then received the responses, and nothing is left on the link. -/
theorem responses_stay_apart (hs : 1 ≤ l.packetSize) (listening : l.hostOpen = true)
    (idle : l.toHost.toList = []) (name : String) (limits : PayloadLimits) (config : LinkConfig)
    (responses : List Response)
    (fits : ∀ r ∈ responses, r.payload.length ≤ config.limits.response ∧
      r.payload.length ≤ limits.response ∧ r.payload.length ≤ declarableMax) :
    ∃ sent done, (PacketInterface.interface name port limits).respondEach responses l =
        (.ok (), sent) ∧
      pipe.readEach (receiveCapacity config.limits.response l.packetSize) responses.length sent =
        (responses.map fun r => .ok r.octets, done) ∧
      done.toHost.toList = [] ∧
      ∀ before r after, responses = before ++ r :: after →
        ∃ next full last, r.encode = .ok r.octets ∧
          pipe.readEach (receiveCapacity config.limits.response l.packetSize) before.length sent =
            (before.map fun r => .ok r.octets, next) ∧
          next.toHost.toList = full ++ [last] ++
            (after.flatMap fun r => messagePackets l.packetSize r.octets) ∧
          (∀ p ∈ full, p.length = l.packetSize) ∧ last.length < l.packetSize ∧
          r.octets.length < receiveCapacity config.limits.response l.packetSize ∧
          (∀ more, pipe.read (receiveCapacity config.limits.response l.packetSize + more) next =
            (.ok r.octets, { next with
              toHost := .ofList (after.flatMap fun r => messagePackets l.packetSize r.octets) })) ∧
          PacketLink.receive pipe config (receiveCapacity config.limits.response l.packetSize)
              next = (.ok r, { next with
              toHost :=
                .ofList (after.flatMap fun r => messagePackets l.packetSize r.octets) }) := by
  have hlong := (receiveCapacity_spec hs config.limits.response).2.2
  have unfilled : ∀ r ∈ responses,
      r.octets.length < receiveCapacity config.limits.response l.packetSize := by
    intro r hr
    have := (fits r hr).1
    rw [r.length_octets]
    omega
  obtain ⟨q, hsent, hq⟩ := respondEach_toHost listening name limits
    (fun r hr => (fits r hr).2.1) (fun r hr => (fits r hr).2.2)
  rw [idle, List.nil_append] at hq
  obtain ⟨done, hdone, hleft⟩ := readEach_responses (l := { l with toHost := q }) hs
    responses [] unfilled (by rw [hq, List.append_nil])
  refine ⟨_, _, hsent, hdone, hleft, ?_⟩
  rintro before r after rfl
  have hr : r ∈ before ++ r :: after := List.mem_append_right _ List.mem_cons_self
  obtain ⟨next, hbefore, hnext⟩ := readEach_responses (l := { l with toHost := q }) hs
    before _ (fun r' hr' => unfilled r' (List.mem_append_left _ hr'))
    (by rw [hq, List.flatMap_append])
  obtain ⟨full, last, hpackets, hfull, hlast⟩ := messagePackets_ends hs r.octets
  rw [List.flatMap_cons] at hnext
  refine ⟨_, full, last, Response.encode_octets (fits r hr).2.2, hbefore, ?_, hfull, hlast,
    unfilled r hr, ?_, ?_⟩
  · rw [← hpackets]
    exact hnext
  · intro more
    exact hostRead_message (l := { l with toHost := next }) hs
      (Nat.lt_add_right more (unfilled r hr)) hnext
  · exact receive_response (l := { l with toHost := next }) hs config (fits r hr).1 (fits r hr).2.2
      hnext

/-- Packets of four octets: a response of one full packet, one of two, and one that needs no
empty packet. -/
theorem responses_stay_apart_in_fours :
    ∃ sent next done,
      (PacketInterface.interface "usb" port ⟨4, 4⟩).respondEach
          [⟨0, []⟩, ⟨-1, [1, 2, 3, 4]⟩, ⟨2, [5]⟩] { packetSize := 4 } = (.ok (), sent) ∧
      pipe.readEach 12 1 sent = ([.ok [0, 0, 0, 0]], next) ∧
      PacketLink.receive pipe { limits := ⟨4, 4⟩ } 12 next =
        (.ok ⟨-1, [1, 2, 3, 4]⟩,
          { next with toHost := .ofList (messagePackets 4 [2, 0, 1, 0, 5]) }) ∧
      pipe.readEach 12 3 sent =
        ([.ok [0, 0, 0, 0], .ok [255, 255, 4, 0, 1, 2, 3, 4], .ok [2, 0, 1, 0, 5]], done) ∧
      done.toHost.toList = [] := by
  obtain ⟨sent, done, hsent, hdone, hleft, heach⟩ :=
    responses_stay_apart (l := { packetSize := 4 }) (by decide) rfl rfl "usb" ⟨4, 4⟩
      { limits := ⟨4, 4⟩ } [⟨0, []⟩, ⟨-1, [1, 2, 3, 4]⟩, ⟨2, [5]⟩] (by decide)
  obtain ⟨next, _, _, _, hnext, _, _, _, _, _, hreceive⟩ :=
    heach [⟨0, []⟩] ⟨-1, [1, 2, 3, 4]⟩ [⟨2, [5]⟩] rfl
  rw [List.flatMap_singleton] at hreceive
  exact ⟨sent, next, done, hsent, hnext, hreceive, hdone, hleft⟩

end UsbLink

end PeripheralBridge
