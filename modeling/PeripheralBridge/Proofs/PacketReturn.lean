import PeripheralBridge.Proofs.PacketFraming
import PeripheralBridge.Proofs.Wire

/-!
# Responses on a packet link

A device sends a response in the packets that carry it, behind whatever is under way. A
host reads into whole packets, so it takes the packets of one response and no others, if
the response is one that it accepts. What is left of a response that is too large stays
on the link until a reset.
-/

namespace PeripheralBridge

theorem receiveCapacity_spec {size : Nat} (hs : 0 < size) (limit : Nat) :
    receiveCapacity limit size % size = 0 ∧ size ≤ receiveCapacity limit size ∧
      responseHeaderSize + limit < receiveCapacity limit size := by
  have hlt := Nat.lt_div_mul_add (a := responseHeaderSize + limit) hs
  rw [receiveCapacity]
  simp only [if_neg (Nat.ne_of_gt hs), Nat.add_mul, Nat.one_mul]
  refine ⟨by simp, by omega, hlt⟩

namespace UsbLink

variable {size room : Nat} {rest : List Bytes} {l : UsbLink}

/-- A message shorter than the buffer is read whole, and a longer one as far as it goes in. -/
theorem gather_messagePackets (hs : 0 < size) (whole : room % size = 0) (one : size ≤ room)
    (message : Bytes) (rest : List Bytes) :
    gather size room (messagePackets size message ++ rest) =
      if message.length < room then (some (.ok message), rest)
      else (some (.ok (message.take room)),
        messagePackets size (message.drop room) ++ rest) := by
  induction message using message_induction hs generalizing room with
  | short m hm =>
    rw [messagePackets_of_lt hm, if_pos (by omega)]
    simp only [List.cons_append, List.nil_append, gather]
    rw [if_neg (by omega), if_pos (.inl hm)]
  | long m hm ih =>
    have full : (m.take size).length = size := List.length_take_of_le hm
    rw [messagePackets_of_le hs hm]
    simp only [List.cons_append, gather, full]
    rw [if_neg (by omega)]
    by_cases last : size = room
    · rw [if_pos (.inr last), if_neg (by omega), last]
    · have next : (room - size) % size = 0 := by rw [← Nat.mod_eq_sub_mod one, whole]
      have more : size ≤ room - size := by
        rcases Nat.lt_or_ge (room - size) size with few | more
        · rw [Nat.mod_eq_of_lt few] at next
          omega
        · exact more
      rw [if_neg (by omega), ih next more, List.length_drop]
      by_cases fits : m.length < room
      · rw [if_pos fits, if_pos (by omega)]
        simp only [List.take_append_drop]
      · rw [if_neg fits, if_neg (by omega)]
        have hroom : size + (room - size) = room := by omega
        have htake := List.take_add (l := m) (i := size) (j := room - size)
        rw [hroom] at htake
        rw [List.drop_drop, hroom, htake]

/-- What a host reads of a response that is under way is taken for that response, or refused
for its size. The packets behind the response stay, and so does what does not fit of it. -/
theorem hostRead_response (hs : 0 < l.packetSize) (limit : Nat) {r : Response}
    (declarable : r.payload.length ≤ declarableMax)
    (waiting : l.toHost.toList = messagePackets l.packetSize r.octets ++ rest) :
    ∃ received junk, hostRead (receiveCapacity limit l.packetSize) l =
        (.ok received, { l with toHost := .ofList (junk ++ rest) }) ∧
      Response.decode received limit = r.within limit ∧
      (r.payload.length ≤ limit → junk = []) := by
  obtain ⟨whole, one, long⟩ := receiveCapacity_spec hs limit
  have hgather := gather_messagePackets hs whole one r.octets rest
  rw [← waiting] at hgather
  have hlen := r.length_octets
  rw [hostRead]
  by_cases fits : r.octets.length < receiveCapacity limit l.packetSize
  · rw [if_pos fits] at hgather
    rw [hgather]
    exact ⟨_, [], rfl, Response.decode_octets declarable limit, fun _ => rfl⟩
  · rw [if_neg fits] at hgather
    rw [hgather]
    have exceeds : limit < r.payload.length := by omega
    exact ⟨_, _, rfl, Response.decode_take declarable exceeds (by omega), fun h => by omega⟩

/-- With nothing under way, a host that reads is told that nothing came in time. -/
theorem hostRead_nothing (up : l.deviceOpen = true) (idle : l.toHost.toList = [])
    (capacity : Nat) :
    hostRead capacity l = (.error .timedOut, { l with toHost := .ofList [] }) := by
  simp [hostRead, idle, gather, nothingToHost, up]

/-- A device puts the packets of a response behind those that are under way. -/
theorem writeEach_toHost (listening : l.hostOpen = true) (ps : List Bytes) :
    ∃ q, port.writeEach ps l = (.ok (), { l with toHost := q }) ∧
      q.toList = l.toHost.toList ++ ps := by
  induction ps generalizing l with
  | nil => exact ⟨l.toHost, rfl, by simp⟩
  | cons p rest ih =>
    obtain ⟨q, hq, hlist⟩ := ih (l := { l with toHost := l.toHost.push p }) listening
    have hw : port.write p l = (.ok (), { l with toHost := l.toHost.push p }) := by
      simp [port, deviceWrite, listening]
    refine ⟨q, ?_, by simp [hlist]⟩
    rw [PacketPort.writeEach, Attempt.bind_of_ok hw, hq]

theorem send_response (listening : l.hostOpen = true) {limit : Nat} {r : Response}
    (fits : r.payload.length ≤ limit) (declarable : r.payload.length ≤ declarableMax) :
    ∃ q, PacketInterface.send port limit r l = (.ok (), { l with toHost := q }) ∧
      q.toList = l.toHost.toList ++ messagePackets l.packetSize r.octets := by
  obtain ⟨q, hq, hlist⟩ := writeEach_toHost listening (messagePackets l.packetSize r.octets)
  refine ⟨q, ?_, hlist⟩
  rw [← hq, PacketInterface.send]
  simp [Nat.not_lt.mpr fits, Response.encode_octets declarable, Attempt.bind_apply,
    Attempt.mapError, port]

end UsbLink

end PeripheralBridge
