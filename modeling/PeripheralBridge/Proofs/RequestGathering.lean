import Mathlib.Data.List.Induction
import PeripheralBridge.Proofs.RequestParsing

/-!
# Requests gathered octet by octet

A request is read one octet at a time, and much can happen between two of them. The octets that
have been read come to nothing as long as the header, or the payload that it declares, is cut
short. The octet that completes them makes them a request, or a header that declares too much.
What waits in a queue, gathered without a break, comes to what is taken from the queue at once.
-/

namespace PeripheralBridge

namespace StreamInterface

variable {limit : Nat} {octets front rest payload : Bytes} {b : UInt8} {h : RequestHeader}
  {r : Request} {q : RxQueue}

/-- What the octets that were read of a request come to, none while more of them are needed. -/
def gathered (limit : Nat) (octets : Bytes) : Option (Except MessageError Request) :=
  match RequestHeader.read octets with
  | .error _ => none
  | .ok (header, payload) =>
    match checkPayload header.payloadLength.toNat limit with
    | .error e => some (.error e)
    | .ok () =>
      if payload.length < header.payloadLength.toNat then none
      else some (.ok ⟨header.toAddress, payload⟩)

theorem gathered_of_length_lt (short : octets.length < requestHeaderSize) :
    gathered limit octets = none := by
  rw [gathered, RequestHeader.read_of_length_lt short]

theorem gathered_header_append (limit : Nat) (h : RequestHeader) (payload : Bytes) :
    gathered limit (h.bytes ++ payload) =
      if limit < h.payloadLength.toNat then
        some (.error (.payloadTooLarge h.payloadLength.toNat limit))
      else if payload.length < h.payloadLength.toNat then none
      else some (.ok ⟨h.toAddress, payload⟩) := by
  rw [gathered, RequestHeader.read_bytes_append]
  by_cases exceeds : limit < h.payloadLength.toNat
  · simp only [checkPayload, if_pos exceeds]
  · simp only [checkPayload, if_neg exceeds]

theorem gathered_eq_none_iff : gathered limit (h.bytes ++ payload) = none ↔
    h.payloadLength.toNat ≤ limit ∧ payload.length < h.payloadLength.toNat := by
  rw [gathered_header_append]
  grind

theorem gathered_eq_ok_iff : gathered limit (h.bytes ++ payload) = some (.ok r) ↔
    h.payloadLength.toNat ≤ limit ∧ h.payloadLength.toNat ≤ payload.length ∧
      r = ⟨h.toAddress, payload⟩ := by
  rw [gathered_header_append]
  grind

theorem gathered_eq_error_iff {e : MessageError} :
    gathered limit (h.bytes ++ payload) = some (.error e) ↔
      limit < h.payloadLength.toNat ∧ e = .payloadTooLarge h.payloadLength.toNat limit := by
  rw [gathered_header_append]
  grind

/-- Octets are too few for a header, or begin with one. -/
theorem short_or_header (octets : Bytes) : octets.length < requestHeaderSize ∨
    ∃ (h : RequestHeader) (payload : Bytes), octets = h.bytes ++ payload := by
  rcases Nat.lt_or_ge octets.length requestHeaderSize with short | long
  · exact .inl short
  · obtain ⟨h, payload, hread, _⟩ := Request.format.read_of_length_le long
    exact .inr ⟨h, payload, RequestHeader.eq_of_read hread⟩

/-- Octets that are not enough were not enough when there were fewer of them. -/
theorem gathered_of_append (more : gathered limit (front ++ rest) = none) :
    gathered limit front = none := by
  rcases short_or_header front with short | ⟨h, payload, rfl⟩
  · exact gathered_of_length_lt short
  · rw [List.append_assoc] at more
    obtain ⟨fits, cut⟩ := gathered_eq_none_iff.mp more
    rw [List.length_append] at cut
    exact gathered_eq_none_iff.mpr ⟨fits, by omega⟩

/-- Octets are not enough, or there is a first one with which they are. -/
theorem gathered_cases (limit : Nat) (octets : Bytes) :
    gathered limit octets = none ∨ ∃ front b rest result, octets = front ++ b :: rest ∧
      gathered limit front = none ∧ gathered limit (front ++ [b]) = some result := by
  induction octets using List.reverseRecOn with
  | nil => exact .inl rfl
  | append_singleton octets b ih =>
    rcases ih with more | ⟨front, b', rest, result, rfl, more, enough⟩
    · cases last : gathered limit (octets ++ [b]) with
      | none => exact .inl rfl
      | some result => exact .inr ⟨octets, b, [], result, rfl, more, last⟩
    · exact .inr ⟨front, b', rest ++ [b], result, by simp, more, enough⟩

/-- The request that an octet completes has the octets that were read, and no others. -/
theorem octets_of_gathered (more : gathered limit front = none)
    (whole : gathered limit (front ++ [b]) = some (.ok r)) :
    r.Acceptable limit ∧ r.octets = front ++ [b] := by
  rcases short_or_header (front ++ [b]) with short | ⟨h, payload, split⟩
  · rw [gathered_of_length_lt short] at whole
    cases whole
  rw [split] at whole
  obtain ⟨fits, enough, rfl⟩ := gathered_eq_ok_iff.mp whole
  -- with one octet less there was no whole header, or not all of the payload
  have declared : payload.length = h.payloadLength.toNat := by
    rcases List.eq_nil_or_concat payload with rfl | ⟨payload, b', rfl⟩
    · exact (Nat.le_zero.mp enough).symm
    · rw [List.concat_eq_append, ← List.append_assoc] at split
      obtain ⟨rfl, -⟩ := List.append_inj' split rfl
      have cut := (gathered_eq_none_iff.mp more).2
      rw [List.length_concat] at enough ⊢
      omega
  have declarable := h.payloadLength.toNat_lt
  refine ⟨⟨?_, ?_⟩, ?_⟩
  · rw [declared]
    exact fits
  · rw [declared, declarableMax]
    omega
  · rw [split, Request.octets_of_header h declared]

theorem takeRequest_of_unfinished (timeout : Duration) (waiting : q.bytes ≠ [])
    (more : gathered limit q.bytes = none) :
    takeRequest limit timeout q = some (.error (q.silence timeout), { q with bytes := [] }) := by
  rw [takeRequest, if_neg waiting]
  rcases short_or_header q.bytes with short | ⟨h, payload, split⟩
  · rw [RequestHeader.read_of_length_lt short]
  · rw [split] at more
    obtain ⟨fits, cut⟩ := gathered_eq_none_iff.mp more
    rw [split, RequestHeader.read_bytes_append]
    simp only [checkPayload, if_neg (Nat.not_lt.mpr fits), if_pos cut]

theorem takeRequest_of_oversized (timeout : Duration) {e : MessageError}
    (oversized : gathered limit front = some (.error e)) (waiting : q.bytes = front ++ rest) :
    takeRequest limit timeout q = some (.error (.malformed e), { q with bytes := [] }) := by
  rcases short_or_header front with short | ⟨h, payload, rfl⟩
  · rw [gathered_of_length_lt short] at oversized
    cases oversized
  · obtain ⟨exceeds, rfl⟩ := gathered_eq_error_iff.mp oversized
    have header : h.bytes ≠ [] := nofun
    rw [takeRequest, waiting, List.append_assoc,
      if_neg (List.append_ne_nil_of_left_ne_nil header _), RequestHeader.read_bytes_append]
    simp only [checkPayload, if_pos exceeds]

end StreamInterface

end PeripheralBridge
