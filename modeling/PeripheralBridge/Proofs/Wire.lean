import PeripheralBridge.Proofs.MessageFormat

/-!
# Messages on a wire

A message whose payload can be declared is read back from its octets, unless the payload
is over the limit. A response is told to be too large by its first octets alone: what was
read behind its header makes no difference.
-/

namespace PeripheralBridge

namespace Request

def octets (r : Request) : Bytes :=
  RequestHeader.bytes ⟨r.toAddress, UInt16.ofNat r.payload.length⟩ ++ r.payload

theorem length_octets (r : Request) : r.octets.length = requestHeaderSize + r.payload.length :=
  format.length_octets r

/-- A header and as much payload as it declares are the octets of a request. -/
theorem octets_of_header (h : RequestHeader) {payload : Bytes}
    (whole : payload.length = h.payloadLength.toNat) :
    octets ⟨h.toAddress, payload⟩ = h.bytes ++ payload :=
  format.octets_message whole

theorem octets_ne_nil (r : Request) : r.octets ≠ [] := by
  intro h
  have hlen := r.length_octets
  rw [h, requestHeaderSize] at hlen
  simp at hlen
  omega

variable {r : Request}

/-- What a request is taken for, given the octets its payload may have. -/
def within (limit : Nat) (r : Request) : Except MessageError Request :=
  if limit < r.payload.length then .error (.payloadTooLarge r.payload.length limit) else .ok r

theorem decode_octets (declarable : r.payload.length ≤ declarableMax) (limit : Nat) :
    decode r.octets limit = r.within limit :=
  format.decode_octets declarable limit

end Request

namespace Response

def octets (r : Response) : Bytes :=
  ResponseHeader.bytes ⟨r.code, UInt16.ofNat r.payload.length⟩ ++ r.payload

theorem length_octets (r : Response) :
    r.octets.length = responseHeaderSize + r.payload.length :=
  format.length_octets r

/-- A header and as much payload as it declares are the octets of a response. -/
theorem octets_of_header (h : ResponseHeader) {payload : Bytes}
    (whole : payload.length = h.payloadLength.toNat) :
    octets ⟨h.code, payload⟩ = h.bytes ++ payload :=
  format.octets_message whole

theorem octets_ne_nil (r : Response) : r.octets ≠ [] := by
  intro h
  have hlen := r.length_octets
  rw [h, responseHeaderSize] at hlen
  simp at hlen
  omega

variable {r : Response}

theorem encode_octets (declarable : r.payload.length ≤ declarableMax) :
    r.encode = .ok r.octets :=
  r.encode_eq.trans (format.encode_of_le declarable)

theorem encode_of_lt (long : declarableMax < r.payload.length) :
    r.encode = .error (.payloadTooLarge r.payload.length declarableMax) :=
  r.encode_eq.trans (format.encode_of_lt long)

/-- What a response is taken for, given the octets its payload may have. -/
def within (limit : Nat) (r : Response) : Except MessageError Response :=
  if limit < r.payload.length then .error (.payloadTooLarge r.payload.length limit) else .ok r

/-- Only a response within the limit is taken for one, and for itself. -/
theorem of_within {limit : Nat} {r' : Response} (h : r.within limit = .ok r') :
    r' = r ∧ r.payload.length ≤ limit := by
  rw [within] at h
  by_cases exceeds : limit < r.payload.length
  · rw [if_pos exceeds] at h
    cases h
  · rw [if_neg exceeds] at h
    cases h
    exact ⟨rfl, Nat.le_of_not_lt exceeds⟩

theorem decode_octets (declarable : r.payload.length ≤ declarableMax) (limit : Nat) :
    decode r.octets limit = r.within limit :=
  format.decode_octets declarable limit

/-- A response that is too large is found out however much of it was read. -/
theorem decode_take (declarable : r.payload.length ≤ declarableMax) {limit count : Nat}
    (exceeds : limit < r.payload.length) (head : responseHeaderSize ≤ count) :
    decode (r.octets.take count) limit = r.within limit := by
  have htake : r.octets.take count =
      ResponseHeader.bytes ⟨r.code, UInt16.ofNat r.payload.length⟩ ++
        r.payload.take (count - responseHeaderSize) := by
    rw [octets, List.take_append, ResponseHeader.length_bytes,
      List.take_of_length_le (by rw [ResponseHeader.length_bytes]; exact head)]
  rw [decode, htake, ResponseHeader.read_bytes_append]
  simp only [bind, Except.bind, checkPayload, toNat_lengthField declarable, within, if_pos exceeds]

end Response

end PeripheralBridge
