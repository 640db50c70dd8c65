import PeripheralBridge.Message.Codec

/-!
# The format of messages

Requests and responses are written in one format: words, the last of which declares the
length of the payload, and then the payload. What is shown for the format holds of both
kinds. Every message that can be declared is read back from its octets, nothing but its
octets is taken for it, and every other byte string is refused for the first reason that
applies.
-/

namespace PeripheralBridge

/-- The word at a place, least significant octet first. -/
def wordAt (place : Nat) (source : Bytes) : Nat :=
  (source.getD place 0).toNat + 256 * (source.getD (place + 1) 0).toNat

theorem wordAt_wordBytes (w : UInt16) (rest : Bytes) :
    wordAt 0 (wordBytes w ++ rest) = w.toNat := by
  have h := congrArg UInt16.toNat (word_wordBytes w)
  rw [toNat_word] at h
  exact h

theorem wordAt_append (before after : Bytes) (place : Nat) :
    wordAt (before.length + place) (before ++ after) = wordAt place after := by
  simp [wordAt, List.getElem?_append_right, Nat.add_assoc]

/-- Words that follow each other are found at every other place. -/
theorem wordAt_flatMap {words : List UInt16} {i : Nat} {w : UInt16} (h : words[i]? = some w)
    (rest : Bytes) : wordAt (2 * i) (words.flatMap wordBytes ++ rest) = w.toNat := by
  induction words generalizing i with
  | nil => simp at h
  | cons v vs ih =>
    rw [List.flatMap_cons, List.append_assoc]
    cases i with
    | zero =>
      rw [List.getElem?_cons_zero, Option.some.injEq] at h
      rw [← h]
      exact wordAt_wordBytes v _
    | succ i =>
      rw [List.getElem?_cons_succ] at h
      have hplace : 2 * (i + 1) = (wordBytes v).length + 2 * i := by
        rw [length_wordBytes]
        omega
      rw [hplace, wordAt_append, ih h]

/-- A length that can be declared is the length that is declared. -/
theorem toNat_lengthField {n : Nat} (declarable : n ≤ declarableMax) :
    (UInt16.ofNat n).toNat = n := by
  rw [UInt16.toNat_ofNat']
  rw [declarableMax] at declarable
  omega

theorem lengthField_of_le {n : Nat} (declarable : n ≤ declarableMax) :
    lengthField n = .ok (UInt16.ofNat n) := by
  rw [lengthField, if_neg (by omega)]

theorem lengthField_of_lt {n : Nat} (long : declarableMax < n) :
    lengthField n = .error (.payloadTooLarge n declarableMax) := by
  rw [lengthField, if_pos long]

/-- A kind of message: a header that declares a length, and a payload. -/
structure MessageFormat (μ η : Type) where
  headerSize : Nat
  payload : μ → Bytes
  /-- The header of a message, once its length field is known. -/
  header : μ → UInt16 → η
  message : η → Bytes → μ
  declared : η → UInt16
  words : η → List UInt16
  bytes : η → Bytes
  /-- Take a header off the front. -/
  read : Bytes → Except MessageError (η × Bytes)
  message_header : ∀ m length, message (header m length) (payload m) = m
  header_message : ∀ h p, header (message h p) (declared h) = h
  payload_message : ∀ h p, payload (message h p) = p
  declared_header : ∀ m length, declared (header m length) = length
  bytes_eq : ∀ h, bytes h = (words h).flatMap wordBytes
  length_bytes : ∀ h, (bytes h).length = headerSize
  declared_last : ∀ h rest, wordAt (headerSize - 2) (bytes h ++ rest) = (declared h).toNat
  read_bytes_append : ∀ h rest, read (bytes h ++ rest) = .ok (h, rest)
  eq_of_read : ∀ source h rest, read source = .ok (h, rest) → source = bytes h ++ rest
  read_of_length_lt : ∀ source, source.length < headerSize →
    read source = .error (.truncatedHeader source.length headerSize)
  read_of_length_ge : ∀ source, headerSize ≤ source.length → ∃ h rest, read source = .ok (h, rest)

/-- Eight octets in front of the payload, the last two of which declare its length. -/
def Request.format : MessageFormat Request RequestHeader where
  headerSize := requestHeaderSize
  payload := Request.payload
  header r length := ⟨r.toAddress, length⟩
  message h payload := ⟨h.toAddress, payload⟩
  declared := RequestHeader.payloadLength
  words h := [h.classId, h.index, h.function, h.payloadLength]
  bytes := RequestHeader.bytes
  read := RequestHeader.read
  message_header _ _ := rfl
  header_message _ _ := rfl
  payload_message _ _ := rfl
  declared_header _ _ := rfl
  bytes_eq _ := rfl
  length_bytes := RequestHeader.length_bytes
  declared_last h rest := wordAt_wordBytes h.payloadLength rest
  read_bytes_append := RequestHeader.read_bytes_append
  eq_of_read _ _ _ := RequestHeader.eq_of_read
  read_of_length_lt _ := RequestHeader.read_of_length_lt
  read_of_length_ge source hs := by
    match source, hs with
    | _ :: _ :: _ :: _ :: _ :: _ :: _ :: _ :: rest, _ => exact ⟨_, rest, rfl⟩

/-- Four octets in front of the payload, the last two of which declare its length. -/
def Response.format : MessageFormat Response ResponseHeader where
  headerSize := responseHeaderSize
  payload := Response.payload
  header r length := ⟨r.code, length⟩
  message h payload := ⟨h.code, payload⟩
  declared := ResponseHeader.payloadLength
  words h := [h.code.toUInt16, h.payloadLength]
  bytes := ResponseHeader.bytes
  read := ResponseHeader.read
  message_header _ _ := rfl
  header_message _ _ := rfl
  payload_message _ _ := rfl
  declared_header _ _ := rfl
  bytes_eq _ := rfl
  length_bytes := ResponseHeader.length_bytes
  declared_last h rest := wordAt_wordBytes h.payloadLength rest
  read_bytes_append := ResponseHeader.read_bytes_append
  eq_of_read _ _ _ := ResponseHeader.eq_of_read
  read_of_length_lt _ := ResponseHeader.read_of_length_lt
  read_of_length_ge source hs := by
    match source, hs with
    | _ :: _ :: _ :: _ :: rest, _ => exact ⟨_, rest, rfl⟩

namespace MessageFormat

variable {μ η : Type} (f : MessageFormat μ η) {m : μ} {h : η} {source payload : Bytes} {max : Nat}

def encode (m : μ) : Except MessageError Bytes := do
  let length ← lengthField (f.payload m).length
  return f.bytes (f.header m length) ++ f.payload m

def decode (source : Bytes) (max : Nat) : Except MessageError μ := do
  let (h, payload) ← f.read source
  checkPayload (f.declared h).toNat max
  if payload.length = (f.declared h).toNat then
    return f.message h payload
  else
    throw (.lengthMismatch (f.headerSize + (f.declared h).toNat) source.length)

/-- The octets of a message, given that its payload can be declared. -/
def octets (m : μ) : Bytes :=
  f.bytes (f.header m (UInt16.ofNat (f.payload m).length)) ++ f.payload m

theorem length_octets (m : μ) : (f.octets m).length = f.headerSize + (f.payload m).length := by
  rw [octets, List.length_append, f.length_bytes]

/-- A header and as much payload as it declares are the octets of a message. -/
theorem octets_message (whole : payload.length = (f.declared h).toNat) :
    f.octets (f.message h payload) = f.bytes h ++ payload := by
  have field : UInt16.ofNat payload.length = f.declared h := by
    rw [whole, UInt16.ofNat_toNat]
  rw [octets, f.payload_message, field, f.header_message]

theorem encode_of_le (declarable : (f.payload m).length ≤ declarableMax) :
    f.encode m = .ok (f.octets m) := by
  rw [encode, lengthField_of_le declarable]
  rfl

theorem encode_of_lt (long : declarableMax < (f.payload m).length) :
    f.encode m = .error (.payloadTooLarge (f.payload m).length declarableMax) := by
  rw [encode, lengthField_of_lt long]
  rfl

theorem encode_eq_ok_iff :
    f.encode m = .ok source ↔ (f.payload m).length ≤ declarableMax ∧ f.octets m = source := by
  by_cases declarable : (f.payload m).length ≤ declarableMax
  · simp [f.encode_of_le declarable, declarable]
  · simp [f.encode_of_lt (Nat.lt_of_not_le declarable), declarable]

/-- What a message is taken for whose header could be read. -/
theorem decode_of_read (hr : f.read source = .ok (h, payload)) :
    f.decode source max =
      if max < (f.declared h).toNat then
        .error (.payloadTooLarge (f.declared h).toNat max)
      else if payload.length = (f.declared h).toNat then .ok (f.message h payload)
      else .error (.lengthMismatch (f.headerSize + (f.declared h).toNat) source.length) := by
  rw [decode, hr]
  by_cases exceeds : max < (f.declared h).toNat
  · simp [bind, Except.bind, checkPayload, exceeds]
  · by_cases whole : payload.length = (f.declared h).toNat
    · simp [bind, Except.bind, checkPayload, exceeds, whole, pure, Except.pure]
    · simp [bind, Except.bind, checkPayload, exceeds, whole, throw, throwThe,
        MonadExceptOf.throw]

theorem decode_of_length_lt (short : source.length < f.headerSize) :
    f.decode source max = .error (.truncatedHeader source.length f.headerSize) := by
  rw [decode, f.read_of_length_lt source short]
  rfl

/-- A byte string that is no shorter than a header begins with one. -/
theorem read_of_length_le (long : f.headerSize ≤ source.length) :
    ∃ h payload, f.read source = .ok (h, payload) ∧
      (f.declared h).toNat = wordAt (f.headerSize - 2) source ∧
      source.length = f.headerSize + payload.length := by
  obtain ⟨h, payload, hr⟩ := f.read_of_length_ge source long
  have hs := f.eq_of_read source h payload hr
  refine ⟨h, payload, hr, ?_, ?_⟩
  · rw [hs, f.declared_last]
  · rw [hs, List.length_append, f.length_bytes]

theorem decode_octets (declarable : (f.payload m).length ≤ declarableMax) (max : Nat) :
    f.decode (f.octets m) max =
      if max < (f.payload m).length then .error (.payloadTooLarge (f.payload m).length max)
      else .ok m := by
  rw [octets, f.decode_of_read (f.read_bytes_append _ _), f.declared_header,
    toNat_lengthField declarable, if_pos rfl, f.message_header]

/-- Only the octets of a message are taken for it. -/
theorem octets_of_decode (decoded : f.decode source max = .ok m) :
    (f.payload m).length ≤ declarableMax ∧ (f.payload m).length ≤ max ∧ f.octets m = source := by
  by_cases short : source.length < f.headerSize
  · rw [f.decode_of_length_lt short] at decoded
    cases decoded
  · obtain ⟨h, payload, hr, _, _⟩ := f.read_of_length_le (Nat.le_of_not_lt short)
    rw [f.decode_of_read hr] at decoded
    split at decoded
    · cases decoded
    · rename_i fits
      split at decoded
      · rename_i whole
        cases decoded
        have bound : (f.declared h).toNat < 65536 := (f.declared h).toNat_lt
        rw [f.octets_message whole, f.payload_message, ← f.eq_of_read _ _ _ hr]
        refine ⟨?_, by omega, rfl⟩
        rw [declarableMax]
        omega
      · cases decoded

theorem decode_eq_ok_iff :
    f.decode source max = .ok m ↔ f.encode m = .ok source ∧ (f.payload m).length ≤ max := by
  rw [encode_eq_ok_iff]
  constructor
  · intro decoded
    obtain ⟨declarable, fits, hs⟩ := f.octets_of_decode decoded
    exact ⟨⟨declarable, hs⟩, fits⟩
  · rintro ⟨⟨declarable, rfl⟩, fits⟩
    rw [f.decode_octets declarable, if_neg (Nat.not_lt.mpr fits)]

end MessageFormat

namespace MessageFormat

variable {μ η : Type} (f : MessageFormat μ η)

def appendTo (m : μ) : Attempt Bytes MessageError Unit := fun buffer =>
  match f.encode m with
  | .ok octets => (.ok (), buffer ++ octets)
  | .error e => (.error e, buffer)

end MessageFormat

/-- Messages are written and read exactly, for `fields` in front of a payload. -/
structure ExactCodec {μ : Type} (headerSize : Nat) (fields : μ → List Nat) (payload : μ → Bytes)
    (wireSize : μ → Nat) (appendTo : μ → Attempt Bytes MessageError Unit)
    (decode : Bytes → Nat → Except MessageError μ) : Prop where
  /-- The octets of a message go behind those of a buffer, and are read back. -/
  appended : ∀ m, (payload m).length ≤ declarableMax → ∀ buffer, ∃ octets,
    appendTo m buffer = (.ok (), buffer ++ octets) ∧ octets.length = wireSize m ∧
      ∀ max, (payload m).length ≤ max → decode octets max = .ok m
  /-- They are the fields, least significant octet first, and the payload. -/
  laidOut : ∀ m octets, appendTo m [] = (.ok (), octets) →
    (∀ i value, (fields m)[i]? = some value → wordAt (2 * i) octets = value) ∧
      octets.drop headerSize = payload m
  /-- A payload that cannot be declared leaves the buffer as it is. -/
  unencodable : ∀ m, declarableMax < (payload m).length → ∀ buffer,
    appendTo m buffer = (.error (.payloadTooLarge (payload m).length declarableMax), buffer)
  /-- Only the octets of a message are taken for it. -/
  decode_iff : ∀ source max m, decode source max = .ok m ↔
    appendTo m [] = (.ok (), source) ∧ (payload m).length ≤ max
  truncated : ∀ source max, source.length < headerSize →
    decode source max = .error (.truncatedHeader source.length headerSize)
  tooLarge : ∀ source max, headerSize ≤ source.length → max < wordAt (headerSize - 2) source →
    decode source max = .error (.payloadTooLarge (wordAt (headerSize - 2) source) max)
  mismatched : ∀ source max, headerSize ≤ source.length → wordAt (headerSize - 2) source ≤ max →
    source.length ≠ headerSize + wordAt (headerSize - 2) source →
    decode source max =
      .error (.lengthMismatch (headerSize + wordAt (headerSize - 2) source) source.length)
  /-- Nothing else is refused. -/
  whole : ∀ source max, headerSize ≤ source.length → wordAt (headerSize - 2) source ≤ max →
    source.length = headerSize + wordAt (headerSize - 2) source →
    ∃ m, decode source max = .ok m

namespace MessageFormat

variable {μ η : Type} (f : MessageFormat μ η) {m : μ} {source octets : Bytes}

theorem appendTo_of_ok (encoded : f.encode m = .ok octets) (buffer : Bytes) :
    f.appendTo m buffer = (.ok (), buffer ++ octets) := by
  rw [appendTo, encoded]

theorem appendTo_nil_iff : f.appendTo m [] = (.ok (), octets) ↔ f.encode m = .ok octets := by
  rw [appendTo]
  cases f.encode m <;> simp

theorem drop_octets (m : μ) : (f.octets m).drop f.headerSize = f.payload m := by
  rw [octets, List.drop_left' (f.length_bytes _)]

/-- What a byte string with a header is taken for, told by its own words. -/
theorem decode_of_length_le (max : Nat) (long : f.headerSize ≤ source.length) :
    ∃ m, f.decode source max =
      if max < wordAt (f.headerSize - 2) source then
        .error (.payloadTooLarge (wordAt (f.headerSize - 2) source) max)
      else if source.length = f.headerSize + wordAt (f.headerSize - 2) source then .ok m
      else .error (.lengthMismatch (f.headerSize + wordAt (f.headerSize - 2) source)
        source.length) := by
  obtain ⟨h, payload, hr, declared, hlen⟩ := f.read_of_length_le long
  refine ⟨f.message h payload, ?_⟩
  rw [f.decode_of_read hr, declared, hlen]
  simp only [Nat.add_left_cancel_iff]

theorem exact (fields : μ → List Nat)
    (laid : ∀ m, (f.payload m).length ≤ declarableMax →
      fields m = (f.words (f.header m (UInt16.ofNat (f.payload m).length))).map UInt16.toNat) :
    ExactCodec f.headerSize fields f.payload (fun m => f.headerSize + (f.payload m).length)
      f.appendTo f.decode where
  appended m declarable buffer := by
    refine ⟨f.octets m, f.appendTo_of_ok (f.encode_of_le declarable) buffer, f.length_octets m, ?_⟩
    intro max fits
    rw [f.decode_octets declarable, if_neg (Nat.not_lt.mpr fits)]
  laidOut m octets appended := by
    obtain ⟨declarable, rfl⟩ := f.encode_eq_ok_iff.mp (f.appendTo_nil_iff.mp appended)
    refine ⟨?_, f.drop_octets m⟩
    intro i value hv
    rw [laid m declarable, List.getElem?_map, Option.map_eq_some_iff] at hv
    obtain ⟨w, hw, rfl⟩ := hv
    rw [octets, f.bytes_eq, wordAt_flatMap hw]
  unencodable m long buffer := by
    rw [appendTo, f.encode_of_lt long]
  decode_iff source max m := by
    rw [f.appendTo_nil_iff, f.decode_eq_ok_iff]
  truncated source max short := f.decode_of_length_lt short
  tooLarge source max long exceeds := by
    obtain ⟨m, hm⟩ := f.decode_of_length_le max long
    rw [hm, if_pos exceeds]
  mismatched source max long fits differs := by
    obtain ⟨m, hm⟩ := f.decode_of_length_le max long
    rw [hm, if_neg (Nat.not_lt.mpr fits), if_neg differs]
  whole source max long fits same := by
    obtain ⟨m, hm⟩ := f.decode_of_length_le max long
    exact ⟨m, by rw [hm, if_neg (Nat.not_lt.mpr fits), if_pos same]⟩

end MessageFormat

namespace Request

theorem encode_eq (r : Request) : r.encode = format.encode r := by
  rw [encode, header, MessageFormat.encode]
  simp only [bind_assoc, pure_bind]
  rfl

theorem appendTo_eq : appendTo = format.appendTo := by
  funext r buffer
  rw [appendTo, encode_eq]
  rfl

theorem decode_eq : decode = format.decode := rfl

/-- The words of a request. -/
def fields (r : Request) : List Nat :=
  [r.classId.toNat, r.index.toNat, r.function.toNat, r.payload.length]

theorem fields_eq (r : Request) (declarable : r.payload.length ≤ declarableMax) :
    r.fields = (format.words (format.header r (UInt16.ofNat r.payload.length))).map
      UInt16.toNat := by
  simp [fields, format, toNat_lengthField declarable]

end Request

namespace Response

theorem encode_eq (r : Response) : r.encode = format.encode r := by
  rw [encode, header, MessageFormat.encode]
  simp only [bind_assoc, pure_bind]
  rfl

theorem appendTo_eq : appendTo = format.appendTo := by
  funext r buffer
  rw [appendTo, encode_eq]
  rfl

theorem decode_eq : decode = format.decode := rfl

/-- The words of a response, a negative code as its complement. -/
def fields (r : Response) : List Nat := [(r.code.toInt % 65536).toNat, r.payload.length]

theorem toNat_code (c : Int16) : c.toUInt16.toNat = (c.toInt % 65536).toNat := by
  have h : c.toInt = (c.toUInt16.toNat : Int).bmod 65536 := BitVec.toInt_eq_toNat_bmod _
  have hmod : (c.toUInt16.toNat : Int).bmod 65536 % ((65536 : Nat) : Int) =
      (c.toUInt16.toNat : Int) % ((65536 : Nat) : Int) := Int.bmod_emod
  have hc := c.toUInt16.toNat_lt
  rw [h]
  omega

theorem fields_eq (r : Response) (declarable : r.payload.length ≤ declarableMax) :
    r.fields = (format.words (format.header r (UInt16.ofNat r.payload.length))).map
      UInt16.toNat := by
  simp [fields, format, toNat_lengthField declarable, toNat_code]

end Response

/-- Requests and responses are written and read exactly. -/
theorem messages_exact :
    ExactCodec requestHeaderSize Request.fields Request.payload Request.wireSize Request.appendTo
      Request.decode ∧
    ExactCodec responseHeaderSize Response.fields Response.payload Response.wireSize
      Response.appendTo Response.decode := by
  rw [Request.appendTo_eq, Request.decode_eq, Response.appendTo_eq, Response.decode_eq]
  exact ⟨Request.format.exact Request.fields Request.fields_eq,
    Response.format.exact Response.fields Response.fields_eq⟩

/-- A response with a negative code. -/
example : Response.appendTo ⟨-2, [7]⟩ [9] = (.ok (), [9, 254, 255, 1, 0, 7]) := rfl

end PeripheralBridge
