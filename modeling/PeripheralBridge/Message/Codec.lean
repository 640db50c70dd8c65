import PeripheralBridge.Attempt
import PeripheralBridge.Message.Basic

/-!
# Messages as octets

Headers are written as little-endian words. `read` takes a header off the front of a
byte string and yields what follows it; `decode` accepts exactly one whole message.
A message is refused for the first of three reasons that applies: the header is cut
short, the declared payload exceeds the limit, or the length differs from the declared
one.
-/

namespace PeripheralBridge

def checkPayload (size max : Nat) : Except MessageError Unit :=
  if max < size then .error (.payloadTooLarge size max) else .ok ()

def lengthField (size : Nat) : Except MessageError UInt16 :=
  if declarableMax < size then .error (.payloadTooLarge size declarableMax)
  else .ok (UInt16.ofNat size)

namespace RequestHeader

def bytes (h : RequestHeader) : Bytes :=
  wordBytes h.classId ++ wordBytes h.index ++ wordBytes h.function ++ wordBytes h.payloadLength

/-- Take a header off the front. -/
def read : Bytes → Except MessageError (RequestHeader × Bytes)
  | c₀ :: c₁ :: i₀ :: i₁ :: f₀ :: f₁ :: l₀ :: l₁ :: rest =>
    .ok (⟨⟨word c₀ c₁, word i₀ i₁, word f₀ f₁⟩, word l₀ l₁⟩, rest)
  | short => .error (.truncatedHeader short.length requestHeaderSize)

theorem length_bytes (h : RequestHeader) : h.bytes.length = requestHeaderSize := rfl

theorem read_bytes_append (h : RequestHeader) (rest : Bytes) :
    read (h.bytes ++ rest) = .ok (h, rest) := by
  simp only [bytes, wordBytes, List.cons_append, List.nil_append, read, word_wordBytes]

theorem eq_of_read {source rest : Bytes} {h : RequestHeader} (hr : read source = .ok (h, rest)) :
    source = h.bytes ++ rest := by
  unfold read at hr
  split at hr
  · injection hr with hr
    injection hr with hh hrest
    subst hh hrest
    simp only [bytes, wordBytes_word, List.cons_append, List.nil_append]
  · exact absurd hr (by simp)

theorem read_of_length_lt {source : Bytes} (hs : source.length < requestHeaderSize) :
    read source = .error (.truncatedHeader source.length requestHeaderSize) := by
  unfold read
  split
  · simp only [List.length_cons, requestHeaderSize] at hs
    omega
  · rfl

end RequestHeader

namespace ResponseHeader

def bytes (h : ResponseHeader) : Bytes :=
  wordBytes h.code.toUInt16 ++ wordBytes h.payloadLength

/-- Take a header off the front. -/
def read : Bytes → Except MessageError (ResponseHeader × Bytes)
  | c₀ :: c₁ :: l₀ :: l₁ :: rest => .ok (⟨(word c₀ c₁).toInt16, word l₀ l₁⟩, rest)
  | short => .error (.truncatedHeader short.length responseHeaderSize)

theorem length_bytes (h : ResponseHeader) : h.bytes.length = responseHeaderSize := rfl

theorem read_bytes_append (h : ResponseHeader) (rest : Bytes) :
    read (h.bytes ++ rest) = .ok (h, rest) := by
  simp only [bytes, wordBytes, List.cons_append, List.nil_append, read, word_wordBytes,
    Int16.toInt16_toUInt16]

theorem eq_of_read {source rest : Bytes} {h : ResponseHeader} (hr : read source = .ok (h, rest)) :
    source = h.bytes ++ rest := by
  unfold read at hr
  split at hr
  · injection hr with hr
    injection hr with hh hrest
    subst hh hrest
    simp only [bytes, UInt16.toUInt16_toInt16, wordBytes_word, List.cons_append, List.nil_append]
  · exact absurd hr (by simp)

theorem read_of_length_lt {source : Bytes} (hs : source.length < responseHeaderSize) :
    read source = .error (.truncatedHeader source.length responseHeaderSize) := by
  unfold read
  split
  · simp only [List.length_cons, responseHeaderSize] at hs
    omega
  · rfl

end ResponseHeader

namespace Request

def header (r : Request) : Except MessageError RequestHeader := do
  let length ← lengthField r.payload.length
  return ⟨r.toAddress, length⟩

/-- The octets of a request, unless its payload is too long to be declared. -/
def encode (r : Request) : Except MessageError Bytes := do
  let header ← r.header
  return header.bytes ++ r.payload

def appendTo (r : Request) : Attempt Bytes MessageError Unit := fun buffer =>
  match r.encode with
  | .ok message => (.ok (), buffer ++ message)
  | .error e => (.error e, buffer)

/-- The request that `source` is, given that its payload may have `max` octets. -/
def decode (source : Bytes) (max : Nat) : Except MessageError Request := do
  let (header, payload) ← RequestHeader.read source
  checkPayload header.payloadLength.toNat max
  if payload.length = header.payloadLength.toNat then
    return ⟨header.toAddress, payload⟩
  else
    throw (.lengthMismatch header.messageLength source.length)

end Request

namespace Response

def header (r : Response) : Except MessageError ResponseHeader := do
  let length ← lengthField r.payload.length
  return ⟨r.code, length⟩

/-- The octets of a response, unless its payload is too long to be declared. -/
def encode (r : Response) : Except MessageError Bytes := do
  let header ← r.header
  return header.bytes ++ r.payload

def appendTo (r : Response) : Attempt Bytes MessageError Unit := fun buffer =>
  match r.encode with
  | .ok message => (.ok (), buffer ++ message)
  | .error e => (.error e, buffer)

/-- The response that `source` is, given that its payload may have `max` octets. -/
def decode (source : Bytes) (max : Nat) : Except MessageError Response := do
  let (header, payload) ← ResponseHeader.read source
  checkPayload header.payloadLength.toNat max
  if payload.length = header.payloadLength.toNat then
    return ⟨header.code, payload⟩
  else
    throw (.lengthMismatch header.messageLength source.length)

end Response

end PeripheralBridge
