import PeripheralBridge.Bytes
import PeripheralBridge.DeviceFault

/-!
# Requests, responses and their headers

A request is an address (class, instance, function) and a payload, a response a status
code and a payload. On a link each is preceded by a fixed header that ends in the
payload length: eight octets for a request, four for a response.
-/

namespace PeripheralBridge

/-- Why a byte string is no acceptable message. -/
inductive MessageError where
  | truncatedHeader (length need : Nat)
  | payloadTooLarge (size max : Nat)
  | lengthMismatch (expected actual : Nat)
  deriving DecidableEq, Repr

namespace MessageError

def message : MessageError → String
  | truncatedHeader length need =>
    "truncated header (" ++ toString length ++ " bytes, need " ++ toString need ++ ")"
  | payloadTooLarge size max =>
    "payload too large (" ++ toString size ++ " bytes, max " ++ toString max ++ ")"
  | lengthMismatch expected actual =>
    "length mismatch (received " ++ toString actual ++ " bytes, header declares "
      ++ toString expected ++ ")"

end MessageError

def requestHeaderSize : Nat := 8

def responseHeaderSize : Nat := 4

/-- The largest payload a header can declare. -/
def declarableMax : Nat := 65535

/-- One function of one instance of a peripheral class. -/
structure Address where
  classId : UInt16
  index : UInt16
  function : UInt16
  deriving DecidableEq, Repr, Inhabited

structure RequestHeader extends Address where
  payloadLength : UInt16
  deriving DecidableEq, Repr, Inhabited

structure ResponseHeader where
  code : Int16
  payloadLength : UInt16
  deriving DecidableEq, Repr, Inhabited

structure Request extends Address where
  payload : Bytes
  deriving DecidableEq, Repr, Inhabited

structure Response where
  code : Int16
  payload : Bytes
  deriving DecidableEq, Repr, Inhabited

namespace RequestHeader

def messageLength (h : RequestHeader) : Nat := requestHeaderSize + h.payloadLength.toNat

end RequestHeader

namespace ResponseHeader

def messageLength (h : ResponseHeader) : Nat := responseHeaderSize + h.payloadLength.toNat

end ResponseHeader

namespace Request

def wireSize (r : Request) : Nat := requestHeaderSize + r.payload.length

end Request

namespace Response

def wireSize (r : Response) : Nat := responseHeaderSize + r.payload.length

def success (payload : Bytes) : Response := ⟨successCode, payload⟩

/-- The response that reports a fault. It never has a payload. -/
def ofFault (f : DeviceFault) : Response := ⟨f.code, []⟩

/-- The fault a response reports, none when it succeeded. -/
def fault? (r : Response) : Option DeviceFault := DeviceFault.ofCode? r.code

end Response

end PeripheralBridge
