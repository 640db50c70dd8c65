import PeripheralBridge.Link.Basic

/-!
# Calling a device

A call sends one request and returns the payload of its response. A request the device
would not take is refused before anything reaches the link. Nothing is ever repeated.
-/

namespace PeripheralBridge

inductive CallError where
  /-- The link failed. -/
  | link (error : LinkError)
  /-- The request payload is too long for the device. Nothing was sent. -/
  | requestTooLarge (size max : Nat)
  /-- The response payload is longer than the device promised. -/
  | responseTooLarge (size max : Nat)
  /-- The device reported a fault. -/
  | device (fault : DeviceFault)
  /-- A metadata function answered with something else than asked for. -/
  | unexpectedResponse (function detail : String)
  /-- The device advertises limits below the protocol minimum. -/
  | insufficientLimits (limits : PayloadLimits)
  deriving DecidableEq, Repr

namespace CallError

def message : CallError → String
  | link error => error.message
  | requestTooLarge size max =>
    "request payload of " ++ toString size ++ " bytes exceeds device limit of " ++ toString max
  | responseTooLarge size max =>
    "response payload of " ++ toString size ++ " bytes exceeds device limit of " ++ toString max
  | device fault =>
    "device returned " ++ fault.message ++ " (code " ++ toString fault.code.toInt ++ ")"
  | unexpectedResponse function detail => "unexpected " ++ function ++ " response: " ++ detail
  | insufficientLimits limits =>
    "device limits " ++ toString limits.request ++ "/" ++ toString limits.response
      ++ " are below the protocol minimum"

/-- The status code, where the device itself reported the failure. -/
def statusCode? : CallError → Option Int16
  | device fault => some fault.code
  | _ => none

def isTimeout : CallError → Bool
  | link error => error.isTimeout
  | _ => false

end CallError

namespace Device

variable {σ : Type}

def call (link : Link σ) (address : Address) (payload : Bytes) : Attempt σ CallError Bytes := do
  let limits ← Attempt.read link.limits
  if limits.request < payload.length then
    throw (.requestTooLarge payload.length limits.request)
  if declarableMax < payload.length then
    throw (.requestTooLarge payload.length declarableMax)
  let header : RequestHeader := ⟨address, UInt16.ofNat payload.length⟩
  let response ← (link.exchange header payload).mapError .link
  if limits.response < response.payload.length then
    throw (.responseTooLarge response.payload.length limits.response)
  match response.fault? with
  | some fault => throw (.device fault)
  | none => return response.payload

def describe (link : Link σ) (s : σ) : String :=
  "Device \x7b transport: \"" ++ (link.kind s).name ++ "\", .. \x7d"

def reset (link : Link σ) : Attempt σ CallError Unit := link.reset.mapError .link

end Device

end PeripheralBridge
