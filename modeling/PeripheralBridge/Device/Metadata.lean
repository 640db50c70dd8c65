import PeripheralBridge.Device.Call
import PeripheralBridge.PeripheralClass
import PeripheralBridge.Text.Utf8

/-!
# What a device says about itself

The metadata class answers with its serial string, the instance counts of the other
classes and the payload limits. Answers of another shape are failures of the call.
-/

namespace PeripheralBridge.Device

variable {σ : Type}

/-- Call a function of the metadata class, which has one instance. -/
def metadata (link : Link σ) (function : MetadataFunction) (payload : Bytes) :
    Attempt σ CallError Bytes :=
  call link ⟨PeripheralClass.metadata.id, 0, function.id⟩ payload

def readWord (function : String) : Bytes → Except CallError UInt16
  | [low, high] => .ok (word low high)
  | payload => .error (.unexpectedResponse function
      ("expected 2 bytes, got " ++ toString payload.length))

def readText (function : String) (payload : Bytes) : Except CallError String :=
  match Utf8.decode payload with
  | .ok characters => .ok (String.ofList characters)
  | .error fault => .error (.unexpectedResponse function fault.message)

def serial (link : Link σ) : Attempt σ CallError String := do
  let payload ← metadata link .serial []
  Attempt.ofExcept (readText "serial" payload)

def instanceCount (link : Link σ) (classId : UInt16) : Attempt σ CallError UInt16 := do
  let payload ← metadata link .instanceCount (wordBytes classId)
  Attempt.ofExcept (readWord "num_inst" payload)

def echo (link : Link σ) (data : Bytes) : Attempt σ CallError Bytes :=
  metadata link .echo data

def requestLimit (link : Link σ) : Attempt σ CallError Nat := do
  let payload ← metadata link .requestLimit []
  let limit ← Attempt.ofExcept (readWord "req_max_size" payload)
  return limit.toNat

def responseLimit (link : Link σ) : Attempt σ CallError Nat := do
  let payload ← metadata link .responseLimit []
  let limit ← Attempt.ofExcept (readWord "resp_max_size" payload)
  return limit.toNat

/-- Call what the application has installed as its own metadata function. -/
def custom (link : Link σ) (payload : Bytes) : Attempt σ CallError Bytes :=
  metadata link .custom payload

end PeripheralBridge.Device
