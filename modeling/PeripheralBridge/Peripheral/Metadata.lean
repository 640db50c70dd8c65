import PeripheralBridge.Peripheral.Basic
import PeripheralBridge.PayloadLimits
import PeripheralBridge.PeripheralClass
import PeripheralBridge.Text.Utf8

/-!
# The metadata class

Class zero has one instance and answers what the device is: its serial string, how many
instances each class has, and its payload limits. A limit that does not fit a word is
given as the largest word.
-/

namespace PeripheralBridge.Metadata

variable {ω : Type}

/-- A handler that depends on the request payload alone. -/
def answering (f : Bytes → Outcome) : Handler ω := fun _ request w => (f request, w)

/-- The answer to an empty request; any other has the wrong shape. -/
def toEmpty (answer : Bytes) : Bytes → Outcome
  | [] => .reply answer
  | _ => .fail .invalidArgsFormat

/-- The word closest to a size. -/
def sizeWord (size : Nat) : UInt16 := UInt16.ofNat (min size 65535)

/-- The instance count of the class a request names. -/
def countAnswer (counts : List UInt16) : Bytes → Outcome
  | [low, high] =>
    match counts[(word low high).toNat]? with
    | some count => .reply (wordBytes count)
    | none => .fail .notSupported
  | _ => .fail .invalidArgsFormat

/-- The metadata class of a device with the given instance counts. -/
def peripheral (serial : String) (limits : PayloadLimits) (counts : List UInt16)
    (custom : Option (Handler ω)) : Peripheral ω where
  name := PeripheralClass.metadata.name
  instances := 1
  functions := [
    answering (toEmpty (Utf8.encode serial)),
    answering (countAnswer counts),
    answering .reply,
    answering (toEmpty (wordBytes (sizeWord limits.request))),
    answering (toEmpty (wordBytes (sizeWord limits.response))),
    custom.getD (answering fun _ => .fail .notSupported)]

end PeripheralBridge.Metadata
