import PeripheralBridge.Service.Config

/-!
# A bank of pins

The demonstration device has four output pins. Function zero sets the level of a pin,
function one reads it back.
-/

namespace PeripheralBridge

abbrev Pins := List UInt8

namespace GpioBank

def pinCount : UInt16 := 4

/-- Every pin is low at first. -/
def initial : Pins := List.replicate pinCount.toNat 0

def setLevel (index : UInt16) : Bytes → Pins → Outcome × Pins
  | [level], pins =>
    if 1 < level then (.fail .invalidArgs, pins) else (.reply [], pins.set index.toNat level)
  | _, pins => (.fail .invalidArgsFormat, pins)

def getLevel (index : UInt16) : Bytes → Pins → Outcome
  | [], pins => .reply [pins[index.toNat]?.getD 0]
  | _, _ => .fail .invalidArgsFormat

variable {ω : Type}

/-- The bank, when its pins are kept in a part of a larger world. -/
def peripheral (get : ω → Pins) (set : Pins → ω → ω) : Peripheral ω where
  name := PeripheralClass.gpio.name
  instances := pinCount
  functions := [
    fun index request w =>
      let (outcome, pins) := setLevel index request (get w)
      (outcome, set pins w),
    fun index request w => (getLevel index request (get w), w)]

/-- The plan of a device with nothing but the bank. -/
def plan (config : DeviceConfig) (get : ω → Pins) (set : Pins → ω → ω) : RegistryPlan ω :=
  (RegistryPlan.ofConfig config).place .gpio (peripheral get set)

end GpioBank

end PeripheralBridge
