import PeripheralBridge.Attempt
import PeripheralBridge.Bytes
import PeripheralBridge.DeviceFault

/-!
# Peripherals and their handlers

A peripheral class has numbered instances and a table of functions. Whatever its
handlers remember between calls is part of one world, which every handler of a device
may read and change.
-/

namespace PeripheralBridge

inductive Ending where
  | finished
  | failed (fault : DeviceFault)
  /-- It stopped half-way, for a reason of its own. -/
  | crashed
  deriving DecidableEq, Repr

structure Outcome where
  written : Bytes
  ending : Ending
  deriving DecidableEq, Repr

namespace Outcome

def reply (written : Bytes) : Outcome := ⟨written, .finished⟩

def fail (fault : DeviceFault) : Outcome := ⟨[], .failed fault⟩

end Outcome

/-- The code behind one function: an instance and a request payload make an outcome. -/
abbrev Handler (ω : Type) := UInt16 → Bytes → ω → Outcome × ω

/-- The physical controller behind an instance. -/
abbrev ControllerId := UInt32

structure Peripheral (ω : Type) where
  name : String
  instances : UInt16
  /-- Bring one instance up at boot. -/
  init : UInt16 → Attempt ω DeviceFault Unit := fun _ => pure ()
  /-- The controller behind an instance, where instances may share one. -/
  controller : UInt16 → Option ControllerId := fun _ => none
  functions : List (Handler ω)

namespace Peripheral

variable {ω : Type}

def indices (p : Peripheral ω) : List UInt16 :=
  (List.range p.instances.toNat).map UInt16.ofNat

/-- A class with nothing behind it. -/
def vacant (name : String) : Peripheral ω := { name, instances := 0, functions := [] }

end Peripheral

end PeripheralBridge
