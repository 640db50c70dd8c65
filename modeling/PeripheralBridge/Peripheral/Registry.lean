import PeripheralBridge.Peripheral.Metadata
import PeripheralBridge.Text.Quoted

/-!
# The registry

A registry maps class numbers to peripherals and is fixed once it is built. A plan
collects the peripherals first: the last one placed in a class stays, a class without
one is vacant, and the metadata class is not to be placed.
-/

namespace PeripheralBridge

inductive BootError where
  /-- An instance could not be brought up. -/
  | peripheralInit (name : String) (index : UInt16) (fault : DeviceFault)
  /-- The metadata class is built in. -/
  | reservedClass (id : UInt16)
  deriving DecidableEq, Repr

namespace BootError

def message : BootError → String
  | peripheralInit name index fault =>
    "failed to initialise " ++ name ++ "[" ++ toString index.toNat ++ "]: " ++ fault.message
  | reservedClass id => "peripheral class " ++ toString id.toNat ++ " is reserved"

end BootError

structure Registry (ω : Type) where
  /-- The classes in the order of their numbers. -/
  classes : List (Peripheral ω)
  limits : PayloadLimits

namespace Registry

variable {ω : Type}

def get? (r : Registry ω) (classId : UInt16) : Option (Peripheral ω) :=
  r.classes[classId.toNat]?

/-- A class as it is listed: number, name, instance count. -/
def listing (id : Nat) (p : Peripheral ω) : String :=
  "(" ++ toString id ++ ", " ++ Quoted.text p.name ++ ", " ++ toString p.instances.toNat ++ ")"

/-- All classes as they are listed. -/
def describe (r : Registry ω) : String :=
  "[" ++ String.intercalate ", " (r.classes.mapIdx listing) ++ "]"

end Registry

structure RegistryPlan (ω : Type) where
  serial : String
  limits : PayloadLimits := .protocolMinimum
  /-- What answers the application's own metadata function. -/
  custom : Option (Handler ω) := none
  slots : PeripheralClass → Option (Peripheral ω) := fun _ => none
  /-- Something was placed in the metadata class. -/
  reservedPlaced : Bool := false

namespace RegistryPlan

variable {ω : Type}

def ofSerial (serial : String) : RegistryPlan ω := { serial }

def withLimits (limits : PayloadLimits) (p : RegistryPlan ω) : RegistryPlan ω :=
  { p with limits }

def withCustom (handler : Handler ω) (p : RegistryPlan ω) : RegistryPlan ω :=
  { p with custom := some handler }

/-- Place a peripheral in a class, in the stead of any earlier one. -/
def place (c : PeripheralClass) (peripheral : Peripheral ω) (p : RegistryPlan ω) :
    RegistryPlan ω :=
  if c = .metadata then { p with reservedPlaced := true }
  else { p with slots := fun d => if d = c then some peripheral else p.slots d }

/-- The peripheral of a class, a vacant one where none was placed. -/
def occupant (p : RegistryPlan ω) (c : PeripheralClass) : Peripheral ω :=
  (p.slots c).getD (.vacant c.name)

/-- The classes of a plan with the metadata class in front, which tells how many instances
each class has. -/
def assemble (p : RegistryPlan ω) : Registry ω :=
  let placed := (PeripheralClass.all.drop 1).map p.occupant
  let counts := 1 :: placed.map (·.instances)
  ⟨Metadata.peripheral p.serial p.limits counts p.custom :: placed, p.limits⟩

def build (p : RegistryPlan ω) : Except BootError (Registry ω) :=
  if p.reservedPlaced then .error (.reservedClass PeripheralClass.metadata.id)
  else .ok p.assemble

end RegistryPlan

end PeripheralBridge
