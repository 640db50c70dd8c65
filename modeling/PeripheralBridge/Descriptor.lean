/-!
# Finding a device on the bus

A device shows itself as a vendor-specific interface, in its first alternate setting,
with exactly two bulk endpoints of opposite directions. Its interface string confirms
the match.
-/

namespace PeripheralBridge

def interfaceString : String := "BUSLINK USB"

def vendorClass : Nat := 0xFF

inductive Direction where
  | toHost
  | toDevice
  deriving DecidableEq, Repr

structure EndpointDescriptor where
  address : Nat
  direction : Direction
  bulk : Bool
  packetSize : Nat
  deriving DecidableEq, Repr

structure InterfaceDescriptor where
  number : Nat
  alternateSetting : Nat
  classCode : Nat
  endpoints : List EndpointDescriptor
  deriving DecidableEq, Repr

/-- The endpoints through which a matching interface is used. -/
structure BulkPair where
  interface : Nat
  toDevice : Nat
  toHost : Nat
  packetSize : Nat
  deriving DecidableEq, Repr

namespace InterfaceDescriptor

def pairOf? (number : Nat) (a b : EndpointDescriptor) : Option BulkPair :=
  if a.bulk ∧ b.bulk then
    match a.direction, b.direction with
    | .toDevice, .toHost => some ⟨number, a.address, b.address, a.packetSize⟩
    | .toHost, .toDevice => some ⟨number, b.address, a.address, b.packetSize⟩
    | _, _ => none
  else none

/-- The endpoints of a device, none where the interface is no device. -/
def bulkPair? (i : InterfaceDescriptor) : Option BulkPair :=
  if i.alternateSetting = 0 ∧ i.classCode = vendorClass then
    match i.endpoints with
    | [a, b] => pairOf? i.number a b
    | _ => none
  else none

end InterfaceDescriptor

def isDeviceString (s : String) : Bool := s == interfaceString

end PeripheralBridge
