/-!
# Payload limits

A device advertises how many payload bytes it takes in a request and how many it may
answer with. Every device grants at least the protocol minimum in both directions.
-/

namespace PeripheralBridge

/-- Payload bytes every device must accept and may always send. -/
def minimumPayload : Nat := 512

structure PayloadLimits where
  request : Nat
  response : Nat
  deriving DecidableEq, Repr

namespace PayloadLimits

/-- The limits in force until a device has been asked for its own. -/
def protocolMinimum : PayloadLimits := ⟨minimumPayload, minimumPayload⟩

instance : Inhabited PayloadLimits := ⟨protocolMinimum⟩

/-- Neither direction is below the protocol minimum. -/
def Sufficient (l : PayloadLimits) : Prop :=
  minimumPayload ≤ l.request ∧ minimumPayload ≤ l.response

instance (l : PayloadLimits) : Decidable l.Sufficient :=
  inferInstanceAs (Decidable (_ ∧ _))

end PayloadLimits

end PeripheralBridge
