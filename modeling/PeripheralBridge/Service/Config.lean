import PeripheralBridge.Duration
import PeripheralBridge.Message.Basic
import PeripheralBridge.Peripheral.Registry

/-!
# The configuration of a device

One set of settings is used by the registry and by every interface of a device, so that
the limits it advertises are the limits it enforces.
-/

namespace PeripheralBridge

structure DeviceConfig where
  serial : String := "buslink-sim"
  /-- The silence allowed between two octets of one message on a byte stream. -/
  byteTimeout : Duration := .ofMilliseconds 10
  /-- Octets a receive queue holds: one request of the least size limit. -/
  queueCapacity : Nat := requestHeaderSize + minimumPayload
  limits : PayloadLimits := .protocolMinimum
  deriving DecidableEq, Repr

def RegistryPlan.ofConfig {ω : Type} (c : DeviceConfig) : RegistryPlan ω :=
  (RegistryPlan.ofSerial c.serial).withLimits c.limits

end PeripheralBridge
