import PeripheralBridge.Proofs.LockSharing
import PeripheralBridge.Service.Config

/-!
# What a device tells of itself

A registry that was built from a configuration has the limits of the configuration, and the
metadata class in front, whatever was placed in the other classes. So a device that serves it
tells these limits, and answers an echo that is not over them.
-/

namespace PeripheralBridge

variable {ω : Type} {config : DeviceConfig} {r : Registry ω}

namespace RegistryPlan

/-- A plan that was begun with a configuration. Its limits are not given anew. -/
inductive From (config : DeviceConfig) : RegistryPlan ω → Prop where
  | start : From config (ofConfig config)
  | custom (handler : Handler ω) {p : RegistryPlan ω} (begun : From config p) :
      From config (p.withCustom handler)
  | place (c : PeripheralClass) (peripheral : Peripheral ω) {p : RegistryPlan ω}
      (begun : From config p) : From config (p.place c peripheral)

theorem From.limits_eq {p : RegistryPlan ω} (h : p.From config) : p.limits = config.limits := by
  induction h with
  | start => rfl
  | custom handler _ ih => exact ih
  | place c peripheral _ ih =>
    rw [RegistryPlan.place]
    split <;> exact ih

end RegistryPlan

def Registry.BuiltFrom (config : DeviceConfig) (r : Registry ω) : Prop :=
  ∃ p : RegistryPlan ω, p.From config ∧ p.build = .ok r

/-- The metadata class comes first, whatever was placed. -/
theorem RegistryPlan.metadata_of_build {p : RegistryPlan ω} (built : p.build = .ok r) :
    r.limits = p.limits ∧ ∃ counts, r.get? PeripheralClass.metadata.id =
        some (Metadata.peripheral p.serial p.limits counts p.custom) := by
  rw [build] at built
  split at built
  · cases built
  · cases built
    exact ⟨rfl, _, rfl⟩

def MetadataFunction.request (function : MetadataFunction) (payload : Bytes) : Request :=
  ⟨⟨PeripheralClass.metadata.id, 0, function.id⟩, payload⟩

namespace Dispatcher

/-- A dispatcher keeps to some limits and tells them. -/
structure Advertises (d : Dispatcher ω) (limits : PayloadLimits) : Prop where
  limits_eq : d.registry.limits = limits
  tells_request : ∀ w, d.dispatch (MetadataFunction.requestLimit.request []) w =
    (respond limits.response (.reply (wordBytes (Metadata.sizeWord limits.request))), w)
  tells_response : ∀ w, d.dispatch (MetadataFunction.responseLimit.request []) w =
    (respond limits.response (.reply (wordBytes (Metadata.sizeWord limits.response))), w)
  echoes : ∀ data w, d.dispatch (MetadataFunction.echo.request data) w =
    (respond limits.response (.reply data), w)

theorem respond_reply_of_le {limit : Nat} {data : Bytes} (fits : data.length ≤ limit) :
    respond limit (.reply data) = .success data :=
  if_neg (Nat.not_lt.mpr fits)

theorem respond_reply_of_lt {limit : Nat} {data : Bytes} (long : limit < data.length) :
    respond limit (.reply data) = .ofFault .peripheral :=
  if_pos long

theorem advertises_of_builtFrom (built : r.BuiltFrom config) :
    (ofRegistry r).Advertises config.limits := by
  obtain ⟨p, begun, built⟩ := built
  obtain ⟨limits, counts, first⟩ := RegistryPlan.metadata_of_build built
  rw [begun.limits_eq] at limits first
  have found : ∀ (function : MetadataFunction) payload,
      handler? r (function.request payload).toAddress =
        (Metadata.peripheral p.serial config.limits counts p.custom).functions[
          function.id.toNat]? := by
    intro function payload
    rw [handler?, MetadataFunction.request, first]
    rfl
  refine ⟨limits, fun w => ?_, fun w => ?_, fun data w => ?_⟩
  · rw [dispatch_of_handler? (found .requestLimit []), limits]
    rfl
  · rw [dispatch_of_handler? (found .responseLimit []), limits]
    rfl
  · rw [dispatch_of_handler? (found .echo data), limits]
    rfl

end Dispatcher

end PeripheralBridge
