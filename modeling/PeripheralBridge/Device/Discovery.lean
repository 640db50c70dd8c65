import PeripheralBridge.Device.Metadata

/-!
# Negotiation and discovery

A device is asked for its payload limits before it is used. If that fails it is reset
once and asked again. Discovery keeps the candidates that pass, in their order. A candidate
that is dropped has still been written to and reset, so what the links act on together is
handed from one candidate to the next.
-/

namespace PeripheralBridge.Device

variable {σ ω : Type}

/-- Ask for the payload limits and use them from now on. -/
def negotiate (link : Link σ) : Attempt σ CallError PayloadLimits := do
  let request ← requestLimit link
  let response ← responseLimit link
  let limits : PayloadLimits := ⟨request, response⟩
  if limits.Sufficient then
    Attempt.update (link.setLimits limits)
    return limits
  else
    throw (.insufficientLimits limits)

/-- Negotiate, and after a failure reset the device and negotiate once more. -/
def negotiateWithReset (link : Link σ) : Attempt σ CallError PayloadLimits := fun s =>
  match negotiate link s with
  | (.ok limits, s) => (.ok limits, s)
  | (.error _, s) =>
    match reset link s with
    | (.ok (), s) => negotiate link s
    | (.error e, s) => (.error e, s)

/-- Negotiate with the candidates that could be opened, one after the other, and keep those that
pass. What the links share is handed on, whether a candidate is kept or dropped. -/
def discoverIn (link : Link (σ × ω)) : List (Except LinkError σ) → ω → List σ × ω
  | [], w => ([], w)
  | .error _ :: rest, w => discoverIn link rest w
  | .ok s :: rest, w =>
    match negotiateWithReset link (s, w) with
    | (.ok _, s, w) =>
      let (devices, w) := discoverIn link rest w
      (s :: devices, w)
    | (.error _, _, w) => discoverIn link rest w

/-- The devices among candidates whose links share nothing. -/
def discover (link : Link σ) (candidates : List (Except LinkError σ)) : List σ :=
  (discoverIn link.alone candidates ()).1

end PeripheralBridge.Device
