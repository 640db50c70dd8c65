import PeripheralBridge.Attempt
import PeripheralBridge.Link.Error
import PeripheralBridge.PayloadLimits

/-!
# Links

A link carries one request to a device and one response back. It is described by what
it does to a state: two links of one state type can be used side by side, and a
statement about every link is a statement about every such description.
-/

namespace PeripheralBridge

/-- How a link marks the ends of messages: by packets or not at all. -/
inductive LinkKind where
  | packet
  | stream
  deriving DecidableEq, Repr

namespace LinkKind

def name : LinkKind → String
  | packet => "packet"
  | stream => "stream"

end LinkKind

/-- The time allowed for a blocking step unless configured otherwise. -/
def defaultTimeout : Duration := .ofMilliseconds 2000

structure LinkConfig where
  /-- Bounds each blocking step. On a stream it bounds silence, not the whole exchange. -/
  timeout : Duration := defaultTimeout
  /-- Payload limits until the device has been asked for its own. -/
  limits : PayloadLimits := .protocolMinimum
  deriving DecidableEq, Repr

structure Link (σ : Type) where
  kind : σ → LinkKind
  limits : σ → PayloadLimits
  setLimits : PayloadLimits → σ → σ
  /-- Send a header and its payload, and wait for the response. -/
  exchange : RequestHeader → Bytes → Attempt σ LinkError Response
  /-- Reset the device, where the link can. -/
  reset : Attempt σ LinkError Unit

namespace Link

variable {σ τ : Type}

/-- The link to a part of a larger state. -/
def onPart (get : τ → σ) (set : σ → τ → τ) (link : Link σ) : Link τ where
  kind t := link.kind (get t)
  limits t := link.limits (get t)
  setLimits l t := set (link.setLimits l (get t)) t
  exchange header payload := (link.exchange header payload).onPart get set
  reset := link.reset.onPart get set

/-- The link beside nothing else. -/
def alone (link : Link σ) : Link (σ × Unit) := link.onPart Prod.fst fun s _ => (s, ())

/-- The link by its name, where its state is kept among others. -/
def named {ι : Type} [DecidableEq ι] (link : Link σ) : Link (ι × (ι → σ)) :=
  link.onPart (fun x => x.2 x.1) fun s x => (x.1, fun i => if i = x.1 then s else x.2 i)

/-- Two links of different state types as one, so that states of either type can stand in
one list. -/
def sum (a : Link σ) (b : Link τ) : Link (σ ⊕ τ) where
  kind
    | .inl s => a.kind s
    | .inr t => b.kind t
  limits
    | .inl s => a.limits s
    | .inr t => b.limits t
  setLimits l
    | .inl s => .inl (a.setLimits l s)
    | .inr t => .inr (b.setLimits l t)
  exchange header payload
    | .inl s => (a.exchange header payload s).map id .inl
    | .inr t => (b.exchange header payload t).map id .inr
  reset
    | .inl s => (a.reset s).map id .inl
    | .inr t => (b.reset t).map id .inr

end Link

end PeripheralBridge
