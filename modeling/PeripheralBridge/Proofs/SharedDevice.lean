import Mathlib.Logic.Function.Basic
import PeripheralBridge.Proofs.LinkRecord
import PeripheralBridge.Proofs.Transparency

/-!
# Several links to one device

A device can be reached over any number of simulated links, and what its handlers remember is the
same for all of them. Each call is made over one link and served in the world that the call before
it has left, over whichever link that was. As long as requests fit, a call comes to what its request
comes to at the dispatcher, and all the links stay ready for more.
-/

namespace PeripheralBridge

variable {σ τ ι ω : Type}

namespace Link

theorem sum_alike_left (a : Link σ) (b : Link τ) :
    Alike (fun s t => s = Sum.inl t) (a.sum b) a where
  limits := by
    rintro _ s rfl
    rfl
  setLimits := by
    rintro limits _ s rfl
    rfl
  exchange _ _ := by
    rintro _ s rfl
    exact ⟨rfl, rfl⟩
  reset := by
    rintro _ s rfl
    exact ⟨rfl, rfl⟩

theorem sum_alike_right (a : Link σ) (b : Link τ) :
    Alike (fun s t => s = Sum.inr t) (a.sum b) b where
  limits := by
    rintro _ s rfl
    rfl
  setLimits := by
    rintro limits _ s rfl
    rfl
  exchange _ _ := by
    rintro _ s rfl
    exact ⟨rfl, rfl⟩
  reset := by
    rintro _ s rfl
    exact ⟨rfl, rfl⟩

end Link

namespace Device

variable (a : Link σ) (b : Link τ) (address : Address) (payload : Bytes)

theorem call_sum_inl (s : σ) : call (a.sum b) address payload (.inl s) =
    ((call a address payload s).1, .inl (call a address payload s).2) := by
  obtain ⟨came, left⟩ := call_alike (Link.sum_alike_left a b) address payload (.inl s) s rfl
  exact Prod.ext came left

theorem call_sum_inr (s : τ) : call (a.sum b) address payload (.inr s) =
    ((call b address payload s).1, .inr (call b address payload s).2) := by
  obtain ⟨came, left⟩ := call_alike (Link.sum_alike_right a b) address payload (.inr s) s rfl
  exact Prod.ext came left

end Device

/-- A request payload that a caller with these limits may send and the device takes. -/
structure Fits (limits : PayloadLimits) (config : DeviceConfig) (payload : Bytes) : Prop where
  sendable : payload.length ≤ limits.request
  declarable : payload.length ≤ declarableMax
  accepted : payload.length ≤ config.limits.request
  /-- A receive queue has room for the whole request. -/
  queued : requestHeaderSize + payload.length ≤ config.queueCapacity

variable {d : Dispatcher ω} {config : DeviceConfig} {host : LinkConfig} {limits : PayloadLimits}
  {payload : Bytes} {w : ω}

theorem Passage.call_of_admitted {p : Passage} (sendable : payload.length ≤ p.limits.request)
    (declarable : payload.length ≤ declarableMax) (admitted : p.admits payload.length = true)
    (address : Address) (w : ω) :
    p.call d address payload w =
      (Device.answer p.limits.response (d.dispatch ⟨address, payload⟩ w).1,
        (d.dispatch ⟨address, payload⟩ w).2) := by
  rw [call, if_neg (Nat.not_lt.mpr sendable), if_neg (Nat.not_lt.mpr declarable), if_pos admitted]

/-- The host end of a simulated link of either kind, with a device at the other end. -/
abbrev HostEnd (ω : Type) := PacketLink (Bench UsbLink ω) ⊕ StreamLink (Bench UartLink ω)

namespace HostEnd

def link : Link (HostEnd ω) :=
  (PacketLink.link UsbLink.benchPipe).sum (StreamLink.link UartLink.benchPort)

def world : HostEnd ω → ω
  | .inl l => l.pipe.world
  | .inr l => l.port.world

def withWorld (w : ω) : HostEnd ω → HostEnd ω
  | .inl l => .inl { l with pipe := { l.pipe with world := w } }
  | .inr l => .inr { l with port := { l.port with world := w } }

/-- A link that has just been opened, with any packet size and timeout. -/
inductive Fresh (d : Dispatcher ω) (config : DeviceConfig) (w : ω) : HostEnd ω → Prop where
  | usb {size : Nat} (some : 1 ≤ size) (timeout : Duration) :
      Fresh d config w
        (.inl (.onPipe UsbLink.benchPipe ⟨{ packetSize := size }, d, config, w, []⟩ { timeout }))
  | uart {timeout : Duration} {l : StreamLink (Bench UartLink ω)}
      (started : StreamLink.start UartLink.benchPort { timeout }
        ⟨UartLink.ofCapacity config.queueCapacity, d, config, w, []⟩ = .ok l) :
      Fresh d config w (.inr l)

/-- Nothing of an earlier call waits on the link, and its caller keeps to these limits. -/
inductive Idle (d : Dispatcher ω) (config : DeviceConfig) (limits : PayloadLimits) (w : ω) :
    HostEnd ω → Prop where
  | usb {size : Nat} {host : LinkConfig} {l : PacketLink (Bench UsbLink ω)} (some : 1 ≤ size)
      (same : host.limits = limits) (idle : UsbLink.Idle size d config host w l) :
      Idle d config limits w (.inl l)
  | uart {host : LinkConfig} {l : StreamLink (Bench UartLink ω)} (same : host.limits = limits)
      (idle : UartLink.Idle d config host w l) : Idle d config limits w (.inr l)

variable {e : HostEnd ω}

theorem Fresh.idle (h : Fresh d config w e) : Idle d config .protocolMinimum w e := by
  cases h with
  | usb some timeout => exact .usb some rfl (.intro (fun _ => rfl) (by simp))
  | uart started =>
    cases started
    exact .uart rfl (.intro (by simp))

theorem Idle.world_eq (h : Idle d config limits w e) : e.world = w := by
  cases h with
  | usb _ _ idle =>
    cases idle
    rfl
  | uart _ idle =>
    cases idle
    rfl

/-- The world may change between two calls, by a call over another link. -/
theorem Idle.withWorld (h : Idle d config limits w e) (w' : ω) :
    Idle d config limits w' (e.withWorld w') := by
  cases h with
  | usb some same idle =>
    cases idle with
    | intro drained mild => exact .usb some same (.intro drained mild)
  | uart same idle =>
    cases idle with
    | intro mild => exact .uart same (.intro mild)

/-- A request that fits is dispatched once, and the caller is told what it came to. -/
theorem Idle.call (h : Idle d config limits w e) (same : d.registry.limits = config.limits)
    (small : config.limits.response ≤ declarableMax) (fits : Fits limits config payload)
    (address : Address) :
    ∃ e', Device.call HostEnd.link address payload e =
        (Device.answer limits.response (d.dispatch ⟨address, payload⟩ w).1, e') ∧
      Idle d config limits (d.dispatch ⟨address, payload⟩ w).2 e' := by
  -- A link of either kind is called as one of its kind, and that one is idle for its passage.
  cases h with
  | @usb size host l some kept idle =>
    subst kept
    obtain ⟨l', came, left⟩ := Passage.call_simulates (p := .ofPackets host config) (d := d)
      (PacketLink.link UsbLink.benchPipe) (fun w x idle => by cases idle; rfl)
      (UsbLink.exchange_idle some same small) address payload w l idle
    rw [Passage.call_of_admitted fits.sendable fits.declarable (decide_eq_true fits.accepted)]
      at came left
    rw [link, Device.call_sum_inl, came]
    exact ⟨_, rfl, .usb some rfl left⟩
  | @uart host l kept idle =>
    subst kept
    obtain ⟨l', came, left⟩ := Passage.call_simulates (p := .ofStream host config) (d := d)
      (StreamLink.link UartLink.benchPort) (fun w x idle => by cases idle; rfl)
      (UartLink.exchange_idle same small) address payload w l idle
    rw [Passage.call_of_admitted fits.sendable fits.declarable
      (decide_eq_true ⟨fits.accepted, fits.queued⟩)] at came left
    rw [link, Device.call_sum_inr, came]
    exact ⟨_, rfl, .uart rfl left⟩

end HostEnd

/-- A device with links to it, and what its handlers remember, which is one thing for all links. -/
structure Hub (ι ω : Type) where
  world : ω
  ends : ι → HostEnd ω

namespace Hub

variable [DecidableEq ι] {h : Hub ι ω}

def call (via : ι) (address : Address) (payload : Bytes) : Attempt (Hub ι ω) CallError Bytes :=
  fun h =>
    let (r, e) := Device.call HostEnd.link address payload ((h.ends via).withWorld h.world)
    (r, ⟨e.world, Function.update h.ends via e⟩)

/-- Between calls every link is idle, in whatever world it was left. -/
def Ready (d : Dispatcher ω) (config : DeviceConfig) (limits : PayloadLimits) (h : Hub ι ω) :
    Prop :=
  ∀ i, ∃ w, (h.ends i).Idle d config limits w

/-- A call over any of the links is served in the world that the calls before it have left. -/
theorem Ready.call (ready : h.Ready d config limits) (same : d.registry.limits = config.limits)
    (small : config.limits.response ≤ declarableMax) (fits : Fits limits config payload) (via : ι)
    (address : Address) :
    ∃ h', h.call via address payload =
        (Device.answer limits.response (d.dispatch ⟨address, payload⟩ h.world).1, h') ∧
      h'.world = (d.dispatch ⟨address, payload⟩ h.world).2 ∧ h'.Ready d config limits := by
  obtain ⟨w, idle⟩ := ready via
  obtain ⟨e, came, left⟩ := (idle.withWorld h.world).call same small fits address
  refine ⟨⟨e.world, Function.update h.ends via e⟩, ?_, left.world_eq, fun i => ?_⟩
  · rw [Hub.call, came]
  · rcases eq_or_ne i via with rfl | other
    · simp only [Function.update_self]
      exact ⟨_, left⟩
    · simp only [Function.update_of_ne other]
      exact ready i

end Hub

end PeripheralBridge
