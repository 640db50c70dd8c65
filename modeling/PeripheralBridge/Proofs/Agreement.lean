import PeripheralBridge.Proofs.Negotiation
import PeripheralBridge.Proofs.SelfDescription
import PeripheralBridge.Proofs.Transparency
import PeripheralBridge.Simulated.GpioBank

/-!
# Agreement on limits

The limits a caller keeps to are those of the device once they have been negotiated. A device that
waits at the far end of a link answers both queries of a negotiation, so its caller gets to know
the limits the device was configured with, and takes them unless they are too low. From then on
whatever the caller sends or the device answers is within the limits of both, and nothing that the
caller does changes that.
-/

namespace PeripheralBridge

inductive Use where
  | call (address : Address) (payload : Bytes)
  | reset
  | negotiate
  | negotiateWithReset

/-- The state in which a link is left. -/
def Use.after {σ : Type} (link : Link σ) (s : σ) : Use → σ
  | call address payload => (Device.call link address payload s).2
  | reset => (Device.reset link s).2
  | negotiate => (Device.negotiate link s).2
  | negotiateWithReset => (Device.negotiateWithReset link s).2

def afterUses {σ : Type} (link : Link σ) (uses : List Use) (s : σ) : σ :=
  uses.foldl (Use.after link) s

/-- What every use keeps, a run of uses keeps. -/
theorem afterUses_keeps {σ : Type} {link : Link σ} {P : σ → Prop}
    (kept : ∀ s (use : Use), P s → P (use.after link s)) (uses : List Use) {s : σ} (h : P s) :
    P (afterUses link uses s) := by
  induction uses generalizing s with
  | nil => exact h
  | cons use rest ih => exact ih (kept s use h)

namespace DeviceConfig

/-- A request payload of this length is one the device takes. -/
def Takes (config : DeviceConfig) (length : Nat) : Prop :=
  length ≤ config.limits.request ∧ requestHeaderSize + length ≤ config.queueCapacity

/-- The device can be asked for its limits, and can tell them. -/
structure Tellable (config : DeviceConfig) : Prop where
  request_le : config.limits.request ≤ declarableMax
  response_le : config.limits.response ≤ declarableMax
  two_le_response : 2 ≤ config.limits.response
  header_le : requestHeaderSize ≤ config.queueCapacity

/-- A request that is as long as the limits allow is queued as a whole. -/
def Roomy (config : DeviceConfig) : Prop :=
  requestHeaderSize + config.limits.request ≤ config.queueCapacity

variable {config : DeviceConfig}

theorem Roomy.takes (roomy : config.Roomy) {length : Nat}
    (fits : length ≤ config.limits.request) : config.Takes length :=
  ⟨fits, Nat.le_trans (Nat.add_le_add_left fits _) roomy⟩

theorem Tellable.takes_zero (tellable : config.Tellable) : config.Takes 0 :=
  ⟨Nat.zero_le _, tellable.header_le⟩

end DeviceConfig

theorem Metadata.toNat_sizeWord {size : Nat} (small : size ≤ declarableMax) :
    (sizeWord size).toNat = size := by
  rw [sizeWord, Nat.min_eq_left (show size ≤ 65535 from small)]
  exact UInt16.toNat_ofNat_of_lt' (Nat.lt_succ_of_le small)

theorem PayloadLimits.Sufficient.two_le_response {limits : PayloadLimits}
    (sufficient : limits.Sufficient) : 2 ≤ limits.response :=
  Nat.le_trans (by decide) sufficient.2

variable {σ κ ω : Type} {link : Link σ} {bench : σ → Bench κ ω} {d : Dispatcher ω}
  {config : DeviceConfig} {L : PayloadLimits} {s : σ}

/-- A device waits at the far end of a link, whose host keeps to some limits. Whatever is exchanged
leaves an idle link behind. A request that the device takes is dispatched once and answered, unless
the response is over the limit of the host; the link is clear then, and on a clear link the device
finds nothing to note. -/
structure Attended (link : Link σ) (bench : σ → Bench κ ω) (d : Dispatcher ω)
    (config : DeviceConfig) where
  Idle : PayloadLimits → σ → Prop
  Clear : σ → Prop
  limits_eq : ∀ {L s}, Idle L s → link.limits s = L
  exchanged : ∀ {L s} (address : Address) (payload : Bytes), Idle L s →
    payload.length ≤ declarableMax →
      Idle L (link.exchange ⟨address, UInt16.ofNat payload.length⟩ payload s).2
  answered : ∀ {L s} (q : Request), Idle L s → q.payload.length ≤ declarableMax →
    config.Takes q.payload.length →
    (d.dispatch q (bench s).world).1.payload.length ≤ L.response →
      ∃ s', link.exchange ⟨q.toAddress, UInt16.ofNat q.payload.length⟩ q.payload s =
          (.ok (d.dispatch q (bench s).world).1, s') ∧
        (bench s').world = (d.dispatch q (bench s).world).2 ∧
        (Clear s → (bench s').journal = (bench s).journal) ∧ Idle L s' ∧ Clear s'
  setLimits : ∀ {L s} (L' : PayloadLimits), Idle L s →
    Idle L' (link.setLimits L' s) ∧ (Clear s → Clear (link.setLimits L' s))
  reset : ∀ {L s}, Idle L s → ∃ s', link.reset s = (.ok (), s') ∧ Idle L s' ∧ Clear s'

/-- Both ends of a link keep to the same limits: a call within them is dispatched once and
answered, an echo comes back unless it is too long for a response, and a call over them is refused
with the link as it was. -/
structure AgreesOn (link : Link σ) (bench : σ → Bench κ ω) (d : Dispatcher ω)
    (limits : PayloadLimits) (s : σ) : Prop where
  limits_eq : link.limits s = limits
  dispatched : ∀ q : Request, q.payload.length ≤ limits.request → ∃ s',
    Device.call link q.toAddress q.payload s =
        (Device.returned (d.dispatch q (bench s).world).1, s') ∧
      (bench s').world = (d.dispatch q (bench s).world).2 ∧
      (bench s').journal = (bench s).journal
  echoed : ∀ data : Bytes, data.length ≤ limits.request → (Device.echo link data s).1 =
    if data.length ≤ limits.response then .ok data else .error (.device .peripheral)
  refused : ∀ address (payload : Bytes), limits.request < payload.length →
    Device.call link address payload s =
      (.error (.requestTooLarge payload.length limits.request), s)

/-- What a negotiation with a device comes to: agreement on the limits the device was configured
with, whatever is done then, or a refusal of these limits that changes none. -/
structure NegotiatesAsConfigured (link : Link σ) (bench : σ → Bench κ ω) (d : Dispatcher ω)
    (config : DeviceConfig) (s : σ) : Prop where
  agrees : config.limits.Sufficient → config.Roomy → ∃ s',
    Device.negotiate link s = (.ok config.limits, s') ∧
      ∀ uses, AgreesOn link bench d config.limits (afterUses link uses s')
  refuses : ¬ config.limits.Sufficient → ∃ s',
    Device.negotiate link s = (.error (.insufficientLimits config.limits), s') ∧
      link.limits s' = link.limits s

namespace Attended

variable (attended : Attended link bench d config)

/-- The link is idle, and its host keeps to limits that are high enough. -/
def Usable (s : σ) : Prop := ∃ L, L.Sufficient ∧ attended.Idle L s

/-- The link is clear, and its host keeps to the limits of the device. -/
def Agreed (s : σ) : Prop := attended.Idle config.limits s ∧ attended.Clear s

section Queries

variable (tellable : config.Tellable) (idle : attended.Idle L s) (room : 2 ≤ L.response)
include tellable idle room

/-- The answer to a query tells the limit that is asked for. -/
theorem query_told {function : MetadataFunction} {limit : Nat} (small : limit ≤ declarableMax)
    (tells : ∀ w, d.dispatch (function.request []) w =
      (Dispatcher.respond config.limits.response (.reply (wordBytes (Metadata.sizeWord limit))), w))
    (name : String) :
    ∃ answer s', link.exchange (Device.queryHeader function) [] s = (answer, s') ∧
      Device.told name (link.limits s).response answer = .ok limit ∧
      attended.Idle L s' ∧ attended.Clear s' := by
  have response : d.dispatch (function.request []) (bench s).world =
      (.success (wordBytes (Metadata.sizeWord limit)), (bench s).world) := by
    rw [tells, Dispatcher.respond_reply_of_le tellable.two_le_response]
  obtain ⟨s', exchanged, _, _, idle', clear⟩ := attended.answered (function.request []) idle
    (Nat.zero_le _) tellable.takes_zero (by rw [response]; exact room)
  rw [response] at exchanged
  refine ⟨_, s', exchanged, Device.told_eq_ok_iff.mpr ?_, idle', clear⟩
  refine ⟨_, _, rfl, attended.limits_eq idle ▸ room, ?_⟩
  rw [← toNat_word, word_wordBytes, Metadata.toNat_sizeWord small]

variable (advertises : d.Advertises config.limits)
include advertises

/-- Both queries of a negotiation tell the limits the device was configured with. -/
theorem queried : ∃ answer answer' s₁ s₂,
    Device.Queried link s answer answer' config.limits.request s₁ s₂ ∧
      Device.told "resp_max_size" (link.limits s₁).response answer' =
        .ok config.limits.response ∧
      attended.Idle L s₂ ∧ attended.Clear s₂ := by
  obtain ⟨answer, s₁, asked, got, idle₁, _⟩ := attended.query_told tellable idle room
    tellable.request_le advertises.tells_request "req_max_size"
  obtain ⟨answer', s₂, asked', got', idle₂, clear⟩ := attended.query_told tellable idle₁ room
    tellable.response_le advertises.tells_response "resp_max_size"
  exact ⟨answer, answer', s₁, s₂, ⟨asked, got, asked'⟩, got', idle₂, clear⟩

theorem negotiate_of_sufficient (sufficient : config.limits.Sufficient) : ∃ s',
    Device.negotiate link s = (.ok config.limits, s') ∧ attended.Agreed s' := by
  obtain ⟨_, _, s₁, s₂, queried, got', idle', clear⟩ :=
    attended.queried tellable idle room advertises
  obtain ⟨settled, stays⟩ := attended.setLimits config.limits idle'
  exact ⟨_, (Device.Negotiated.agreed queried got' sufficient).plain, settled, stays clear⟩

theorem negotiate_of_insufficient (low : ¬ config.limits.Sufficient) : ∃ s',
    Device.negotiate link s = (.error (.insufficientLimits config.limits), s') ∧
      attended.Idle L s' := by
  obtain ⟨_, _, s₁, s₂, queried, got', idle', _⟩ :=
    attended.queried tellable idle room advertises
  exact ⟨s₂, (Device.Negotiated.insufficient queried got' low).plain, idle'⟩

end Queries

theorem call_refused (idle : attended.Idle config.limits s) (address : Address) {payload : Bytes}
    (long : config.limits.request < payload.length) :
    Device.call link address payload s =
      (.error (.requestTooLarge payload.length config.limits.request), s) := by
  have limits := attended.limits_eq idle
  rw [Device.call_of_over (limits ▸ long), limits]

section Uses

variable (tellable : config.Tellable) (advertises : d.Advertises config.limits)
include tellable advertises

theorem usable_negotiate (usable : attended.Usable s) :
    attended.Usable (Device.negotiate link s).2 := by
  obtain ⟨L, enough, idle⟩ := usable
  have room := enough.two_le_response
  by_cases sufficient : config.limits.Sufficient
  · obtain ⟨s', negotiated, idle', _⟩ :=
      attended.negotiate_of_sufficient tellable idle room advertises sufficient
    exact ⟨_, sufficient, by rwa [negotiated]⟩
  · obtain ⟨s', negotiated, idle'⟩ :=
      attended.negotiate_of_insufficient tellable idle room advertises sufficient
    exact ⟨L, enough, by rwa [negotiated]⟩

theorem usable_after (s : σ) (use : Use) (usable : attended.Usable s) :
    attended.Usable (use.after link s) := by
  have negotiated := attended.usable_negotiate tellable advertises usable
  obtain ⟨L, enough, idle⟩ := usable
  cases use with
  | call address payload =>
    refine ⟨L, enough, ?_⟩
    rcases Device.call_state link address payload s with same | ⟨declarable, left⟩
    · rwa [Use.after, same]
    · rw [Use.after, left]
      exact attended.exchanged address payload idle declarable
  | reset =>
    obtain ⟨s', done, idle', _⟩ := attended.reset idle
    refine ⟨L, enough, ?_⟩
    rwa [Use.after, Device.reset, Attempt.mapError_of_ok done]
  | negotiate => exact negotiated
  | negotiateWithReset =>
    rw [Use.after, Device.negotiateWithReset]
    rcases first : Device.negotiate link s with ⟨r, s₁⟩
    rw [first] at negotiated
    cases r with
    | ok limits => exact negotiated
    | error e =>
      obtain ⟨L₁, enough₁, idle₁⟩ := negotiated
      obtain ⟨s₂, done, idle₂, _⟩ := attended.reset idle₁
      simp only [Device.reset, Attempt.mapError_of_ok done]
      exact attended.usable_negotiate tellable advertises ⟨L₁, enough₁, idle₂⟩

variable (roomy : config.Roomy)
include roomy

/-- A call within the limits that were agreed on is dispatched once and answered. -/
theorem call_dispatched (idle : attended.Idle config.limits s) (q : Request)
    (fits : q.payload.length ≤ config.limits.request) :
    ∃ s', Device.call link q.toAddress q.payload s =
        (Device.returned (d.dispatch q (bench s).world).1, s') ∧
      (bench s').world = (d.dispatch q (bench s).world).2 ∧
      (attended.Clear s → (bench s').journal = (bench s).journal) ∧ attended.Agreed s' := by
  have declarable := Nat.le_trans fits tellable.request_le
  have within : (d.dispatch q (bench s).world).1.payload.length ≤ config.limits.response :=
    advertises.limits_eq ▸ d.dispatch_payload_le q (bench s).world
  have limits := attended.limits_eq idle
  obtain ⟨s', exchanged, left⟩ := attended.answered q idle declarable (roomy.takes fits) within
  refine ⟨s', ?_, left⟩
  rw [Device.call_of_exchange (limits ▸ fits) declarable exchanged, limits, Device.outcome,
    if_neg (Nat.not_lt.mpr within)]

/-- Limits that were agreed on are agreed on for good. -/
theorem agreed_after (sufficient : config.limits.Sufficient) (s : σ) (use : Use)
    (agreed : attended.Agreed s) : attended.Agreed (use.after link s) := by
  have room := sufficient.two_le_response
  obtain ⟨s₁, negotiated, agreed₁⟩ :=
    attended.negotiate_of_sufficient tellable agreed.1 room advertises sufficient
  cases use with
  | call address payload =>
    rw [Use.after]
    by_cases fits : payload.length ≤ config.limits.request
    · obtain ⟨s', called, _, _, agreed'⟩ :=
        attended.call_dispatched tellable advertises roomy agreed.1 ⟨address, payload⟩ fits
      rwa [called]
    · rwa [attended.call_refused agreed.1 address (Nat.lt_of_not_le fits)]
  | reset =>
    obtain ⟨s', done, agreed'⟩ := attended.reset agreed.1
    rwa [Use.after, Device.reset, Attempt.mapError_of_ok done]
  | negotiate => rwa [Use.after, negotiated]
  | negotiateWithReset => rwa [Use.after, Device.negotiateWithReset, negotiated]

theorem agreesOn (agreed : attended.Agreed s) : AgreesOn link bench d config.limits s := by
  obtain ⟨idle, clear⟩ := agreed
  refine ⟨attended.limits_eq idle, ?_, ?_, ?_⟩
  · intro q fits
    obtain ⟨s', called, world, quiet, _⟩ :=
      attended.call_dispatched tellable advertises roomy idle q fits
    exact ⟨s', called, world, quiet clear⟩
  · intro data fits
    obtain ⟨s', called, _⟩ := attended.call_dispatched tellable advertises roomy idle
      (MetadataFunction.echo.request data) fits
    have echoed : (Device.echo link data s).1 = _ := congrArg Prod.fst called
    rw [echoed, advertises.echoes]
    by_cases short : data.length ≤ config.limits.response
    · rw [Dispatcher.respond_reply_of_le short, if_pos short]
      rfl
    · rw [Dispatcher.respond_reply_of_lt (Nat.lt_of_not_le short), if_neg short]
      rfl
  · intro address payload long
    exact attended.call_refused idle address long

omit roomy in
/-- Whatever was done with the link before, a negotiation comes to what it should. -/
theorem negotiatesAsConfigured (idle : attended.Idle .protocolMinimum s) (before : List Use) :
    NegotiatesAsConfigured link bench d config (afterUses link before s) := by
  obtain ⟨L, enough, idle⟩ := afterUses_keeps (attended.usable_after tellable advertises) before
    ⟨_, by decide, idle⟩
  have room := enough.two_le_response
  constructor
  · intro sufficient roomy
    obtain ⟨s', negotiated, agreed⟩ :=
      attended.negotiate_of_sufficient tellable idle room advertises sufficient
    refine ⟨s', negotiated, fun uses => ?_⟩
    have kept := attended.agreed_after tellable advertises roomy sufficient
    exact attended.agreesOn tellable advertises roomy (afterUses_keeps kept uses agreed)
  · intro low
    obtain ⟨s', negotiated, idle'⟩ :=
      attended.negotiate_of_insufficient tellable idle room advertises low
    exact ⟨s', negotiated, by rw [attended.limits_eq idle', attended.limits_eq idle]⟩

end Uses

end Attended

namespace UsbLink

/-- A device behind a packet link, which is clear unless it is stale. -/
def attended {size : Nat} (hs : 0 < size) (same : d.registry.limits = config.limits)
    (small : config.limits.response ≤ declarableMax) (timeout : Duration) :
    Attended (PacketLink.link benchPipe) PacketLink.pipe d config where
  Idle L x := ∃ w, Idle size d config ⟨timeout, L⟩ w x
  Clear x := x.stale = false
  limits_eq := by
    rintro L x ⟨w, idle⟩
    cases idle
    rfl
  exchanged := by
    rintro L x address payload ⟨w, idle⟩ declarable
    obtain ⟨x', exchanged, idle'⟩ := exchange_idle hs same small address payload w x idle declarable
    have left : ((PacketLink.link benchPipe).exchange ⟨address, UInt16.ofNat payload.length⟩
        payload x).2 = x' :=
      congrArg Prod.snd exchanged
    rw [left]
    exact ⟨_, idle'⟩
  answered := by
    rintro L x q ⟨w, idle⟩ declarable takes short
    have world : x.pipe.world = w := by
      cases idle
      rfl
    rw [world] at short ⊢
    obtain ⟨toHost, resets, journal, recovered, drained, mild⟩ := recover_idle idle
    obtain ⟨left, transferred, empty⟩ := transfer_answered ⟨timeout, L⟩ q.toAddress w
      resets journal hs same small drained declarable takes.1
    have exchanged := PacketLink.exchange_of_recover recovered transferred
    rw [Response.within, if_neg (Nat.not_lt.mpr short)] at exchanged
    refine ⟨_, exchanged, rfl, fun clear => ?_, ⟨_, .intro (fun _ => empty short) mild⟩, rfl⟩
    -- a link that is not stale is left alone before the transfer
    rw [PacketLink.recover, clear] at recovered
    exact congrArg (fun y => y.2.pipe.journal) recovered.symm
  setLimits := by
    rintro L x L' ⟨w, idle⟩
    cases idle with
    | intro drained mild => exact ⟨⟨w, .intro drained mild⟩, id⟩
  reset := by
    rintro L x ⟨w, idle⟩
    cases idle with
    | @intro toHost resets journal _ drained mild =>
      refine ⟨_, rfl, ⟨w, .intro (fun _ => rfl) (mild_append mild ?_)⟩, rfl⟩
      simp [BenchEvent.Mild]

end UsbLink

namespace UartLink

/-- A device behind a byte stream, which is cleared before each exchange. -/
def attended (same : d.registry.limits = config.limits)
    (small : config.limits.response ≤ declarableMax) (timeout : Duration) :
    Attended (StreamLink.link benchPort) StreamLink.port d config where
  Idle L x := ∃ w, Idle d config ⟨timeout, L⟩ w x
  Clear _ := True
  limits_eq := by
    rintro L x ⟨w, idle⟩
    cases idle
    rfl
  exchanged := by
    rintro L x address payload ⟨w, idle⟩ declarable
    obtain ⟨x', exchanged, idle'⟩ := exchange_idle same small address payload w x idle declarable
    have left : ((StreamLink.link benchPort).exchange ⟨address, UInt16.ofNat payload.length⟩
        payload x).2 = x' :=
      congrArg Prod.snd exchanged
    rw [left]
    exact ⟨_, idle'⟩
  answered := by
    rintro L x q ⟨w, idle⟩ declarable takes short
    cases idle with
    | @intro chunks pending journal mild =>
      have sent := send_line d config w config.queueCapacity (Request.octets_ne_nil q) timeout
        journal
      rw [if_pos (Request.length_octets q ▸ takes.2)] at sent
      have exchanged : StreamLink.exchange benchPort ⟨q.toAddress, UInt16.ofNat q.payload.length⟩
          q.payload ⟨⟨line config.queueCapacity [] chunks pending, d, config, w, journal⟩,
            ⟨timeout, L⟩⟩ = _ :=
        StreamLink.exchange_of_send sent
      have received : StreamLink.receive benchPort ⟨timeout, L⟩
          ⟨line config.queueCapacity (Request.octets q) [] [], d, config, w, journal⟩ = _ :=
        receive_answered same small declarable takes.1
      rw [Response.within, if_neg (Nat.not_lt.mpr short)] at received
      rw [received] at exchanged
      exact ⟨_, exchanged, rfl, fun _ => rfl, ⟨_, .intro mild⟩, trivial⟩
  setLimits := by
    rintro L x L' ⟨w, idle⟩
    cases idle with
    | intro mild => exact ⟨⟨w, .intro mild⟩, id⟩
  reset idle := ⟨_, rfl, idle, trivial⟩

end UartLink

/-- Over a simulated link a device and its caller agree on the limits the device was configured
with as soon as they have negotiated, and for good, unless these are too low for the protocol. -/
theorem negotiated_limits_agree {r : Registry ω} {w₀ w : ω} (built : r.BuiltFrom config)
    (booted : Dispatcher.boot r w₀ = (.ok d, w)) (tellable : config.Tellable) (timeout : Duration)
    (before : List Use) :
    (∀ size, 1 ≤ size →
      NegotiatesAsConfigured (PacketLink.link UsbLink.benchPipe) PacketLink.pipe d config
        (afterUses (PacketLink.link UsbLink.benchPipe) before
          (.onPipe UsbLink.benchPipe ⟨{ packetSize := size }, d, config, w, []⟩ { timeout }))) ∧
    ∃ l,
      StreamLink.start UartLink.benchPort { timeout }
        ⟨UartLink.ofCapacity config.queueCapacity, d, config, w, []⟩ = .ok l ∧
      NegotiatesAsConfigured (StreamLink.link UartLink.benchPort) StreamLink.port d config
        (afterUses (StreamLink.link UartLink.benchPort) before l) := by
  have advertises : d.Advertises config.limits := by
    rw [Dispatcher.eq_of_boot booted]
    exact Dispatcher.advertises_of_builtFrom built
  have same := advertises.limits_eq
  have small := tellable.response_le
  constructor
  · intro size hs
    have idle : UsbLink.Idle size d config { timeout } w
        (.onPipe UsbLink.benchPipe ⟨{ packetSize := size }, d, config, w, []⟩ { timeout }) :=
      .intro (fun _ => rfl) (by simp)
    exact (UsbLink.attended hs same small timeout).negotiatesAsConfigured tellable advertises
      (Exists.intro w idle) before
  · have idle : UartLink.Idle d config { timeout } w
        ⟨⟨UartLink.ofCapacity config.queueCapacity, d, config, w, []⟩, { timeout }⟩ :=
      .intro (by simp)
    refine ⟨_, rfl, ?_⟩
    exact (UartLink.attended same small timeout).negotiatesAsConfigured tellable advertises
      (Exists.intro w idle) before

/-- The configuration of a bank of pins whose queue holds the longest request and no more. -/
def pinsConfig (limits : PayloadLimits) : DeviceConfig where
  limits
  queueCapacity := requestHeaderSize + limits.request

def pinsPlan (limits : PayloadLimits) : RegistryPlan Pins :=
  GpioBank.plan (pinsConfig limits) id fun pins _ => pins

/-- Negotiation with a bank of pins that takes 600 octets and answers with 513, and with one that
answers with an octet too few. -/
theorem negotiated_limits_agree_pins :
    (∃ r d s, (pinsPlan ⟨600, 513⟩).build = .ok r ∧
      Dispatcher.boot r GpioBank.initial = (.ok d, GpioBank.initial) ∧
      Device.negotiate (PacketLink.link UsbLink.benchPipe)
          (.onPipe UsbLink.benchPipe
            ⟨{ packetSize := 64 }, d, pinsConfig ⟨600, 513⟩, GpioBank.initial, []⟩) =
        (.ok ⟨600, 513⟩, s) ∧
      (Device.echo (PacketLink.link UsbLink.benchPipe) (List.replicate 513 7) s).1 =
        .ok (List.replicate 513 7) ∧
      (Device.echo (PacketLink.link UsbLink.benchPipe) (List.replicate 514 7) s).1 =
        .error (.device .peripheral) ∧
      Device.call (PacketLink.link UsbLink.benchPipe) ⟨3, 0, 1⟩ (List.replicate 601 7) s =
        (.error (.requestTooLarge 601 600), s)) ∧
    ∃ r d l s, (pinsPlan ⟨512, 511⟩).build = .ok r ∧
      Dispatcher.boot r GpioBank.initial = (.ok d, GpioBank.initial) ∧
      StreamLink.start UartLink.benchPort {}
        ⟨UartLink.ofCapacity 520, d, pinsConfig ⟨512, 511⟩, GpioBank.initial, []⟩ = .ok l ∧
      Device.negotiate (StreamLink.link UartLink.benchPort) l =
        (.error (.insufficientLimits ⟨512, 511⟩), s) := by
  have begun : ∀ limits, (pinsPlan limits).From (pinsConfig limits) :=
    fun limits => .place .gpio _ .start
  have boots : ∀ limits, ∃ r, (pinsPlan limits).build = .ok r ∧
      Dispatcher.boot r GpioBank.initial = (.ok (.ofRegistry r), GpioBank.initial) :=
    fun _ => ⟨_, rfl, rfl⟩
  constructor
  · obtain ⟨r, built, booted⟩ := boots ⟨600, 513⟩
    obtain ⟨overPackets, _⟩ := negotiated_limits_agree ⟨_, begun _, built⟩ booted
      ⟨by decide, by decide, by decide, by decide⟩ defaultTimeout []
    obtain ⟨s, negotiated, agreed⟩ :=
      (overPackets 64 (by decide)).agrees (by decide) (Nat.le_refl _)
    have now : AgreesOn _ _ _ ⟨600, 513⟩ s := agreed []
    have echoed : ∀ n ≤ 600, (Device.echo _ (List.replicate n 7) s).1 =
        if n ≤ 513 then .ok (List.replicate n 7) else .error (.device .peripheral) :=
      fun n fits => by simpa using now.echoed (List.replicate n 7) (by simpa using fits)
    have refused := now.refused ⟨3, 0, 1⟩ (List.replicate 601 7)
    rw [List.length_replicate] at refused
    exact ⟨r, _, s, built, booted, negotiated, (echoed 513 (by decide)).trans (if_pos (by decide)),
      (echoed 514 (by decide)).trans (if_neg (by decide)), refused (by decide)⟩
  · obtain ⟨r, built, booted⟩ := boots ⟨512, 511⟩
    obtain ⟨_, l, started, overOctets⟩ := negotiated_limits_agree ⟨_, begun _, built⟩ booted
      ⟨by decide, by decide, by decide, by decide⟩ defaultTimeout []
    obtain ⟨s, negotiated, _⟩ := overOctets.refuses (by decide)
    exact ⟨r, _, l, s, built, booted, started, negotiated⟩

end PeripheralBridge
