import PeripheralBridge.Proofs.Negotiation
import PeripheralBridge.Scripted.Pipe
import PeripheralBridge.Scripted.Port

/-!
# What a call guards

A call that its limits forbid asks nothing of its link, whatever state the link is in; any other
makes one exchange. On the way back a link over a pipe or a port takes no response that is over
its limits. These are the limits that the call has looked at before, so of the two checks behind
an exchange the one of the call never finds anything. It is the limits that were set last which
bound every payload that is handed out.
-/

namespace PeripheralBridge

namespace Attempt

variable {σ ε α β : Type}

/-- What two attempts one behind the other came to, the second came to behind the first. -/
theorem ok_of_bind {x : Attempt σ ε α} {f : α → Attempt σ ε β} {s s' : σ} {b : β}
    (h : (x >>= f) s = (.ok b, s')) : ∃ a s₁, x s = (.ok a, s₁) ∧ f a s₁ = (.ok b, s') := by
  rcases hx : x s with ⟨e | a, s₁⟩
  · rw [bind_of_error hx] at h
    cases h
  · rw [bind_of_ok hx] at h
    exact ⟨a, s₁, rfl, h⟩

end Attempt

namespace Response

theorem length_le_of_decode {source : Bytes} {max : Nat} {r : Response}
    (decoded : decode source max = .ok r) : r.payload.length ≤ max := by
  rw [decode_eq] at decoded
  exact (format.decode_eq_ok_iff.mp decoded).2

end Response

/-- A link takes no response with a payload over its limits. -/
def Link.ReceivesWithin {σ : Type} (link : Link σ) : Prop :=
  ∀ header payload s response s', link.exchange header payload s = (.ok response, s') →
    response.payload.length ≤ (link.limits s).response

/-- A read gives no more octets than it was asked for: there is no room for more where they go. -/
def BytePort.ReadsWithin {σ : Type} (port : BytePort σ) : Prop :=
  ∀ count s data s', port.read count s = (.ok data, s') → data.length ≤ count

namespace PacketLink

variable {σ : Type} {pipe : BulkPipe σ} {config : LinkConfig} {buffer : Nat} {message : Bytes}

theorem Transfer.within {s s' : σ} {events : List PipeEvent} {response : Response}
    (h : Transfer pipe config buffer message s events (.ok response) s') :
    response.payload.length ≤ config.limits.response := by
  cases h with
  | answered _ _ decoded => exact Response.length_le_of_decode decoded

/-- What is decoded was checked against the limits of the link before the exchange. -/
theorem Exchanged.within {l l' : PacketLink σ} {events : List PipeEvent} {response : Response}
    (h : Exchanged pipe l message events (.ok response) l') :
    response.payload.length ≤ l.config.limits.response := by
  cases h with
  | recovered _ _ transferred => exact transferred.within
  | straight _ transferred => exact transferred.within

theorem link_receivesWithin (pipe : BulkPipe σ) : (link pipe).ReceivesWithin := by
  intro header payload l response l' received
  obtain ⟨events, r, left, exchanged, plain, -⟩ := exchange_recorded pipe l header payload
  cases received.symm.trans plain
  exact exchanged.within

end PacketLink

/-- What is read in full is as long as it was to be. -/
theorem BytePort.ReadsWithin.length_readFull {σ : Type} {port : BytePort σ}
    (reads : port.ReadsWithin) (stage : ExchangeStage) (timeout : Duration) {want : Nat}
    {s left : σ} {octets : Bytes}
    (full : port.readFull stage timeout want s = (.ok octets, left)) : octets.length = want := by
  -- A step asks for fewer octets, or again for as many with fewer interruptions to come.
  induction want, s using BytePort.readFull.induct port stage timeout generalizing octets left with
  | case1 s =>
    rw [port.readFull_zero] at full
    cases full
    rfl
  | case2 want s hw s' ended =>
    rw [port.readFull_of_ne_zero stage timeout hw, ended] at full
    cases full
  | case3 want s hw b data s' gave rest s'' rested ih =>
    rw [port.readFull_of_ne_zero stage timeout hw, gave] at full
    simp only [rested] at full
    cases full
    have within := reads want s (b :: data) s' gave
    have remaining := ih rested
    rw [List.length_append, remaining]
    omega
  | case4 want s hw b data s' gave e s'' failed ih =>
    rw [port.readFull_of_ne_zero stage timeout hw, gave] at full
    simp only [failed] at full
    cases full
  | case5 want s hw e s' failed passes ih =>
    rw [port.readFull_of_ne_zero stage timeout hw, failed] at full
    simp only [if_pos passes] at full
    exact ih full
  | case6 want s hw e s' failed lasts =>
    rw [port.readFull_of_ne_zero stage timeout hw, failed] at full
    simp only [if_neg lasts] at full
    cases full

theorem ScriptedPort.readsWithin : ScriptedPort.port.ReadsWithin := by
  intro count p data p' h
  simp only [port, read] at h
  split at h
  · cases h
  · cases h
  · cases h
    exact List.length_take_le _ _

namespace StreamLink

variable {σ : Type} {port : BytePort σ} {config : LinkConfig} {s s' : σ} {response : Response}

/-- A response is as long as its header declares, which was checked against the limits. -/
theorem receive_within (reads : port.ReadsWithin)
    (received : receive port config s = (.ok response, s')) :
    response.payload.length ≤ config.limits.response := by
  obtain ⟨head, s₁, -, received⟩ := Attempt.ok_of_bind received
  obtain ⟨⟨header, rest⟩, s₂, -, received⟩ := Attempt.ok_of_bind received
  by_cases exceeds : config.limits.response < header.payloadLength.toNat
  · simp only [checkPayload, if_pos exceeds] at received
    cases received
  · simp only [checkPayload, if_neg exceeds] at received
    obtain ⟨payload, s₃, full, received⟩ := Attempt.ok_of_bind received
    cases received
    rw [reads.length_readFull .responsePayload config.timeout full]
    exact Nat.le_of_not_lt exceeds

theorem link_receivesWithin (reads : port.ReadsWithin) : (link port).ReceivesWithin := by
  intro header payload l response l' received
  have answer : (exchange port header payload l).1 = .ok response := congrArg Prod.fst received
  rw [exchange_eq] at answer
  obtain ⟨_, s₁, -, received⟩ := Attempt.ok_of_bind (Prod.ext answer rfl)
  exact receive_within reads received

end StreamLink

namespace Device

variable {σ : Type} {link : Link σ} {limits : PayloadLimits} {s₀ s s' : σ}

/-- The link takes a payload of this length for a request, and a header can declare it. -/
def Sendable (link : Link σ) (s : σ) (payload : Bytes) : Prop :=
  payload.length ≤ (link.limits s).request ∧ payload.length ≤ declarableMax

/-- The bound that a payload which is not sendable is told to be over. -/
def requestBound (link : Link σ) (s : σ) (payload : Bytes) : Nat :=
  if (link.limits s).request < payload.length then (link.limits s).request else declarableMax

def callHeader (address : Address) (payload : Bytes) : RequestHeader :=
  ⟨address, UInt16.ofNat payload.length⟩

/-- A call comes to a result, and asks just these things of its link. -/
structure Asks (link : Link σ) (address : Address) (payload : Bytes) (s : σ)
    (events : List LinkEvent) (r : Except CallError Bytes) (s' : σ) : Prop where
  plain : call link address payload s = (r, s')
  recorded : ∀ log, call link.recorded address payload (s, log) = (r, s', log ++ events)

/-- A call asks nothing of the link and leaves it as it is, or makes one exchange. -/
structure Guards (link : Link σ) (s : σ) : Prop where
  refused : ∀ address payload, ¬ Sendable link s payload →
    Asks link address payload s []
      (.error (.requestTooLarge payload.length (requestBound link s payload))) s
  exchanged : ∀ address payload, Sendable link s payload →
    (callHeader address payload).payloadLength.toNat = payload.length ∧ ∃ answer s',
      link.exchange (callHeader address payload) payload s = (answer, s') ∧
      Asks link address payload s [.exchange (callHeader address payload) payload answer]
        (outcome (link.limits s).response answer) s'

theorem guards (link : Link σ) (s : σ) : Guards link s where
  refused address payload unsendable := by
    by_cases exceeds : (link.limits s).request < payload.length
    · rw [requestBound, if_pos exceeds]
      refine ⟨call_of_over exceeds, fun log => ?_⟩
      rw [List.append_nil]
      exact call_of_over exceeds
    · have fits := Nat.le_of_not_lt exceeds
      have undeclarable : declarableMax < payload.length :=
        Nat.lt_of_not_le fun declarable => unsendable ⟨fits, declarable⟩
      rw [requestBound, if_neg exceeds]
      refine ⟨call_of_undeclarable fits undeclarable, fun log => ?_⟩
      rw [List.append_nil]
      exact call_of_undeclarable fits undeclarable
  exchanged address payload sendable := by
    obtain ⟨fits, declarable⟩ := sendable
    rcases exchanged : link.exchange (callHeader address payload) payload s with ⟨answer, s'⟩
    refine ⟨toNat_lengthField declarable, answer, s', rfl,
      call_of_exchange fits declarable exchanged, fun log => ?_⟩
    have recorded : link.recorded.exchange (callHeader address payload) payload (s, log) =
        (answer, s', log ++ [.exchange (callHeader address payload) payload answer]) := by
      simp only [Link.recorded, exchanged]
    have fits' : payload.length ≤ (link.recorded.limits (s, log)).request := fits
    exact call_of_exchange fits' declarable recorded

/-- States that calls, resets and changes of the limits lead to, with the limits set last. -/
inductive Reached (link : Link σ) (s₀ : σ) : PayloadLimits → σ → Prop where
  | start : Reached link s₀ (link.limits s₀) s₀
  | call {limits : PayloadLimits} {s : σ} (address : Address) (payload : Bytes)
      (before : Reached link s₀ limits s) : Reached link s₀ limits (call link address payload s).2
  | reset {limits : PayloadLimits} {s : σ} (before : Reached link s₀ limits s) :
      Reached link s₀ limits (reset link s).2
  | setLimits {old : PayloadLimits} {s : σ} (limits : PayloadLimits)
      (before : Reached link s₀ old s) : Reached link s₀ limits (link.setLimits limits s)

theorem limits_call (keeps : link.KeepsLimits) (address : Address) (payload : Bytes) (s : σ) :
    link.limits (call link address payload s).2 = link.limits s := by
  rcases call_state link address payload s with same | ⟨-, exchanged⟩
  · rw [same]
  · rw [exchanged, keeps.exchange]

theorem limits_deviceReset (keeps : link.KeepsLimits) (s : σ) :
    link.limits (reset link s).2 = link.limits s := by
  have left : (reset link s).2 = (link.reset s).2 := by
    rw [reset, Attempt.mapError]
    split <;> rename_i h <;> rw [h]
  rw [left, keeps.reset]

theorem Reached.limits_eq (keeps : link.KeepsLimits) (h : Reached link s₀ limits s) :
    link.limits s = limits := by
  induction h with
  | start => rfl
  | call address payload _ ih => rw [limits_call keeps, ih]
  | reset _ ih => rw [limits_deviceReset keeps, ih]
  | setLimits limits _ _ => exact keeps.setLimits limits _

/-- No call finds a response too large, and none hands out more than the limits allow. -/
structure Bounded (link : Link σ) (limits : PayloadLimits) (s : σ) : Prop where
  limits_eq : link.limits s = limits
  never_over : ∀ address payload size max,
    (call link address payload s).1 ≠ .error (.responseTooLarge size max)
  within : ∀ address payload data, (call link address payload s).1 = .ok data →
    data.length ≤ limits.response

theorem outcome_ne_responseTooLarge {limit size max : Nat} {answer : Except LinkError Response}
    (within : ∀ response, answer = .ok response → response.payload.length ≤ limit) :
    outcome limit answer ≠ .error (.responseTooLarge size max) := by
  intro large
  cases answer with
  | error e => cases large
  | ok response =>
    rw [outcome, if_neg (Nat.not_lt.mpr (within response rfl)), returned] at large
    split at large <;> cases large

/-- A call is refused, or comes to what its exchange comes to. -/
theorem call_refused_or_exchanged (link : Link σ) (address : Address) (payload : Bytes) (s : σ) :
    (∃ max, (call link address payload s).1 = .error (.requestTooLarge payload.length max)) ∨
    ∃ answer s', link.exchange (callHeader address payload) payload s = (answer, s') ∧
      (call link address payload s).1 = outcome (link.limits s).response answer := by
  by_cases sendable : Sendable link s payload
  · obtain ⟨-, answer, s', exchanged, asks⟩ := (guards link s).exchanged address payload sendable
    exact .inr ⟨answer, s', exchanged, congrArg Prod.fst asks.plain⟩
  · have asks := (guards link s).refused address payload sendable
    exact .inl ⟨_, congrArg Prod.fst asks.plain⟩

theorem Reached.bounded (keeps : link.KeepsLimits) (receives : link.ReceivesWithin)
    (h : Reached link s₀ limits s) : Bounded link limits s := by
  have same := h.limits_eq keeps
  refine ⟨same, fun address payload size max large => ?_, fun address payload data succeeded => ?_⟩
  · rcases call_refused_or_exchanged link address payload s with
      ⟨bound, refused⟩ | ⟨answer, s', exchanged, came⟩
    · cases refused.symm.trans large
    · refine outcome_ne_responseTooLarge (fun response got => ?_) (came.symm.trans large)
      exact receives _ payload s response s' (got ▸ exchanged)
  · rcases call_refused_or_exchanged link address payload s with
      ⟨bound, refused⟩ | ⟨answer, s', exchanged, came⟩
    · cases refused.symm.trans succeeded
    · rw [← same]
      exact (outcome_eq_ok_iff.mp (came.symm.trans succeeded)).2

/-- A call over the limits of its link asks nothing of it, in whatever state it is; over a recorded
pipe or port the record is a part of that state. Any other call makes one exchange, whose header
has its address and declares its payload. Over pipes and ports, whatever they do, the calls of a
device never find a response too large, and hand out nothing over the limits that were set last. -/
theorem call_guards_link :
    (∀ (σ : Type) (link : Link σ) s, Guards link s) ∧
    (∀ (σ : Type) (pipe : BulkPipe σ) l₀ limits l,
      Reached (PacketLink.link pipe) l₀ limits l → Bounded (PacketLink.link pipe) limits l) ∧
    (∀ (σ : Type) (port : BytePort σ), port.ReadsWithin → ∀ l₀ limits l,
      Reached (StreamLink.link port) l₀ limits l → Bounded (StreamLink.link port) limits l) := by
  refine ⟨fun σ link s => guards link s, fun σ pipe l₀ limits l reached => ?_,
    fun σ port reads l₀ limits l reached => ?_⟩
  · exact reached.bounded (PacketLink.link_keepsLimits pipe) (PacketLink.link_receivesWithin pipe)
  · exact reached.bounded (StreamLink.link_keepsLimits port) (StreamLink.link_receivesWithin reads)

/-- A pipe that went silent in a call, and a port, each with other limits since. The long payload
was refused with the stale link left as it was, and no later call hands out more than an octet. -/
theorem call_guards_link_stale :
    let pipe : PacketLink ScriptedPipe := .onPipe ScriptedPipe.pipe {}
    let stale := (call (PacketLink.link ScriptedPipe.pipe) ⟨0, 0, 2⟩ [] pipe).2
    let port : StreamLink ScriptedPort := { port := { replies := [[.ok [0, 0, 2, 0, 7, 7]]] } }
    let later := (StreamLink.link ScriptedPort.port).setLimits ⟨4, 1⟩ port
    stale.stale = true ∧
      call (PacketLink.link ScriptedPipe.pipe) ⟨0, 0, 2⟩ (List.replicate 513 0) stale =
        (.error (.requestTooLarge 513 512), stale) ∧
      Bounded (PacketLink.link ScriptedPipe.pipe) ⟨4, 1⟩
        ((PacketLink.link ScriptedPipe.pipe).setLimits ⟨4, 1⟩ stale) ∧
      Bounded (StreamLink.link ScriptedPort.port) ⟨4, 1⟩ later := by
  intro pipe stale port later
  obtain ⟨guarded, packets, streams⟩ := call_guards_link
  have long : ¬ Sendable (PacketLink.link ScriptedPipe.pipe) stale (List.replicate 513 0) := by
    rw [Sendable, List.length_replicate]
    decide
  have refused := ((guarded _ _ stale).refused ⟨0, 0, 2⟩ _ long).plain
  rw [requestBound, List.length_replicate] at refused
  exact ⟨rfl, refused, packets _ _ pipe _ _ (.setLimits _ (.call _ _ .start)),
    streams _ _ ScriptedPort.readsWithin port _ _ (.setLimits _ .start)⟩

end Device

end PeripheralBridge
