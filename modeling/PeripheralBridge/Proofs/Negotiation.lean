import Mathlib.Data.List.Forall2
import PeripheralBridge.Link.Stream
import PeripheralBridge.Proofs.LinkRecord
import PeripheralBridge.Proofs.PipeRecord
import PeripheralBridge.Scripted.Link

/-!
# Negotiation over any link

A negotiation can go in four ways: the first query tells no limit, the second tells none, the
limits are too low, or they are agreed on. Only in the last are the limits of the link touched,
and then they are what the device told. With a reset to fall back on there are three ways, since
the second attempt is the last. Discovery leaves one device for each candidate that can be
negotiated with.
-/

namespace PeripheralBridge

/-- The limits of a link are those that were last set, whatever else it has done. -/
structure Link.KeepsLimits {σ : Type} (link : Link σ) : Prop where
  setLimits : ∀ limits s, link.limits (link.setLimits limits s) = limits
  exchange : ∀ header payload s, link.limits (link.exchange header payload s).2 = link.limits s
  reset : ∀ s, link.limits (link.reset s).2 = link.limits s

namespace LinkEvent

def isExchange : LinkEvent → Bool
  | exchange _ _ _ => true
  | _ => false

def isReset : LinkEvent → Bool
  | reset _ => true
  | _ => false

end LinkEvent

namespace Device

variable {σ : Type} {link : Link σ} {function : MetadataFunction} {name : String} {room : Nat}
  {answer : Except LinkError Response} {s s' : σ} {log events : List LinkEvent}
  {r : Except CallError PayloadLimits} {limits : PayloadLimits}

def queryHeader (function : MetadataFunction) : RequestHeader :=
  ⟨⟨PeripheralClass.metadata.id, 0, function.id⟩, 0⟩

def query (function : MetadataFunction) (answer : Except LinkError Response) : LinkEvent :=
  .exchange (queryHeader function) [] answer

/-- What an answer tells of a limit, given the octets a payload may have. -/
def told (name : String) (room : Nat) (answer : Except LinkError Response) :
    Except CallError Nat := do
  let payload ← outcome room answer
  let limit ← readWord name payload
  return limit.toNat

/-- The answer is a success with two octets, least significant first, which there is room for. -/
def Tells (room : Nat) (answer : Except LinkError Response) (limit : Nat) : Prop :=
  ∃ low high, answer = .ok (.success [low, high]) ∧ 2 ≤ room ∧
    limit = low.toNat + 256 * high.toNat

theorem readWord_eq_ok_iff {payload : Bytes} {w : UInt16} :
    readWord name payload = .ok w ↔ ∃ low high, payload = [low, high] ∧ w = word low high := by
  constructor
  · intro h
    rw [readWord.eq_def] at h
    split at h
    · rename_i low high
      exact ⟨low, high, rfl, (Except.ok.inj h).symm⟩
    · cases h
  · rintro ⟨low, high, rfl, rfl⟩
    rfl

theorem told_eq_ok_iff {limit : Nat} :
    told name room answer = .ok limit ↔ Tells room answer limit := by
  constructor
  · intro h
    cases payload_eq : outcome room answer with
    | error e =>
      rw [told, payload_eq] at h
      cases h
    | ok payload =>
      rw [told, payload_eq] at h
      cases word_eq : readWord name payload with
      | error e =>
        simp only [bind, Except.bind, word_eq] at h
        cases h
      | ok w =>
        simp only [bind, Except.bind, word_eq] at h
        cases h
        obtain ⟨low, high, rfl, rfl⟩ := readWord_eq_ok_iff.mp word_eq
        obtain ⟨rfl, fits⟩ := outcome_eq_ok_iff.mp payload_eq
        exact ⟨low, high, rfl, fits, toNat_word low high⟩
  · rintro ⟨low, high, rfl, fits, rfl⟩
    have payload_eq : outcome room (.ok (.success [low, high])) = .ok [low, high] :=
      outcome_eq_ok_iff.mpr ⟨rfl, fits⟩
    rw [told, payload_eq, ← toNat_word]
    rfl

/-- A query is one exchange, and comes to what the answer tells. -/
theorem limitQuery_asked (name : String)
    (asked : link.exchange (queryHeader function) [] s = (answer, s')) :
    limitQuery link function name s = (told name (link.limits s).response answer, s') := by
  have called : metadata link function [] s = (outcome (link.limits s).response answer, s') :=
    call_of_exchange (Nat.zero_le _) (Nat.zero_le _) asked
  cases payload_eq : outcome (link.limits s).response answer with
  | error e =>
    rw [payload_eq] at called
    rw [limitQuery, Attempt.bind_of_error called, told, payload_eq]
    rfl
  | ok payload =>
    rw [payload_eq] at called
    rw [limitQuery, Attempt.bind_of_ok called, told, payload_eq]
    cases word_eq : readWord name payload <;>
      simp [bind, Except.bind, pure, Except.pure, word_eq]

theorem limitQuery_recorded (name : String) (log : List LinkEvent)
    (asked : link.exchange (queryHeader function) [] s = (answer, s')) :
    limitQuery link.recorded function name (s, log) =
      (told name (link.limits s).response answer, s', log ++ [query function answer]) := by
  have recorded : link.recorded.exchange (queryHeader function) [] (s, log) =
      (answer, s', log ++ [query function answer]) := by
    simp only [Link.recorded, asked]
    rfl
  exact limitQuery_asked name recorded

/-- Both queries were made, since the first told a limit. -/
structure Queried (link : Link σ) (s : σ) (answer answer' : Except LinkError Response)
    (request : Nat) (s₁ s₂ : σ) : Prop where
  asked : link.exchange (queryHeader .requestLimit) [] s = (answer, s₁)
  got : told "req_max_size" (link.limits s).response answer = .ok request
  asked' : link.exchange (queryHeader .responseLimit) [] s₁ = (answer', s₂)

/-- The ways in which a negotiation can go: what is asked of the link, the result, and the state
that is left. -/
inductive Negotiated (link : Link σ) (s : σ) :
    List LinkEvent → Except CallError PayloadLimits → σ → Prop where
  | untold {answer : Except LinkError Response} {e : CallError} {s₁ : σ}
      (asked : link.exchange (queryHeader .requestLimit) [] s = (answer, s₁))
      (refused : told "req_max_size" (link.limits s).response answer = .error e) :
      Negotiated link s [query .requestLimit answer] (.error e) s₁
  | halfTold {answer answer' : Except LinkError Response} {request : Nat} {e : CallError}
      {s₁ s₂ : σ} (queried : Queried link s answer answer' request s₁ s₂)
      (refused : told "resp_max_size" (link.limits s₁).response answer' = .error e) :
      Negotiated link s [query .requestLimit answer, query .responseLimit answer'] (.error e) s₂
  | insufficient {answer answer' : Except LinkError Response} {request response : Nat} {s₁ s₂ : σ}
      (queried : Queried link s answer answer' request s₁ s₂)
      (got' : told "resp_max_size" (link.limits s₁).response answer' = .ok response)
      (low : ¬ (⟨request, response⟩ : PayloadLimits).Sufficient) :
      Negotiated link s [query .requestLimit answer, query .responseLimit answer']
        (.error (.insufficientLimits ⟨request, response⟩)) s₂
  | agreed {answer answer' : Except LinkError Response} {request response : Nat} {s₁ s₂ : σ}
      (queried : Queried link s answer answer' request s₁ s₂)
      (got' : told "resp_max_size" (link.limits s₁).response answer' = .ok response)
      (sufficient : (⟨request, response⟩ : PayloadLimits).Sufficient) :
      Negotiated link s
        [query .requestLimit answer, query .responseLimit answer',
          .setLimits ⟨request, response⟩]
        (.ok ⟨request, response⟩) (link.setLimits ⟨request, response⟩ s₂)

theorem exists_negotiated (link : Link σ) (s : σ) :
    ∃ events r s', Negotiated link s events r s' := by
  rcases asked : link.exchange (queryHeader .requestLimit) [] s with ⟨answer, s₁⟩
  cases got : told "req_max_size" (link.limits s).response answer with
  | error e => exact ⟨_, _, _, .untold asked got⟩
  | ok request =>
    rcases asked' : link.exchange (queryHeader .responseLimit) [] s₁ with ⟨answer', s₂⟩
    have queried : Queried link s answer answer' request s₁ s₂ := ⟨asked, got, asked'⟩
    cases got' : told "resp_max_size" (link.limits s₁).response answer' with
    | error e => exact ⟨_, _, _, .halfTold queried got'⟩
    | ok response =>
      by_cases sufficient : (⟨request, response⟩ : PayloadLimits).Sufficient
      · exact ⟨_, _, _, .agreed queried got' sufficient⟩
      · exact ⟨_, _, _, .insufficient queried got' sufficient⟩

theorem Queried.recorded {answer' : Except LinkError Response} {request : Nat} {s₁ s₂ : σ}
    (h : Queried link s answer answer' request s₁ s₂) (log : List LinkEvent) :
    requestLimit link.recorded (s, log) =
        (.ok request, s₁, log ++ [query .requestLimit answer]) ∧
      responseLimit link.recorded (s₁, log ++ [query .requestLimit answer]) =
        (told "resp_max_size" (link.limits s₁).response answer', s₂,
          log ++ [query .requestLimit answer, query .responseLimit answer']) := by
  constructor
  · rw [← h.got]
    exact limitQuery_recorded "req_max_size" log h.asked
  · have second := limitQuery_recorded "resp_max_size" (log ++ [query .requestLimit answer])
      h.asked'
    rwa [List.append_assoc] at second

theorem Negotiated.recorded (h : Negotiated link s events r s') (log : List LinkEvent) :
    negotiate link.recorded (s, log) = (r, s', log ++ events) := by
  cases h with
  | untold asked refused =>
    have first := limitQuery_recorded "req_max_size" log asked
    rw [refused] at first
    exact Attempt.bind_of_error first _
  | halfTold queried refused =>
    obtain ⟨first, second⟩ := queried.recorded log
    rw [refused] at second
    rw [negotiate, Attempt.bind_of_ok first, Attempt.bind_of_error second]
  | insufficient queried got' low =>
    obtain ⟨first, second⟩ := queried.recorded log
    rw [got'] at second
    rw [negotiate, Attempt.bind_of_ok first, Attempt.bind_of_ok second, if_neg low]
    rfl
  | agreed queried got' sufficient =>
    obtain ⟨first, second⟩ := queried.recorded log
    rw [got'] at second
    rw [negotiate, Attempt.bind_of_ok first, Attempt.bind_of_ok second, if_pos sufficient]
    simp [Attempt.bind_apply, Link.recorded]

theorem Negotiated.plain (h : Negotiated link s events r s') : negotiate link s = (r, s') := by
  obtain ⟨_, plain, rfl⟩ := (negotiate_alike link.recorded_alike).step (t := s) rfl (h.recorded [])
  exact plain

/-- The ways in which a negotiation with a reset to fall back on can go. -/
inductive Settled (link : Link σ) (s : σ) :
    List LinkEvent → Except CallError PayloadLimits → σ → Prop where
  | atOnce {events : List LinkEvent} {limits : PayloadLimits} {s₁ : σ}
      (first : Negotiated link s events (.ok limits) s₁) : Settled link s events (.ok limits) s₁
  | unreset {events : List LinkEvent} {e : CallError} {f : LinkError} {s₁ s₂ : σ}
      (first : Negotiated link s events (.error e) s₁)
      (refused : link.reset s₁ = (.error f, s₂)) :
      Settled link s (events ++ [.reset (.error f)]) (.error (.link f)) s₂
  | again {before after : List LinkEvent} {e : CallError} {r : Except CallError PayloadLimits}
      {s₁ s₂ s₃ : σ} (first : Negotiated link s before (.error e) s₁)
      (reset : link.reset s₁ = (.ok (), s₂)) (second : Negotiated link s₂ after r s₃) :
      Settled link s (before ++ .reset (.ok ()) :: after) r s₃

theorem exists_settled (link : Link σ) (s : σ) : ∃ events r s', Settled link s events r s' := by
  obtain ⟨before, r, s₁, first⟩ := exists_negotiated link s
  cases r with
  | ok limits => exact ⟨_, _, _, .atOnce first⟩
  | error e =>
    rcases hreset : link.reset s₁ with ⟨answer, s₂⟩
    cases answer with
    | error f => exact ⟨_, _, _, .unreset first hreset⟩
    | ok _ =>
      obtain ⟨after, r, s₃, second⟩ := exists_negotiated link s₂
      exact ⟨_, _, _, .again first hreset second⟩

theorem reset_recorded {answer : Except LinkError Unit} (reset : link.reset s = (answer, s'))
    (log : List LinkEvent) :
    Device.reset link.recorded (s, log) =
      (answer.mapError .link, s', log ++ [.reset answer]) := by
  have recorded : link.recorded.reset (s, log) = (answer, s', log ++ [.reset answer]) := by
    simp only [Link.recorded, reset]
  cases answer with
  | error f => exact Attempt.mapError_of_error recorded _
  | ok _ => exact Attempt.mapError_of_ok recorded _

theorem Settled.recorded (h : Settled link s events r s') (log : List LinkEvent) :
    negotiateWithReset link.recorded (s, log) = (r, s', log ++ events) := by
  cases h with
  | atOnce first => rw [negotiateWithReset, first.recorded log]
  | unreset first refused =>
    rw [negotiateWithReset, first.recorded log]
    simp only [reset_recorded refused, List.append_assoc]
    rfl
  | again first reset second =>
    rw [negotiateWithReset, first.recorded log]
    simp only [reset_recorded reset, List.append_assoc]
    refine (second.recorded _).trans ?_
    simp

theorem Settled.plain (h : Settled link s events r s') : negotiateWithReset link s = (r, s') := by
  obtain ⟨_, plain, rfl⟩ :=
    (negotiateWithReset_alike link.recorded_alike).step (t := s) rfl (h.recorded [])
  exact plain

/-- The second query is made only if the answer to the first tells a limit. -/
def AskedInTurn (room : Nat) (exchanges : List LinkEvent) : Prop :=
  (∃ answer, exchanges = [query .requestLimit answer] ∧ ∀ n, ¬ Tells room answer n) ∨
    ∃ answer answer' n, exchanges = [query .requestLimit answer, query .responseLimit answer'] ∧
      Tells room answer n

/-- Both queries were made, and the limits are what the answers tell and high enough. -/
def Agreed (room : Nat) (exchanges : List LinkEvent) (limits : PayloadLimits) : Prop :=
  ∃ answer answer', exchanges = [query .requestLimit answer, query .responseLimit answer'] ∧
    Tells room answer limits.request ∧ Tells room answer' limits.response ∧ limits.Sufficient

theorem not_tells {e : CallError} (refused : told name room answer = .error e) (n : Nat) :
    ¬ Tells room answer n := by
  intro tells
  cases refused.symm.trans (told_eq_ok_iff.mpr tells)

theorem Tells.unique {n m : Nat} (h : Tells room answer n) (h' : Tells room answer m) : n = m := by
  obtain ⟨low, high, rfl, _, rfl⟩ := h
  obtain ⟨low', high', same, _, rfl⟩ := h'
  cases same
  rfl

theorem AskedInTurn.length_le {exchanges : List LinkEvent} (h : AskedInTurn room exchanges) :
    exchanges.length ≤ 2 := by
  rcases h with ⟨_, rfl, _⟩ | ⟨_, _, _, rfl, _⟩
  · exact Nat.le_succ 1
  · exact Nat.le_refl 2

theorem Negotiated.askedInTurn (h : Negotiated link s events r s') :
    AskedInTurn (link.limits s).response (events.filter LinkEvent.isExchange) := by
  cases h with
  | untold _ refused => exact .inl ⟨_, rfl, not_tells refused⟩
  | halfTold queried _ | insufficient queried _ _ | agreed queried _ _ =>
    exact .inr ⟨_, _, _, rfl, told_eq_ok_iff.mp queried.got⟩

theorem Negotiated.unreset (h : Negotiated link s events r s') :
    events.filter LinkEvent.isReset = [] := by
  cases h <;> rfl

theorem Settled.few (h : Settled link s events r s') :
    (events.filter LinkEvent.isExchange).length ≤ 4 := by
  cases h with
  | atOnce first =>
    have few := first.askedInTurn.length_le
    omega
  | unreset first _ =>
    have few := first.askedInTurn.length_le
    rw [List.filter_append, List.length_append]
    exact Nat.add_le_add few (Nat.zero_le 2)
  | again first _ second =>
    rw [List.filter_append, List.length_append]
    exact Nat.add_le_add first.askedInTurn.length_le second.askedInTurn.length_le

/-- The link is reset once if the first negotiation fails, and not at all otherwise. -/
theorem Settled.resets_length (h : Settled link s events r s') :
    (events.filter LinkEvent.isReset).length = if (negotiate link s).1.isOk then 0 else 1 := by
  cases h with
  | atOnce first =>
    rw [first.unreset, first.plain]
    rfl
  | unreset first _ =>
    rw [List.filter_append, first.unreset, first.plain]
    rfl
  | again first _ second =>
    rw [List.filter_append, first.unreset, first.plain]
    exact congrArg (List.length · + 1) second.unreset

section Limits

variable (keeps : link.KeepsLimits)
include keeps

theorem limits_asked (asked : link.exchange (queryHeader function) [] s = (answer, s')) :
    link.limits s' = link.limits s := by
  have kept := keeps.exchange (queryHeader function) [] s
  rwa [asked] at kept

theorem Queried.limits_eq {answer' : Except LinkError Response} {request : Nat} {s₁ s₂ : σ}
    (h : Queried link s answer answer' request s₁ s₂) :
    link.limits s₁ = link.limits s ∧ link.limits s₂ = link.limits s := by
  have first := limits_asked keeps h.asked
  exact ⟨first, (limits_asked keeps h.asked').trans first⟩

theorem limits_reset {answer : Except LinkError Unit} (reset : link.reset s = (answer, s')) :
    link.limits s' = link.limits s := by
  have kept := keeps.reset s
  rwa [reset] at kept

/-- The limits of a link after a negotiation that came to a result. -/
def limitsAfter (old : PayloadLimits) : Except CallError PayloadLimits → PayloadLimits
  | .ok limits => limits
  | .error _ => old

/-- A negotiation leaves the limits as they were unless they were agreed on. -/
theorem Negotiated.limits_eq (h : Negotiated link s events r s') :
    link.limits s' = limitsAfter (link.limits s) r := by
  cases h with
  | untold asked _ => exact limits_asked keeps asked
  | halfTold queried _ | insufficient queried _ _ => exact (queried.limits_eq keeps).2
  | agreed _ _ _ => exact keeps.setLimits _ _

theorem Settled.limits_eq (h : Settled link s events r s') :
    link.limits s' = limitsAfter (link.limits s) r := by
  cases h with
  | atOnce first => exact first.limits_eq keeps
  | unreset first refused =>
    have kept := first.limits_eq keeps
    exact (limits_reset keeps refused).trans kept
  | again first reset second =>
    rw [second.limits_eq keeps, limits_reset keeps reset, first.limits_eq keeps]
    rfl

/-- Where both answers tell a limit, no others can be agreed on. -/
theorem Queried.agreed_iff {answer' : Except LinkError Response} {request response : Nat}
    {s₁ s₂ : σ} (h : Queried link s answer answer' request s₁ s₂) (limits : PayloadLimits)
    (got' : told "resp_max_size" (link.limits s₁).response answer' = .ok response) :
    Agreed (link.limits s).response [query .requestLimit answer, query .responseLimit answer']
        limits ↔
      limits = ⟨request, response⟩ ∧ limits.Sufficient := by
  -- the second answer is judged by the limits of `s` too, since they are still in force
  rw [(h.limits_eq keeps).1] at got'
  have tells := told_eq_ok_iff.mp h.got
  have tells' := told_eq_ok_iff.mp got'
  constructor
  · rintro ⟨_, _, same, told, told', sufficient⟩
    cases same
    rw [← told.unique tells, ← told'.unique tells']
    exact ⟨rfl, sufficient⟩
  · rintro ⟨rfl, sufficient⟩
    exact ⟨_, _, rfl, tells, tells', sufficient⟩

/-- A negotiation succeeds exactly when limits are agreed on, and with these limits. -/
theorem Negotiated.eq_ok_iff (h : Negotiated link s events r s') :
    r = .ok limits ↔
      Agreed (link.limits s).response (events.filter LinkEvent.isExchange) limits := by
  cases h with
  | untold _ _ =>
    constructor
    · intro h
      cases h
    · rintro ⟨_, _, same, _⟩
      cases same
  | halfTold queried refused =>
    rw [(queried.limits_eq keeps).1] at refused
    constructor
    · intro h
      cases h
    · rintro ⟨_, _, same, _, tells, _⟩
      cases same
      exact False.elim (not_tells refused _ tells)
  | insufficient queried got' low =>
    have agreed_iff := queried.agreed_iff keeps limits got'
    constructor
    · intro h
      cases h
    · intro agreed
      obtain ⟨rfl, sufficient⟩ := agreed_iff.mp agreed
      exact False.elim (low sufficient)
  | agreed queried got' sufficient =>
    have agreed_iff := queried.agreed_iff keeps limits got'
    constructor
    · intro h
      cases h
      exact agreed_iff.mpr ⟨rfl, sufficient⟩
    · intro agreed
      rw [(agreed_iff.mp agreed).1]

end Limits

/-- What a negotiation is: it asks in turn and resets nothing, it succeeds exactly with the limits
that are agreed on, and it changes the limits only if it succeeds. -/
structure NegotiatesAtomically (link : Link σ) (s : σ) (events : List LinkEvent)
    (r : Except CallError PayloadLimits) (s' : σ) : Prop where
  unrecorded : negotiate link s = (r, s')
  inTurn : AskedInTurn (link.limits s).response (events.filter LinkEvent.isExchange)
  unreset : events.filter LinkEvent.isReset = []
  eq_ok_iff : ∀ limits, r = .ok limits ↔
    Agreed (link.limits s).response (events.filter LinkEvent.isExchange) limits
  limits_eq : link.limits s' = limitsAfter (link.limits s) r

/-- What a negotiation with a reset is: one negotiation, and after a failure one reset and, if that
succeeds, one more negotiation. -/
structure NegotiatesAtMostTwice (link : Link σ) (s : σ) (events : List LinkEvent)
    (r : Except CallError PayloadLimits) (s' : σ) : Prop where
  unrecorded : negotiateWithReset link s = (r, s')
  few : (events.filter LinkEvent.isExchange).length ≤ 4
  once : match negotiate link s with
    | (.ok limits, s₁) => events.filter LinkEvent.isReset = [] ∧ (r, s') = (.ok limits, s₁)
    | (.error _, s₁) =>
      match link.reset s₁ with
      | (.error f, s₂) =>
        events.filter LinkEvent.isReset = [.reset (.error f)] ∧ (r, s') = (.error (.link f), s₂)
      | (.ok (), s₂) =>
        events.filter LinkEvent.isReset = [.reset (.ok ())] ∧ (r, s') = negotiate link s₂
  limits_eq : link.limits s' = limitsAfter (link.limits s) r

theorem Settled.atMostTwice (h : Settled link s events r s') (keeps : link.KeepsLimits) :
    NegotiatesAtMostTwice link s events r s' := by
  refine ⟨h.plain, h.few, ?_, h.limits_eq keeps⟩
  cases h with
  | atOnce first =>
    rw [first.plain]
    exact ⟨first.unreset, rfl⟩
  | unreset first refused =>
    simp only [first.plain, refused, List.filter_append, first.unreset]
    exact ⟨rfl, trivial⟩
  | again first reset second =>
    simp only [first.plain, reset, List.filter_append, first.unreset, second.plain]
    refine ⟨?_, trivial⟩
    exact congrArg (LinkEvent.reset (.ok ()) :: ·) second.unreset

/-- The devices that are discovered are the opened candidates that can be negotiated with, in
order, each after its negotiation. -/
theorem discover_forall₂ (link : Link σ) (candidates : List (Except LinkError σ)) :
    List.Forall₂ (fun s d => ∃ limits, negotiateWithReset link s = (.ok limits, d))
      ((candidates.filterMap Except.toOption).filter fun s => (negotiateWithReset link s).1.isOk)
      (discover link candidates) := by
  induction candidates with
  | nil => exact .nil
  | cons c rest ih =>
    cases c with
    | error e => exact ih
    | ok s =>
      rcases h : negotiateWithReset link s with ⟨r, d⟩
      cases r <;> simpa [discover_ok, h, Except.isOk, Except.toBool, Except.toOption] using ih

/-- Over any link that keeps its limits, a negotiation applies the limits that the device tells or
leaves the link's own, and after a failure one reset and one more negotiation follow. Discovery
yields the candidates that can be negotiated with, each with its own limits, whatever the others
are. -/
theorem limits_agreed_or_kept (link : Link σ) (keeps : link.KeepsLimits) :
    (∀ s r s' events, negotiate link.recorded (s, []) = (r, s', events) →
      NegotiatesAtomically link s events r s') ∧
    (∀ s r s' events, negotiateWithReset link.recorded (s, []) = (r, s', events) →
      NegotiatesAtMostTwice link s events r s') ∧
    (∀ candidates, List.Forall₂
      (fun s d => ∃ limits, negotiateWithReset link s = (.ok limits, d) ∧ link.limits d = limits)
      ((candidates.filterMap Except.toOption).filter fun s => (negotiateWithReset link s).1.isOk)
      (discover link candidates)) ∧
    (∀ before after, discover link (before ++ after) =
      discover link before ++ discover link after) := by
  refine ⟨?_, ?_, ?_, ?_⟩
  · intro s r s' events logged
    obtain ⟨events', r', left, h⟩ := exists_negotiated link s
    cases logged.symm.trans (h.recorded [])
    exact ⟨h.plain, h.askedInTurn, h.unreset, fun _ => h.eq_ok_iff keeps, h.limits_eq keeps⟩
  · intro s r s' events logged
    obtain ⟨events', r', left, h⟩ := exists_settled link s
    cases logged.symm.trans (h.recorded [])
    exact h.atMostTwice keeps
  · intro candidates
    refine (discover_forall₂ link candidates).imp ?_
    rintro s d ⟨limits, negotiated⟩
    obtain ⟨events, r, left, h⟩ := exists_settled link s
    cases negotiated.symm.trans h.plain
    exact ⟨limits, negotiated, h.limits_eq keeps⟩
  · exact discover_append link

end Device

theorem PacketLink.link_keepsLimits {σ : Type} (pipe : BulkPipe σ) :
    (PacketLink.link pipe).KeepsLimits where
  setLimits _ _ := rfl
  exchange header payload l := by
    obtain ⟨_, r, l', exchanged, plain, _⟩ := PacketLink.exchange_recorded pipe l header payload
    simp only [PacketLink.link, plain]
    cases exchanged <;> rfl
  reset l := by
    simp only [PacketLink.link, PacketLink.reset]
    split <;> rfl

theorem StreamLink.link_keepsLimits {σ : Type} (port : BytePort σ) :
    (StreamLink.link port).KeepsLimits where
  setLimits _ _ := rfl
  exchange _ _ _ := rfl
  reset _ := rfl

theorem ScriptedLink.link_keepsLimits : ScriptedLink.link.KeepsLimits where
  setLimits _ _ := rfl
  exchange _ _ l := by
    simp only [ScriptedLink.link, ScriptedLink.exchange]
    split <;> rfl
  reset l := by
    simp only [ScriptedLink.link, ScriptedLink.reset]
    split <;> rfl

namespace Device

/-- A device that is silent until it is reset and then tells 512 and 516, behind a candidate that
could not be opened and one that tells too little for either attempt. -/
theorem limits_agreed_or_kept_silent :
    let device : ScriptedLink :=
      { replies := [.error .closed]
        afterReset := [.ok (.success [0, 2]), .ok (.success [4, 2])] }
    let low : ScriptedLink :=
      { replies := List.replicate 4 (.ok (.success [255, 1])) }
    ScriptedLink.link.KeepsLimits ∧
      (negotiate ScriptedLink.link device).1 = .error (.link .closed) ∧
      (∃ d, (negotiateWithReset ScriptedLink.link device) = (.ok ⟨512, 516⟩, d) ∧
        ScriptedLink.link.limits d = ⟨512, 516⟩) ∧
      ∃ d, discover ScriptedLink.link [.error .closed, .ok low, .ok device] = [d] ∧
        ScriptedLink.link.limits d = ⟨512, 516⟩ := by
  intro device low
  have keeps := ScriptedLink.link_keepsLimits
  obtain ⟨once, twice, discovered, _⟩ := limits_agreed_or_kept ScriptedLink.link keeps
  have unanswered := (once device _ _ _ rfl).unrecorded
  have settled := twice device _ _ _ rfl
  have found := discovered [.error .closed, .ok low, .ok device]
  change List.Forall₂ _ [device] [_] at found
  obtain ⟨limits, negotiated, kept⟩ := (List.forall₂_cons.mp found).1
  cases settled.unrecorded.symm.trans negotiated
  exact ⟨keeps, congrArg Prod.fst unanswered, ⟨_, settled.unrecorded, settled.limits_eq⟩,
    _, rfl, kept⟩

end Device

end PeripheralBridge
