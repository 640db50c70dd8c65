import PeripheralBridge.Device.Discovery
import PeripheralBridge.Proofs.Calls

/-!
# What is asked of a link

A recorded link answers as the link does and keeps what it was asked, with each answer. That a
record changes nothing is one case of a more general fact: over two links that answer alike,
whatever states they keep, a device is called, asked for its limits and negotiated with alike.
-/

namespace PeripheralBridge

/-- From related states two attempts come to the same result and leave related states. -/
def Attempt.Alike {σ τ ε α : Type} (R : σ → τ → Prop) (x : Attempt σ ε α) (y : Attempt τ ε α) :
    Prop :=
  ∀ s t, R s t → (x s).1 = (y t).1 ∧ R (x s).2 (y t).2

namespace Attempt.Alike

variable {σ τ ε δ α β : Type} {R : σ → τ → Prop} {x : Attempt σ ε α} {y : Attempt τ ε α}
  {s : σ} {t : τ} {s' : σ} {r : Except ε α}

/-- The result and the state of one attempt tell what the other comes to. -/
theorem step (alike : Alike R x y) (related : R s t) (h : x s = (r, s')) :
    ∃ t', y t = (r, t') ∧ R s' t' := by
  obtain ⟨result, left⟩ := alike s t related
  rw [h] at result left
  exact ⟨(y t).2, Prod.ext result.symm rfl, left⟩

theorem pure (a : α) : Alike R (Pure.pure a : Attempt σ ε α) (Pure.pure a) :=
  fun _ _ related => ⟨rfl, related⟩

theorem throw (e : ε) : Alike R (MonadExcept.throw e : Attempt σ ε α) (MonadExcept.throw e) :=
  fun _ _ related => ⟨rfl, related⟩

theorem ofExcept (r : Except ε α) : Alike R (Attempt.ofExcept r) (Attempt.ofExcept r) :=
  fun _ _ related => ⟨rfl, related⟩

theorem update {f : σ → σ} {g : τ → τ} (keeps : ∀ s t, R s t → R (f s) (g t)) :
    Alike R (Attempt.update f : Attempt σ ε Unit) (Attempt.update g) :=
  fun s t related => ⟨rfl, keeps s t related⟩

theorem bind {f : α → Attempt σ ε β} {g : α → Attempt τ ε β} (first : Alike R x y)
    (next : ∀ a, Alike R (f a) (g a)) : Alike R (x >>= f) (y >>= g) := by
  intro s t related
  rcases h : x s with ⟨r, s'⟩
  obtain ⟨t', h', related'⟩ := first.step related h
  cases r with
  | error e =>
    rw [Attempt.bind_of_error h, Attempt.bind_of_error h']
    exact ⟨rfl, related'⟩
  | ok a =>
    rw [Attempt.bind_of_ok h, Attempt.bind_of_ok h']
    exact next a s' t' related'

theorem mapError (f : ε → δ) (alike : Alike R x y) : Alike R (x.mapError f) (y.mapError f) := by
  intro s t related
  rcases h : x s with ⟨r, s'⟩
  obtain ⟨t', h', related'⟩ := alike.step related h
  cases r with
  | error e =>
    rw [Attempt.mapError_of_error h, Attempt.mapError_of_error h']
    exact ⟨rfl, related'⟩
  | ok a =>
    rw [Attempt.mapError_of_ok h, Attempt.mapError_of_ok h']
    exact ⟨rfl, related'⟩

end Attempt.Alike

/-- A part of a state can be read and replaced, and nothing else changes with it. -/
structure IsPart {σ τ : Type} (get : τ → σ) (set : σ → τ → τ) : Prop where
  get_set : ∀ s t, get (set s t) = s
  set_set : ∀ s s' t, set s' (set s t) = set s' t
  set_get : ∀ t, set (get t) t = t

/-- From related states two links have the same limits, answer alike and stay related. -/
structure Link.Alike {σ τ : Type} (R : σ → τ → Prop) (a : Link σ) (b : Link τ) : Prop where
  limits : ∀ s t, R s t → a.limits s = b.limits t
  setLimits : ∀ l s t, R s t → R (a.setLimits l s) (b.setLimits l t)
  exchange : ∀ header payload, Attempt.Alike R (a.exchange header payload)
    (b.exchange header payload)
  reset : Attempt.Alike R a.reset b.reset

/-- A link to a part answers as the link does, and leaves the rest alone. -/
theorem Link.onPart_alike {σ τ : Type} {get : τ → σ} {set : σ → τ → τ} (part : IsPart get set)
    (link : Link σ) (t : τ) : Alike (fun x s => x = set s t) (link.onPart get set) link where
  limits := by
    rintro _ s rfl
    exact congrArg link.limits (part.get_set s t)
  setLimits limits := by
    rintro _ s rfl
    simp only [onPart, part.get_set, part.set_set]
  exchange header payload := by
    rintro _ s rfl
    simp only [onPart, Attempt.onPart, part.get_set, part.set_set]
    trivial
  reset := by
    rintro _ s rfl
    simp only [onPart, Attempt.onPart, part.get_set, part.set_set]
    trivial

theorem isPart_alone {σ : Type} : IsPart (Prod.fst : σ × Unit → σ) fun s _ => (s, ()) where
  get_set _ _ := rfl
  set_set _ _ _ := rfl
  set_get _ := rfl

theorem isPart_named {ι σ : Type} [DecidableEq ι] :
    IsPart (fun x : ι × (ι → σ) => x.2 x.1)
      fun s x => (x.1, fun i => if i = x.1 then s else x.2 i) where
  get_set s x := if_pos rfl
  set_set s s' x := by
    refine Prod.ext rfl (funext fun i => ?_)
    by_cases named : i = x.1 <;> simp [named]
  set_get x := by
    refine Prod.ext rfl (funext fun i => ?_)
    by_cases named : i = x.1 <;> simp [named]

namespace Device

open Attempt

/-- Ask for a limit. Both limits are asked for in this way. -/
def limitQuery {σ : Type} (link : Link σ) (function : MetadataFunction) (name : String) :
    Attempt σ CallError Nat := do
  let payload ← metadata link function []
  let limit ← Attempt.ofExcept (readWord name payload)
  return limit.toNat

variable {σ τ : Type} {R : σ → τ → Prop} {a : Link σ} {b : Link τ} (alike : Link.Alike R a b)
include alike

theorem call_alike (address : Address) (payload : Bytes) :
    Alike R (call a address payload) (call b address payload) := by
  intro s t related
  have limits := alike.limits s t related
  by_cases exceeds : (a.limits s).request < payload.length
  · rw [call_of_over exceeds, call_of_over (limits ▸ exceeds), limits]
    exact ⟨rfl, related⟩
  have fits := Nat.le_of_not_lt exceeds
  by_cases undeclarable : declarableMax < payload.length
  · rw [call_of_undeclarable fits undeclarable, call_of_undeclarable (limits ▸ fits) undeclarable]
    exact ⟨rfl, related⟩
  have declarable := Nat.le_of_not_lt undeclarable
  rcases h : a.exchange ⟨address, UInt16.ofNat payload.length⟩ payload s with ⟨r, s'⟩
  obtain ⟨t', h', related'⟩ := (alike.exchange _ payload).step related h
  rw [call_of_exchange fits declarable h, call_of_exchange (limits ▸ fits) declarable h', limits]
  exact ⟨rfl, related'⟩

theorem limitQuery_alike (function : MetadataFunction) (name : String) :
    Alike R (limitQuery a function name) (limitQuery b function name) :=
  (call_alike alike _ _).bind fun _ => (Alike.ofExcept _).bind fun _ => Alike.pure _

theorem negotiate_alike : Alike R (negotiate a) (negotiate b) := by
  refine (limitQuery_alike alike .requestLimit _).bind fun request => ?_
  refine (limitQuery_alike alike .responseLimit _).bind fun response => ?_
  by_cases sufficient : (⟨request, response⟩ : PayloadLimits).Sufficient
  · simp only [if_pos sufficient]
    exact (Alike.update (alike.setLimits _)).bind fun _ => Alike.pure _
  · simp only [if_neg sufficient]
    exact Alike.throw _

theorem reset_alike : Alike R (Device.reset a) (Device.reset b) := alike.reset.mapError _

theorem negotiateWithReset_alike : Alike R (negotiateWithReset a) (negotiateWithReset b) := by
  intro s t related
  rcases h : negotiate a s with ⟨r, s₁⟩
  obtain ⟨t₁, h', related₁⟩ := (negotiate_alike alike).step related h
  cases r with
  | ok limits =>
    rw [negotiateWithReset, negotiateWithReset, h, h']
    exact ⟨rfl, related₁⟩
  | error e =>
    rcases hr : Device.reset a s₁ with ⟨r, s₂⟩
    obtain ⟨t₂, hr', related₂⟩ := (reset_alike alike).step related₁ hr
    simp only [negotiateWithReset, h, h', hr, hr']
    cases r with
    | ok _ => exact negotiate_alike alike s₂ t₂ related₂
    | error e => exact ⟨rfl, related₂⟩

omit alike

theorem negotiateWithReset_onPart {get : τ → σ} {set : σ → τ → τ} (part : IsPart get set)
    (link : Link σ) (t : τ) :
    negotiateWithReset (link.onPart get set) t =
      ((negotiateWithReset link (get t)).1, set (negotiateWithReset link (get t)).2 t) :=
  Prod.ext_iff.mpr (negotiateWithReset_alike (link.onPart_alike part t) t (get t)
    (part.set_get t).symm)

@[simp] theorem discover_nil (link : Link σ) : discover link [] = [] := rfl

@[simp] theorem discover_error (link : Link σ) (e : LinkError)
    (rest : List (Except LinkError σ)) :
    discover link (.error e :: rest) = discover link rest := rfl

/-- A candidate that passes is kept as its negotiation leaves it, and another is dropped. -/
theorem discover_ok (link : Link σ) (s : σ) (rest : List (Except LinkError σ)) :
    discover link (.ok s :: rest) =
      if (negotiateWithReset link s).1.isOk then
        (negotiateWithReset link s).2 :: discover link rest
      else discover link rest := by
  rw [discover, discoverIn, Link.alone, negotiateWithReset_onPart isPart_alone]
  rcases negotiateWithReset link s with ⟨r | limits, d⟩ <;> rfl

theorem discover_append (link : Link σ) (before after : List (Except LinkError σ)) :
    discover link (before ++ after) = discover link before ++ discover link after := by
  induction before with
  | nil => rfl
  | cons c rest ih =>
    cases c with
    | error e => exact ih
    | ok s =>
      rw [List.cons_append, discover_ok, discover_ok, ih]
      split <;> rfl

/-- Where a link answers as another does once something is left out of its states, it discovers
the same devices, but for what is left out. -/
theorem discover_map {f : σ → τ} (alike : Link.Alike (fun s t => f s = t) a b)
    (candidates : List (Except LinkError σ)) :
    discover b (candidates.map (·.map f)) = (discover a candidates).map f := by
  induction candidates with
  | nil => rfl
  | cons c rest ih =>
    cases c with
    | error e => exact ih
    | ok s =>
      obtain ⟨result, left⟩ := negotiateWithReset_alike alike s (f s) rfl
      rw [List.map_cons, Except.map, discover_ok, discover_ok, ← result, ← left, ih]
      split <;> rfl

/-- Among links that are kept by name, a discovery changes the links of the candidates that could be
opened, each as its negotiation leaves it, and no other. -/
theorem discoverIn_named {ι : Type} [DecidableEq ι] (link : Link σ)
    {candidates : List (Except LinkError ι)}
    (apart : (candidates.filterMap Except.toOption).Nodup) (links : ι → σ) :
    let (devices, after) := discoverIn link.named candidates links
    devices.map after = discover link (candidates.map (·.map links)) ∧
    (∀ i, .ok i ∈ candidates → after i = (negotiateWithReset link (links i)).2) ∧
    ∀ i, .ok i ∉ candidates → after i = links i := by
  induction candidates generalizing links with
  | nil => simp [discoverIn]
  | cons c rest ih =>
    cases c with
    | error e => simpa [discoverIn, Except.map] using ih apart links
    | ok i =>
      obtain ⟨alone, apart⟩ := List.nodup_cons.mp apart
      have elsewhere : ∀ j, .ok j ∈ rest → j ≠ i := by
        rintro j mem rfl
        exact alone (List.mem_filterMap.mpr ⟨_, mem, rfl⟩)
      let left : ι → σ := fun j => if j = i then (negotiateWithReset link (links i)).2 else links j
      have step : negotiateWithReset link.named (i, links) =
          ((negotiateWithReset link (links i)).1, i, left) :=
        negotiateWithReset_onPart isPart_named link (i, links)
      -- the negotiation with this candidate leaves the links of those behind it alone
      have others : rest.map (·.map left) = rest.map (·.map links) := by
        refine List.map_congr_left fun c mem => ?_
        cases c with
        | error e => rfl
        | ok j => exact congrArg Except.ok (if_neg (elsewhere j mem))
      rcases later : discoverIn link.named rest left with ⟨devices, after⟩
      obtain ⟨found, changed, kept⟩ := ih apart left
      simp only [later] at found changed kept
      have own : after i = (negotiateWithReset link (links i)).2 := by
        rw [kept i fun mem => elsewhere i mem rfl]
        exact if_pos rfl
      rw [discoverIn, step, List.map_cons, Except.map, discover_ok, ← others]
      have examined : ∀ j, .ok j ∈ .ok i :: rest →
          after j = (negotiateWithReset link (links j)).2 := by
        intro j mem
        rcases List.mem_cons.mp mem with same | mem
        · cases same
          exact own
        · rw [changed j mem]
          exact congrArg (fun s => (negotiateWithReset link s).2) (if_neg (elsewhere j mem))
      have untouched : ∀ j, .ok j ∉ .ok i :: rest → after j = links j := by
        intro j out
        obtain ⟨other, out⟩ := not_or.mp (mt List.mem_cons.mpr out)
        rw [kept j out]
        exact if_neg fun same => other (congrArg Except.ok same)
      cases (negotiateWithReset link (links i)).1 with
      | error e =>
        simp only [later]
        exact ⟨found, examined, untouched⟩
      | ok limits =>
        simp only [later]
        exact ⟨by rw [List.map_cons, own, found]; rfl, examined, untouched⟩

end Device

inductive LinkEvent where
  | exchange (header : RequestHeader) (payload : Bytes) (answer : Except LinkError Response)
  | reset (answer : Except LinkError Unit)
  | setLimits (limits : PayloadLimits)

namespace Link

variable {σ : Type}

def recorded (link : Link σ) : Link (σ × List LinkEvent) where
  kind s := link.kind s.1
  limits s := link.limits s.1
  setLimits limits s := (link.setLimits limits s.1, s.2 ++ [.setLimits limits])
  exchange header payload s :=
    let (answer, left) := link.exchange header payload s.1
    (answer, left, s.2 ++ [.exchange header payload answer])
  reset s :=
    let (answer, left) := link.reset s.1
    (answer, left, s.2 ++ [.reset answer])

/-- A record changes nothing. -/
theorem recorded_alike (link : Link σ) : Alike (fun s t => s.1 = t) link.recorded link where
  limits _ _ related := congrArg link.limits related
  setLimits limits _ _ related := congrArg (link.setLimits limits) related
  exchange _ _ := by
    rintro s _ rfl
    exact ⟨rfl, rfl⟩
  reset := by
    rintro s _ rfl
    exact ⟨rfl, rfl⟩

end Link

end PeripheralBridge
