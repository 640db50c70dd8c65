import PeripheralBridge.Device.Call
import PeripheralBridge.Proofs.Wire

/-!
# Calls and what they come to

A call fails before anything is sent, or comes to what its exchange comes to. A run of
calls on one system follows a run on another as soon as a single call does.
-/

namespace PeripheralBridge

namespace DeviceFault

/-- The faults that have a status of their own. -/
def statuses : List (Int16 × DeviceFault) :=
  [(1, notSupported), (2, invalidArgsFormat), (3, uninitialized), (4, peripheral),
    (5, invalidArgs), (6, busy), (7, timeout)]

/-- The fault that a status other than zero tells of. -/
def told (status : Int16) : DeviceFault :=
  (statuses.lookup status).getD (unknown status)

theorem ofCode?_eq (status : Int16) :
    ofCode? status = if status = 0 then none else some (told status) := by
  rw [told, statuses]
  unfold ofCode?
  simp only [List.lookup_cons, List.lookup_nil, successCode]
  grind

/-- It has that status for its code. -/
theorem code_told {status : Int16} (nonzero : status ≠ 0) : (told status).code = status :=
  code_of_ofCode? (by rw [ofCode?_eq, if_neg nonzero])

end DeviceFault

namespace Device

variable {σ τ : Type} {link : Link σ} {address : Address} {payload : Bytes} {s s' : σ}

/-- What a call returns of a response that is not too long. -/
def returned (r : Response) : Except CallError Bytes :=
  if r.code = 0 then .ok r.payload else .error (.device (.told r.code))

theorem returned_eq (r : Response) :
    returned r = match r.fault? with
      | some fault => .error (.device fault)
      | none => .ok r.payload := by
  rw [returned, Response.fault?, DeviceFault.ofCode?_eq]
  by_cases success : r.code = 0 <;> simp [success]

/-- What a call makes of the response to its request, given the octets a payload may have. -/
def answer (limit : Nat) (r : Response) : Except CallError Bytes :=
  match r.within limit with
  | .error e => .error (.link (.malformed e))
  | .ok r => returned r

/-- What a call makes of what its exchange came to. -/
def outcome (limit : Nat) : Except LinkError Response → Except CallError Bytes
  | .error e => .error (.link e)
  | .ok r =>
    if limit < r.payload.length then .error (.responseTooLarge r.payload.length limit)
    else returned r

/-- Where the link has taken the response for what it is, nothing is left to refuse. -/
theorem outcome_within (limit : Nat) (r : Response) :
    outcome limit ((r.within limit).mapError .malformed) = answer limit r := by
  by_cases exceeds : limit < r.payload.length
  · rw [answer, Response.within, if_pos exceeds]
    rfl
  · rw [answer, Response.within, if_neg exceeds]
    exact if_neg exceeds

/-- A call succeeds with the payload of a success that is not too long. -/
theorem outcome_eq_ok_iff {limit : Nat} {result : Except LinkError Response} :
    outcome limit result = .ok payload ↔
      result = .ok (.success payload) ∧ payload.length ≤ limit := by
  constructor
  · intro h
    cases result with
    | error e => cases h
    | ok r =>
      by_cases large : limit < r.payload.length
      · rw [outcome, if_pos large] at h
        cases h
      · rw [outcome, if_neg large, returned] at h
        by_cases success : r.code = 0
        · rw [if_pos success] at h
          cases h
          exact ⟨by rw [Response.success, successCode, ← success], Nat.le_of_not_lt large⟩
        · rw [if_neg success] at h
          cases h
  · rintro ⟨rfl, fits⟩
    exact if_neg (Nat.not_lt.mpr fits)

theorem call_of_over (exceeds : (link.limits s).request < payload.length) :
    call link address payload s =
      (.error (.requestTooLarge payload.length (link.limits s).request), s) := by
  simp [call, Attempt.bind_apply, exceeds]

theorem call_of_undeclarable (fits : payload.length ≤ (link.limits s).request)
    (exceeds : declarableMax < payload.length) :
    call link address payload s = (.error (.requestTooLarge payload.length declarableMax), s) := by
  simp [call, Attempt.bind_apply, Nat.not_lt.mpr fits, exceeds]

variable (fits : payload.length ≤ (link.limits s).request)
  (declarable : payload.length ≤ declarableMax)

include fits declarable

/-- A call that is not refused makes one exchange, and comes to what the exchange comes to. -/
theorem call_of_exchange {result : Except LinkError Response}
    (exchanged : link.exchange ⟨address, UInt16.ofNat payload.length⟩ payload s = (result, s')) :
    call link address payload s = (outcome (link.limits s).response result, s') := by
  simp only [call, Attempt.bind_apply, Attempt.read_apply, Attempt.mapError,
    if_neg (Nat.not_lt.mpr fits), if_neg (Nat.not_lt.mpr declarable), exchanged]
  cases result with
  | error e => rfl
  | ok r =>
    by_cases large : (link.limits s).response < r.payload.length
    · simp only [outcome, if_pos large]
      rfl
    · simp only [outcome, if_neg large, returned_eq]
      cases r.fault? <;> rfl

theorem call_of_error {e : LinkError}
    (failed : link.exchange ⟨address, UInt16.ofNat payload.length⟩ payload s = (.error e, s')) :
    call link address payload s = (.error (.link e), s') :=
  call_of_exchange fits declarable failed

/-- A link that takes a response for what it is hands on what the device answered. -/
theorem call_of_response {r : Response}
    (received : link.exchange ⟨address, UInt16.ofNat payload.length⟩ payload s =
      ((r.within (link.limits s).response).mapError .malformed, s')) :
    call link address payload s = (answer (link.limits s).response r, s') := by
  rw [call_of_exchange fits declarable received, outcome_within]

omit fits declarable in
/-- A call leaves the link alone, or leaves it as its exchange does. -/
theorem call_state (link : Link σ) (address : Address) (payload : Bytes) (s : σ) :
    (call link address payload s).2 = s ∨ payload.length ≤ declarableMax ∧
      (call link address payload s).2 =
        (link.exchange ⟨address, UInt16.ofNat payload.length⟩ payload s).2 := by
  by_cases exceeds : (link.limits s).request < payload.length
  · exact .inl (by rw [call_of_over exceeds])
  by_cases undeclarable : declarableMax < payload.length
  · exact .inl (by rw [call_of_undeclarable (Nat.le_of_not_lt exceeds) undeclarable])
  have fits := Nat.le_of_not_lt exceeds
  have declarable := Nat.le_of_not_lt undeclarable
  exact .inr ⟨declarable, by rw [call_of_exchange fits declarable rfl]⟩

def Answered (r : Except CallError Bytes) : Prop :=
  (∃ payload, r = .ok payload) ∨ ∃ fault, r = .error (.device fault)

omit fits declarable in
/-- An answer of the device is what its link took for the response. -/
theorem exchange_of_answered
    (answered : Answered (call link address payload s).1) :
    payload.length ≤ declarableMax ∧ ∃ r s',
      link.exchange ⟨address, UInt16.ofNat payload.length⟩ payload s = (.ok r, s') ∧
      (call link address payload s).1 = answer (link.limits s).response r := by
  by_cases exceeds : (link.limits s).request < payload.length
  · rw [call_of_over exceeds] at answered
    rcases answered with ⟨_, h⟩ | ⟨_, h⟩ <;> cases h
  have fits := Nat.le_of_not_lt exceeds
  by_cases undeclarable : declarableMax < payload.length
  · rw [call_of_undeclarable fits undeclarable] at answered
    rcases answered with ⟨_, h⟩ | ⟨_, h⟩ <;> cases h
  have declarable := Nat.le_of_not_lt undeclarable
  rcases hx : link.exchange ⟨address, UInt16.ofNat payload.length⟩ payload s with ⟨r, s'⟩
  rw [call_of_exchange fits declarable hx] at answered ⊢
  cases r with
  | error e => rcases answered with ⟨_, h⟩ | ⟨_, h⟩ <;> cases h
  | ok r =>
    by_cases large : (link.limits s).response < r.payload.length
    · rw [outcome, if_pos large] at answered
      rcases answered with ⟨_, h⟩ | ⟨_, h⟩ <;> cases h
    · refine ⟨declarable, r, s', rfl, ?_⟩
      rw [← outcome_within, Response.within, if_neg large]
      rfl

end Device

variable {σ τ : Type}

def callEach (call : Address → Bytes → Attempt σ CallError Bytes) :
    List (Address × Bytes) → σ → List (Except CallError Bytes) × σ
  | [], s => ([], s)
  | (address, payload) :: rest, s =>
    let (r, s) := call address payload s
    let (rs, s) := callEach call rest s
    (r :: rs, s)

/-- What every call keeps, a run of calls keeps. -/
theorem callEach_keeps {call : Address → Bytes → Attempt σ CallError Bytes} {P : σ → Prop}
    {calls : List (Address × Bytes)} (kept : ∀ c ∈ calls, ∀ s, P s → P (call c.1 c.2 s).2)
    {s : σ} (h : P s) : P (callEach call calls s).2 := by
  induction calls generalizing s with
  | nil => exact h
  | cons c rest ih =>
    exact ih (fun c hc => kept c (List.mem_cons_of_mem _ hc)) (kept c List.mem_cons_self s h)

/-- Where every call on `s` comes to the same as on `t` and leaves related states behind, every
run of calls does. -/
theorem callEach_simulates {call : Address → Bytes → Attempt σ CallError Bytes}
    {ideal : Address → Bytes → Attempt τ CallError Bytes} {R : τ → σ → Prop}
    (step : ∀ address payload t s, R t s → ∃ s',
      call address payload s = ((ideal address payload t).1, s') ∧
        R (ideal address payload t).2 s')
    (calls : List (Address × Bytes)) {t : τ} {s : σ} (related : R t s) :
    ∃ s', callEach call calls s = ((callEach ideal calls t).1, s') ∧
      R (callEach ideal calls t).2 s' := by
  induction calls generalizing t s with
  | nil => exact ⟨s, rfl, related⟩
  | cons c rest ih =>
    obtain ⟨s₁, hcall, next⟩ := step c.1 c.2 t s related
    obtain ⟨s₂, hrest, last⟩ := ih next
    refine ⟨s₂, ?_, last⟩
    simp only [callEach, hcall, hrest]

end PeripheralBridge
