import PeripheralBridge.Proofs.Calls
import PeripheralBridge.Proofs.StreamReturn
import PeripheralBridge.Proofs.Turns

/-!
# Schedules

A schedule says how many turns a device takes before each step of the host on a link.
Turns do not change what a device is still to send: a response is due from the moment
its request is queued, and a turn only moves it to the line. Every order of the turns of
a device and the steps of a host is given by a schedule.
-/

namespace PeripheralBridge

structure Timed (κ ω : Type) where
  link : κ
  device : Dispatcher ω
  config : DeviceConfig
  world : ω
  /-- Where serving stands. -/
  standing : Standing := .serving 0
  /-- The turns before each coming step of the host. There are none after the last. -/
  schedule : List Nat := []

namespace Timed

variable {κ σ ω ε α : Type}

/-- Take a turn, if serving goes on and something has arrived. -/
def turn (interface : Interface σ) (get : κ → σ) (set : σ → κ → κ) (b : Timed κ ω) :
    Timed κ ω :=
  match b.standing with
  | .stopped _ => b
  | .serving broken =>
    match interface.turn b.device (get b.link) b.world with
    | none => b
    | some (t, s, w) =>
      { b with link := set s b.link, world := w, standing := t.standing broken }

def turns (turn : Timed κ ω → Timed κ ω) : Nat → Timed κ ω → Timed κ ω
  | 0, b => b
  | n + 1, b => turns turn n (turn b)

/-- Let the device take the turns that come before the next step of the host. -/
def wait (turn : Timed κ ω → Timed κ ω) (b : Timed κ ω) : Timed κ ω :=
  match b.schedule with
  | [] => b
  | n :: rest => turns turn n { b with schedule := rest }

/-- A step of the host, after the turns before it. -/
def step (turn : Timed κ ω → Timed κ ω) (x : Attempt κ ε α) : Attempt (Timed κ ω) ε α := fun b =>
  let b := wait turn b
  ((x b.link).1, { b with link := (x b.link).2 })

theorem turn_of_some {interface : Interface σ} {get : κ → σ} {set : σ → κ → κ} {b : Timed κ ω}
    {broken : Nat} {t : Turn} {s : σ} {w : ω} (serving : b.standing = .serving broken)
    (h : interface.turn b.device (get b.link) b.world = some (t, s, w)) :
    b.turn interface get set =
      { b with link := set s b.link, world := w, standing := t.standing broken } := by
  rw [turn, serving]
  simp only [h]

theorem turn_of_none {interface : Interface σ} {get : κ → σ} {set : σ → κ → κ} {b : Timed κ ω}
    {broken : Nat} (serving : b.standing = .serving broken)
    (h : interface.turn b.device (get b.link) b.world = none) :
    b.turn interface get set = b := by
  rw [turn, serving]
  simp only [h]

theorem step_of_wait {turn : Timed κ ω → Timed κ ω} {x : Attempt κ ε α} {b b' : Timed κ ω}
    {r : Except ε α} {l : κ} (waited : wait turn b = b') (hx : x b'.link = (r, l)) :
    step turn x b = (r, { b' with link := l }) := by
  rw [step, waited, hx]

/-- The device at the far end is `d`, it goes on serving, and link and world satisfy `Q`. -/
structure Serves (d : Dispatcher ω) (config : DeviceConfig) (Q : κ → ω → Prop)
    (b : Timed κ ω) : Prop where
  device : b.device = d
  config : b.config = config
  serving : ∃ broken, b.standing = .serving broken
  holds : Q b.link b.world

variable {d : Dispatcher ω} {config : DeviceConfig} {Q : κ → ω → Prop} {b : Timed κ ω}

theorem Serves.imp {P : κ → ω → Prop} (h : Serves d config Q b) (hle : ∀ l w, Q l w → P l w) :
    Serves d config P b :=
  ⟨h.device, h.config, h.serving, hle _ _ h.holds⟩

theorem Serves.turn {interface : Interface σ} {get : κ → σ} {set : σ → κ → κ}
    (kept : ∀ l w t s w', Q l w → interface.turn d (get l) w = some (t, s, w') →
      t.GoesOn ∧ Q (set s l) w')
    (h : Serves d config Q b) : Serves d config Q (b.turn interface get set) := by
  obtain ⟨broken, serving⟩ := h.serving
  cases hturn : interface.turn b.device (get b.link) b.world with
  | none =>
    rw [turn_of_none serving hturn]
    exact h
  | some outcome =>
    obtain ⟨t, s, w⟩ := outcome
    rw [turn_of_some serving hturn]
    rw [h.device] at hturn
    obtain ⟨goesOn, next⟩ := kept _ _ _ _ _ h.holds hturn
    exact ⟨h.device, h.config, goesOn broken, next⟩

/-- What a turn keeps, waiting keeps. -/
theorem Serves.wait {turn : Timed κ ω → Timed κ ω}
    (kept : ∀ b, Serves d config Q b → Serves d config Q (turn b)) (h : Serves d config Q b) :
    Serves d config Q (wait turn b) := by
  have hturns : ∀ n b, Serves d config Q b → Serves d config Q (turns turn n b) := by
    intro n
    induction n with
    | zero => exact fun b h => h
    | succ n ih => exact fun b h => ih _ (kept b h)
  rw [Timed.wait]
  split
  · exact h
  · exact hturns _ _ ⟨h.device, h.config, h.serving, h.holds⟩

/-- A step of the host does to the link what it does after the turns before it. -/
theorem Serves.step {turn : Timed κ ω → Timed κ ω}
    (waited : Serves d config Q (Timed.wait turn b)) {P : κ → ω → Prop} {x : Attempt κ ε α}
    {r : Except ε α} {l : κ} (hx : x (Timed.wait turn b).link = (r, l))
    (hl : P l (Timed.wait turn b).world) :
    ∃ b', Timed.step turn x b = (r, b') ∧ Serves d config P b' := by
  exact ⟨_, step_of_wait rfl hx, waited.device, waited.config, waited.serving, hl⟩

end Timed

namespace UsbLink

variable {ω : Type}

def timedTurn (b : Timed UsbLink ω) : Timed UsbLink ω :=
  b.turn (interface b.config) id fun l _ => l

theorem timedTurn_of_some {b : Timed UsbLink ω} {broken : Nat} {t : Turn} {l : UsbLink} {w : ω}
    (serving : b.standing = .serving broken)
    (h : (interface b.config).turn b.device b.link b.world = some (t, l, w)) :
    timedTurn b = { b with link := l, world := w, standing := t.standing broken } :=
  Timed.turn_of_some serving h

def timedPipe : BulkPipe (Timed UsbLink ω) where
  packetSize b := b.link.packetSize
  write data := Timed.step timedTurn (hostWrite data)
  read capacity := Timed.step timedTurn (hostRead capacity)
  reset := Timed.step timedTurn hostReset

end UsbLink

namespace UartLink

variable {ω : Type}

def timedTurn (b : Timed UartLink ω) : Timed UartLink ω :=
  b.turn (interface b.config) UartLink.device fun d l => { l with device := d }

theorem timedTurn_of_some {b : Timed UartLink ω} {broken : Nat} {t : Turn}
    {e : StreamEnd ReturnLine} {w : ω} (serving : b.standing = .serving broken)
    (h : (interface b.config).turn b.device b.link.device b.world = some (t, e, w)) :
    timedTurn b =
      { b with link := { b.link with device := e }, world := w, standing := t.standing broken } :=
  Timed.turn_of_some serving h

def timedPort : BytePort (Timed UartLink ω) where
  write data := Timed.step timedTurn (hostWrite data)
  flush := Timed.step timedTurn (pure ())
  interruptions _ := 0
  write_interrupted := by
    intro data b b' e h
    exact absurd h (by simp [Timed.step, hostWrite])
  setTimeout _ := pure ()
  read count := Timed.step timedTurn (hostRead count)
  purge := Timed.step timedTurn hostPurge
  read_interrupted := by
    intro count b b' e h ht
    have hr : (hostRead count (Timed.wait timedTurn b).link).1 = .error e := congrArg Prod.fst h
    exact absurd (port.read_interrupted count _ _ e (Prod.ext hr rfl) ht) (Nat.lt_irrefl 0)

end UartLink

/-- What a device sends of a response, given the octets a payload may have: nothing where it is
too long for that or cannot be declared. -/
def Response.outgoing (limit : Nat) (r : Response) : List Response :=
  if limit < r.payload.length ∨ declarableMax < r.payload.length then [] else [r]

/-- The responses that go out to some waiting requests, and the world after them. A request over
the limit has none; on a byte stream the requests behind it are forgotten with it. -/
def due {ω : Type} (d : Dispatcher ω) (limits : PayloadLimits) (forgets : Bool) :
    List Request → ω → List Response × ω
  | [], w => ([], w)
  | q :: rest, w =>
    if limits.request < q.payload.length then
      if forgets then ([], w) else due d limits forgets rest w
    else
      let (r, w) := d.dispatch q w
      let (rs, w) := due d limits forgets rest w
      (r.outgoing limits.response ++ rs, w)

/-- One of some calls has this request, and its payload can be declared. -/
def Sendable (calls : List (Address × Bytes)) (q : Request) : Prop :=
  (q.toAddress, q.payload) ∈ calls ∧ q.payload.length ≤ declarableMax

/-- A response to a request of one of some calls. -/
def Produced {ω : Type} (d : Dispatcher ω) (calls : List (Address × Bytes)) (r : Response) :
    Prop :=
  ∃ q w, Sendable calls q ∧ r = (d.dispatch q w).1

theorem Sendable.append {calls : List (Address × Bytes)} {q : Request} (h : Sendable calls q)
    (more : List (Address × Bytes)) : Sendable (calls ++ more) q :=
  ⟨List.mem_append_left more h.1, h.2⟩

theorem Produced.append {ω : Type} {d : Dispatcher ω} {calls : List (Address × Bytes)}
    {r : Response} (h : Produced d calls r) (more : List (Address × Bytes)) :
    Produced d (calls ++ more) r := by
  obtain ⟨q, w, sendable, hr⟩ := h
  exact ⟨q, w, sendable.append more, hr⟩

theorem Response.outgoing_prefix (limit : Nat) (r : Response) : r.outgoing limit <+: [r] := by
  rw [outgoing]
  split
  · exact List.nil_prefix
  · exact List.prefix_rfl

theorem Response.of_mem_outgoing {limit : Nat} {r x : Response} (hx : x ∈ r.outgoing limit) :
    x = r ∧ x.payload.length ≤ declarableMax := by
  rw [outgoing] at hx
  split at hx
  · cases hx
  · rename_i short
    obtain rfl := List.mem_singleton.mp hx
    exact ⟨rfl, Nat.le_of_not_lt fun long => short (.inr long)⟩

/-- What comes of some responses, and perhaps one more, comes first in them. -/
theorem head_of_prefix {late late' rest : List Response} {r x : Response}
    (hle : late' <+: late ++ [x]) (h : late' = r :: rest) : (late ++ [x]).head? = some r := by
  obtain ⟨more, hmore⟩ := hle
  rw [← hmore, h]
  rfl

section Due

variable {ω : Type} (d : Dispatcher ω) (limits : PayloadLimits) (forgets : Bool) {q : Request}

theorem due_cons_of_le (fits : q.payload.length ≤ limits.request) (rest : List Request) (w : ω) :
    due d limits forgets (q :: rest) w =
      ((d.dispatch q w).1.outgoing limits.response ++
          (due d limits forgets rest (d.dispatch q w).2).1,
        (due d limits forgets rest (d.dispatch q w).2).2) := by
  rw [due, if_neg (Nat.not_lt.mpr fits)]

theorem due_cons_of_lt (exceeds : limits.request < q.payload.length) (rest : List Request) (w : ω) :
    due d limits forgets (q :: rest) w =
      if forgets then ([], w) else due d limits forgets rest w := by
  rw [due, if_pos exceeds]

/-- A request behind others adds its own response, or none. -/
theorem due_snoc (waiting : List Request) (q : Request) (w : ω) :
    (due d limits forgets (waiting ++ [q]) w).1 <+:
      (due d limits forgets waiting w).1 ++
        [(d.dispatch q (due d limits forgets waiting w).2).1] := by
  induction waiting generalizing w with
  | nil =>
    by_cases exceeds : limits.request < q.payload.length
    · rw [List.nil_append, due_cons_of_lt d limits forgets exceeds]
      cases forgets <;> exact List.nil_prefix
    · rw [List.nil_append, due_cons_of_le d limits forgets (Nat.le_of_not_lt exceeds), due,
        List.append_nil]
      exact Response.outgoing_prefix _ _
  | cons p rest ih =>
    by_cases exceeds : limits.request < p.payload.length
    · rw [List.cons_append, due_cons_of_lt d limits forgets exceeds,
        due_cons_of_lt d limits forgets exceeds]
      -- What stands behind a refused request is lost on a byte stream, so `q` adds nothing there.
      cases forgets with
      | true => exact List.nil_prefix
      | false => exact ih w
    · have fits := Nat.le_of_not_lt exceeds
      rw [List.cons_append, due_cons_of_le d limits forgets fits,
        due_cons_of_le d limits forgets fits, List.append_assoc]
      exact (List.prefix_append_right_inj _).mpr (ih (d.dispatch p w).2)

variable {d limits forgets}

/-- What is due to requests of some calls is produced for them. -/
theorem produced_of_mem_due {calls : List (Address × Bytes)} {waiting : List Request} {w : ω}
    {r : Response} (sendable : ∀ q ∈ waiting, Sendable calls q)
    (hr : r ∈ (due d limits forgets waiting w).1) : Produced d calls r := by
  induction waiting generalizing w with
  | nil => simp [due] at hr
  | cons p rest ih =>
    have hrest : ∀ q ∈ rest, Sendable calls q := fun q hq =>
      sendable q (List.mem_cons_of_mem p hq)
    by_cases exceeds : limits.request < p.payload.length
    · rw [due_cons_of_lt d limits forgets exceeds] at hr
      cases forgets with
      | true => simp at hr
      | false => exact ih hrest hr
    · rw [due_cons_of_le d limits forgets (Nat.le_of_not_lt exceeds)] at hr
      rcases List.mem_append.mp hr with hr | hr
      · exact ⟨p, w, sendable p List.mem_cons_self, (Response.of_mem_outgoing hr).1⟩
      · exact ih hrest hr

end Due

/-- Some responses are under way and some requests wait: `late` are the responses still to come,
and `final` is the world after the last of them. -/
structure Coming {ω : Type} (d : Dispatcher ω) (limits : PayloadLimits) (forgets : Bool)
    (calls : List (Address × Bytes)) (arriving : List Response) (waiting : List Request)
    (late : List Response) (final w : ω) : Prop where
  sendable : ∀ q ∈ waiting, Sendable calls q
  produced : ∀ r ∈ arriving, Produced d calls r
  short : ∀ r ∈ arriving, r.payload.length ≤ declarableMax
  still : arriving ++ (due d limits forgets waiting w).1 = late
  last : (due d limits forgets waiting w).2 = final

namespace Coming

variable {ω : Type} {d : Dispatcher ω} {limits : PayloadLimits} {forgets : Bool}
  {calls : List (Address × Bytes)} {arriving : List Response} {waiting : List Request}
  {late : List Response} {final w : ω} {q : Request} {r : Response}

theorem start (w : ω) : Coming d limits forgets calls [] [] [] w w :=
  ⟨by simp, by simp, by simp, rfl, rfl⟩

/-- More calls make no difference to what is still to come. -/
theorem append (h : Coming d limits forgets calls arriving waiting late final w)
    (more : List (Address × Bytes)) :
    Coming d limits forgets (calls ++ more) arriving waiting late final w :=
  ⟨fun q hq => (h.sendable q hq).append more, fun r hr => (h.produced r hr).append more,
    h.short, h.still, h.last⟩

/-- Whatever is still to come was produced for one of the calls. -/
theorem produced_late (h : Coming d limits forgets calls arriving waiting late final w) :
    ∀ r ∈ late, Produced d calls r := by
  rw [← h.still]
  intro r hr
  rcases List.mem_append.mp hr with hr | hr
  · exact h.produced r hr
  · exact produced_of_mem_due h.sendable hr

/-- With no request waiting, what is under way is all that is still to come. -/
theorem drained (h : Coming d limits forgets calls arriving [] late final w) :
    arriving = late ∧ w = final :=
  ⟨(List.append_nil arriving).symm.trans h.still, h.last⟩

/-- A response that goes out is no longer due, but under way. -/
theorem answered (h : Coming d limits forgets calls arriving (q :: waiting) late final w)
    (fits : q.payload.length ≤ limits.request) :
    Coming d limits forgets calls (arriving ++ (d.dispatch q w).1.outgoing limits.response)
      waiting late final (d.dispatch q w).2 := by
  have hq := h.sendable q List.mem_cons_self
  have still := h.still
  have last := h.last
  rw [due_cons_of_le d limits forgets fits] at still last
  refine ⟨fun p hp => h.sendable p (List.mem_cons_of_mem q hp), ?_, ?_, ?_, last⟩
  · intro r hr
    rcases List.mem_append.mp hr with hr | hr
    · exact h.produced r hr
    · exact ⟨q, w, hq, (Response.of_mem_outgoing hr).1⟩
  · intro r hr
    rcases List.mem_append.mp hr with hr | hr
    · exact h.short r hr
    · exact (Response.of_mem_outgoing hr).2
  · rw [List.append_assoc, still]

theorem refused (h : Coming d limits forgets calls arriving (q :: waiting) late final w)
    (exceeds : limits.request < q.payload.length) :
    Coming d limits forgets calls arriving (if forgets then [] else waiting) late final w := by
  have still := h.still
  have last := h.last
  rw [due_cons_of_lt d limits forgets exceeds] at still last
  cases forgets with
  | true => exact ⟨by simp, h.produced, h.short, still, last⟩
  | false =>
    exact ⟨fun p hp => h.sendable p (List.mem_cons_of_mem q hp), h.produced, h.short, still, last⟩

/-- What is under way may be discarded, and what is due to the requests that wait is left. -/
theorem discarded (h : Coming d limits forgets calls arriving waiting late final w) :
    ∃ late', Coming d limits forgets calls [] waiting late' final w :=
  ⟨_, h.sendable, by simp, by simp, rfl, h.last⟩

/-- A response that is taken from those under way is the first of those still to come. -/
theorem taken (h : Coming d limits forgets calls (r :: arriving) waiting late final w) :
    ∃ rest, late = r :: rest ∧ Coming d limits forgets calls arriving waiting rest final w :=
  ⟨_, h.still.symm, h.sendable, fun p hp => h.produced p (List.mem_cons_of_mem r hp),
    fun p hp => h.short p (List.mem_cons_of_mem r hp), rfl, h.last⟩

/-- A request that is queued adds its own response at most to what is still to come. -/
theorem queued (h : Coming d limits forgets calls arriving waiting late final w)
    (sendable : Sendable calls q) :
    ∃ late' final', late' <+: late ++ [(d.dispatch q final).1] ∧
      Coming d limits forgets calls arriving (waiting ++ [q]) late' final' w := by
  have hle := due_snoc d limits forgets waiting q w
  rw [h.last] at hle
  refine ⟨_, _, ?_, ?_, h.produced, h.short, rfl, rfl⟩
  · rw [← h.still, List.append_assoc]
    exact (List.prefix_append_right_inj arriving).mpr hle
  · intro p hp
    rcases List.mem_append.mp hp with hp | hp
    · exact h.sendable p hp
    · exact List.mem_singleton.mp hp ▸ sendable

/-- Requests that are forgotten take what is due to them along. -/
theorem forgotten (h : Coming d limits forgets calls arriving waiting late final w)
    (x : Response) :
    ∃ late', late' <+: late ++ [x] ∧ Coming d limits forgets calls arriving [] late' w w := by
  refine ⟨arriving, ?_, by simp, h.produced, h.short, List.append_nil _, rfl⟩
  rw [← h.still, List.append_assoc]
  exact List.prefix_append _ _

end Coming

end PeripheralBridge
