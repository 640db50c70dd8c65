import PeripheralBridge.Proofs.Negotiation
import PeripheralBridge.Proofs.PacketRecovery

/-!
# Resets in a discovery

Two things reset a pipe: an exchange that finds its link stale, and a negotiation that is made
once more. In a discovery they never come together. A negotiation is given up at the first
exchange that fails, and what follows is the reset between the attempts; so no exchange finds its
link stale, and the pipe of a candidate is reset exactly as often as its link.
-/

namespace PeripheralBridge

def LinkEvent.operation : LinkEvent → PacketLink.Operation
  | exchange header payload _ => .exchange header payload
  | reset _ => .reset
  | setLimits limits => .setLimits limits

def PipeEvent.isReset : PipeEvent → Bool
  | reset _ => true
  | _ => false

namespace PacketLink

variable {σ : Type} {pipe : BulkPipe σ} {l l' : PacketLink σ} {header : RequestHeader}
  {payload : Bytes} {answer : Except LinkError Response} {operations : List Operation}

/-- The link that some operations leave. -/
def leftBy (pipe : BulkPipe σ) (l : PacketLink σ) (operations : List Operation) : PacketLink σ :=
  operations.foldl (fun l o => (enter pipe l o).2) l

theorem history_append (pipe : BulkPipe σ) (l : PacketLink σ) (before after : List Operation) :
    history pipe l (before ++ after) =
      history pipe l before ++ history pipe (leftBy pipe l before) after := by
  induction before generalizing l with
  | nil => rfl
  | cons o rest ih => exact congrArg ((enter pipe l o).1 :: ·) (ih (enter pipe l o).2)

theorem leftBy_snoc (pipe : BulkPipe σ) (l : PacketLink σ) (operations : List Operation)
    (o : Operation) :
    leftBy pipe l (operations ++ [o]) = (enter pipe (leftBy pipe l operations) o).2 := by
  rw [leftBy, List.foldl_append]
  rfl

/-- A run over a recorded pipe and a recorded run over the pipe tell of the same operations. -/
structure Accounts (pipe : BulkPipe σ) (l : PacketLink σ) (a : PacketLink (σ × List PipeEvent))
    (b : PacketLink σ × List LinkEvent) : Prop where
  left : leftBy pipe l (b.2.map LinkEvent.operation) = b.1
  same : a = b.1.noting ((history pipe l (b.2.map LinkEvent.operation)).flatMap Entry.events)

theorem accounts_nil (pipe : BulkPipe σ) (l : PacketLink σ) :
    Accounts pipe l (l.noting []) (l, []) := ⟨rfl, rfl⟩

section Snoc

variable {m m' : PacketLink σ} {log : List PipeEvent} {events : List LinkEvent} {event : LinkEvent}
  {x : Entry}

theorem Accounts.snoc
    (h : Accounts pipe l (m.noting log) (m, events))
    (entered : enter pipe m event.operation = (x, m')) :
    Accounts pipe l (m'.noting (log ++ x.events)) (m', events ++ [event]) := by
  obtain ⟨left, same⟩ := h
  obtain rfl : log = (history pipe l (events.map LinkEvent.operation)).flatMap Entry.events :=
    congrArg (fun a => a.pipe.2) same
  constructor
  · rw [List.map_append]
    refine (leftBy_snoc pipe l _ _).trans ?_
    rw [left, entered]
  · rw [List.map_append, history_append, left, List.flatMap_append]
    simp [history, entered]

end Snoc

theorem link_accounts (pipe : BulkPipe σ) (l : PacketLink σ) :
    Link.Alike (Accounts pipe l) (link pipe.recorded) (link pipe).recorded where
  limits a b h := by
    rw [h.same]
    rfl
  setLimits limits := by
    rintro _ ⟨m, events⟩ ⟨left, rfl⟩
    have next : Accounts pipe l _ (_, events ++ [.setLimits limits]) :=
      Accounts.snoc ⟨left, rfl⟩ (enter_setLimits pipe m limits)
    rw [List.append_nil] at next
    exact next
  exchange header payload := by
    rintro _ ⟨m, events⟩ ⟨left, rfl⟩
    obtain ⟨asked, r, m', _, plain, logged, entered⟩ := enter_exchange pipe m header payload
    have next : Accounts pipe l _ (m', events ++ [.exchange header payload r]) :=
      Accounts.snoc ⟨left, rfl⟩ entered
    simp only [link, Link.recorded, plain, logged]
    exact ⟨trivial, next⟩
  reset := by
    rintro _ ⟨m, events⟩ ⟨left, rfl⟩
    obtain ⟨answer, r, m', _, _, plain, logged, entered⟩ := enter_reset pipe m
    have next : Accounts pipe l _ (m', events ++ [.reset r]) :=
      Accounts.snoc ⟨left, rfl⟩ entered
    simp only [link, Link.recorded, plain, logged]
    exact ⟨trivial, next⟩

/-- What a negotiation asks of a link is what it does with it. -/
theorem leftBy_of_negotiated {events : List LinkEvent} {r : Except CallError PayloadLimits}
    (h : Device.Negotiated (link pipe) l events r l') :
    leftBy pipe l (events.map LinkEvent.operation) = l' := by
  have start := accounts_nil pipe l
  obtain ⟨_, accounts⟩ := Device.negotiate_alike (link_accounts pipe l) _ _ start
  rw [h.recorded []] at accounts
  exact accounts.left

theorem negotiateWithReset_log {events : List LinkEvent} {r : Except CallError PayloadLimits}
    (h : Device.Settled (link pipe) l events r l') :
    Device.negotiateWithReset (link pipe.recorded) (l.noting []) =
      (r, l'.noting ((history pipe l (events.map LinkEvent.operation)).flatMap Entry.events)) := by
  have start := accounts_nil pipe l
  obtain ⟨result, accounts⟩ := Device.negotiateWithReset_alike (link_accounts pipe l) _ _ start
  rw [h.recorded []] at result accounts
  exact Prod.ext result accounts.same

/-- No exchange has begun with a reset. -/
def Unforced (entries : List Entry) : Prop :=
  ∀ x ∈ entries, x.operation.IsExchange → ∀ answer, .reset answer ∉ x.events

theorem exchange_fresh (fresh : l.stale = false)
    (exchanged : (link pipe).exchange header payload l = (answer, l')) :
    ∃ x, enter pipe l (.exchange header payload) = (x, l') ∧ Unforced [x] ∧
      l'.stale = !answer.isOk := by
  obtain ⟨events, r, left, ways, plain, _, entered⟩ := enter_exchange pipe l header payload
  cases plain.symm.trans exchanged
  refine ⟨_, entered, ?_⟩
  cases ways with
  | refused stale _ | recovered stale _ _ =>
    rw [fresh] at stale
    cases stale
  | straight _ transferred =>
    refine ⟨?_, rfl⟩
    intro x hx _ answer
    cases List.mem_singleton.mp hx
    exact moves_not_reset transferred.moves answer

/-- Both queries find the link fresh, since the second follows only on an answer. -/
theorem queries_fresh {answer' : Except LinkError Response} {request : Nat} {l₁ l₂ : PacketLink σ}
    (fresh : l.stale = false)
    (queried : Device.Queried (link pipe) l answer answer' request l₁ l₂) :
    ∃ x y, enter pipe l (.exchange (Device.queryHeader .requestLimit) []) = (x, l₁) ∧
      enter pipe l₁ (.exchange (Device.queryHeader .responseLimit) []) = (y, l₂) ∧
      Unforced [x, y] := by
  obtain ⟨x, entered, first, stale⟩ := exchange_fresh fresh queried.asked
  obtain ⟨_, _, rfl, _⟩ := Device.told_eq_ok_iff.mp queried.got
  obtain ⟨y, entered', second, _⟩ := exchange_fresh stale queried.asked'
  exact ⟨x, y, entered, entered', List.forall_mem_append.mpr ⟨first, second⟩⟩

/-- A negotiation over a fresh link never recovers it. -/
theorem unforced_of_negotiated {events : List LinkEvent} {r : Except CallError PayloadLimits}
    (fresh : l.stale = false) (h : Device.Negotiated (link pipe) l events r l') :
    Unforced (history pipe l (events.map LinkEvent.operation)) := by
  cases h with
  | untold asked _ =>
    obtain ⟨x, entered, unforced, _⟩ := exchange_fresh fresh asked
    simp only [List.map_cons, List.map_nil, Device.query, LinkEvent.operation, history, entered]
    exact unforced
  | halfTold queried _ | insufficient queried _ _ =>
    obtain ⟨x, y, entered, entered', unforced⟩ := queries_fresh fresh queried
    simp only [List.map_cons, List.map_nil, Device.query, LinkEvent.operation, history, entered,
      entered']
    exact unforced
  | agreed queried _ _ =>
    obtain ⟨x, y, entered, entered', unforced⟩ := queries_fresh fresh queried
    simp only [List.map_cons, List.map_nil, Device.query, LinkEvent.operation, history, entered,
      entered', enter_setLimits]
    refine List.forall_mem_append.mpr ⟨unforced, ?_⟩
    -- storing the limits asks nothing of the pipe
    intro x hx other
    cases List.mem_singleton.mp hx
    exact False.elim other

theorem reset_fresh {done : Except LinkError Unit} (reset : (link pipe).reset l = (done, l')) :
    ∃ x, enter pipe l .reset = (x, l') ∧ Unforced [x] ∧ (done.isOk = true → l'.stale = false) := by
  obtain ⟨answer, r, left, marked, done, plain, _, entered⟩ := enter_reset pipe l
  cases plain.symm.trans reset
  refine ⟨_, entered, ?_, ?_⟩
  · intro x hx other
    cases List.mem_singleton.mp hx
    exact False.elim other
  · intro ok
    rw [marked, ← done, ok]
    exact Bool.and_false _

theorem unforced_of_settled {events : List LinkEvent} {r : Except CallError PayloadLimits}
    (fresh : l.stale = false) (h : Device.Settled (link pipe) l events r l') :
    Unforced (history pipe l (events.map LinkEvent.operation)) := by
  cases h with
  | atOnce first => exact unforced_of_negotiated fresh first
  | unreset first refused =>
    obtain ⟨x, entered, still, _⟩ := reset_fresh refused
    rw [List.map_append, history_append, leftBy_of_negotiated first]
    refine List.forall_mem_append.mpr ⟨unforced_of_negotiated fresh first, ?_⟩
    simp only [List.map_cons, List.map_nil, LinkEvent.operation, history, entered]
    exact still
  | again first reset second =>
    obtain ⟨x, entered, still, renewed⟩ := reset_fresh reset
    -- whatever the first attempt left, its failed exchange is made up for before the second
    have later := unforced_of_negotiated (renewed rfl) second
    rw [List.map_append, history_append, leftBy_of_negotiated first]
    refine List.forall_mem_append.mpr ⟨unforced_of_negotiated fresh first, ?_⟩
    simp only [List.map_cons, LinkEvent.operation, history, entered]
    exact List.forall_mem_append.mpr ⟨still, later⟩

/-- Where no exchange begins with a reset, the pipe is reset as often as the link. -/
theorem resets_of_unforced {events : List LinkEvent}
    (h : Unforced (history pipe l (events.map LinkEvent.operation))) :
    (((history pipe l (events.map LinkEvent.operation)).flatMap Entry.events).filter
      PipeEvent.isReset).length = (events.filter LinkEvent.isReset).length := by
  induction events generalizing l with
  | nil => rfl
  | cons event rest ih =>
    rw [List.map_cons, history] at h ⊢
    obtain ⟨first, others⟩ := List.forall_mem_cons.mp h
    have later := ih others
    rw [List.flatMap_cons, List.filter_append, List.length_append, later]
    cases event with
    | exchange header payload answer =>
      obtain ⟨asked, r, l', _, _, _, entered⟩ := enter_exchange pipe l header payload
      simp only [LinkEvent.operation, entered] at first ⊢
      have none : asked.filter PipeEvent.isReset = [] := by
        refine List.filter_eq_nil_iff.mpr fun e he reset => ?_
        cases e with
        | reset answer => exact first trivial answer he
        | write _ _ | read _ _ => cases reset
      rw [none]
      exact Nat.zero_add _
    | reset done =>
      obtain ⟨answer, r, l', _, _, _, _, entered⟩ := enter_reset pipe l
      simp only [LinkEvent.operation, entered]
      exact Nat.add_comm _ _
    | setLimits limits => exact Nat.zero_add _

theorem not_unrecovered_nil : ¬ Unrecovered [] := by
  rintro ⟨before, x, after, split, _⟩
  cases before <;> cases split

theorem isExchange_of_moves {x : Entry} (hx : x ∈ history pipe l operations)
    (moves : ∃ e ∈ x.events, e.Moves) : x.operation.IsExchange := by
  induction operations generalizing l with
  | nil => cases hx
  | cons o rest ih =>
    rcases List.mem_cons.mp hx with rfl | hx
    · obtain ⟨e, he, moves⟩ := moves
      cases o with
      | exchange header payload => trivial
      | reset =>
        obtain ⟨answer, r, l', _, _, _, _, entered⟩ := enter_reset pipe l
        rw [entered] at he
        cases List.mem_singleton.mp he
        exact False.elim moves
      | setLimits limits => cases he
    · exact ih hx

/-- A fresh link whose exchanges never begin with a reset writes and reads only while no failed
transfer is behind it. -/
theorem recovered_of_unforced (fresh : l.stale = false) (h : Unforced (history pipe l operations))
    {before after : List Entry} {x : Entry}
    (hx : history pipe l operations = before ++ x :: after) (moves : ∃ e ∈ x.events, e.Moves) :
    ¬ Unrecovered before := by
  have mem : x ∈ history pipe l operations := hx ▸ List.mem_append_right _ List.mem_cons_self
  have exchange := isExchange_of_moves mem moves
  have tracks : l.stale = true ↔ Unrecovered [] := by
    rw [fresh]
    exact iff_of_false Bool.false_ne_true not_unrecovered_nil
  -- an exchange with a failed transfer behind it would have begun with a reset
  intro pending
  have disciplined := history_disciplined pipe operations tracks hx
  obtain ⟨answer, reset⟩ := (disciplined.resets_iff exchange).mpr pending
  exact h x mem exchange answer reset

/-- Recording the pipe changes nothing for the link. -/
theorem recorded_alike (pipe : BulkPipe σ) :
    Link.Alike (fun a b => a.unrecorded = b) (link pipe.recorded) (link pipe) where
  limits := by
    rintro a _ rfl
    rfl
  setLimits _ := by
    rintro a _ rfl
    rfl
  exchange header payload := by
    rintro a _ rfl
    obtain ⟨_, _, _, _, plain, logged, _⟩ := enter_exchange pipe a.unrecorded header payload
    have recorded := logged a.pipe.2
    rw [noting_unrecorded] at recorded
    simp only [link, plain, recorded]
    exact ⟨trivial, rfl⟩
  reset := by
    rintro a _ rfl
    obtain ⟨_, _, _, _, _, plain, logged, _⟩ := enter_reset pipe a.unrecorded
    have recorded := logged a.pipe.2
    rw [noting_unrecorded] at recorded
    simp only [link, plain, recorded]
    exact ⟨trivial, rfl⟩

/-- What the examination of a candidate does with its link. -/
def examination (pipe : BulkPipe σ) (l : PacketLink σ) : List Operation :=
  (Device.negotiateWithReset (link pipe).recorded (l, [])).2.2.map LinkEvent.operation

/-- The record of a pipe shows one reset if the first negotiation failed, and none otherwise. It
is the record of what was done with the link, in which no exchange begins with a reset, and
nothing is written or read as long as a transfer that failed has not been made up for. -/
structure ResetsOnce (pipe : BulkPipe σ) (l : PacketLink σ) (log : List PipeEvent) : Prop where
  count : (log.filter PipeEvent.isReset).length =
    if (Device.negotiate (link pipe) l).1.isOk then 0 else 1
  log_eq : log = (history pipe l (examination pipe l)).flatMap Entry.events
  unforced : Unforced (history pipe l (examination pipe l))
  quiet : ∀ before x after, history pipe l (examination pipe l) = before ++ x :: after →
    (∃ e ∈ x.events, e.Moves) → ¬ Unrecovered before

/-- The examination of a candidate over a recorded pipe. -/
theorem negotiateWithReset_once (pipe : BulkPipe σ) (l : PacketLink σ) (fresh : l.stale = false) :
    ∃ log, (Device.negotiateWithReset (link pipe.recorded) (l.noting [])).2 =
        (Device.negotiateWithReset (link pipe) l).2.noting log ∧ ResetsOnce pipe l log := by
  obtain ⟨events, r, l', settled⟩ := Device.exists_settled (link pipe) l
  have unforced := unforced_of_settled fresh settled
  have operations : examination pipe l = events.map LinkEvent.operation := by
    rw [examination, settled.recorded []]
    rfl
  refine ⟨_, by rw [negotiateWithReset_log settled, settled.plain], ?_⟩
  rw [← operations] at unforced ⊢
  refine ⟨?_, rfl, unforced, fun _ _ _ hx => recovered_of_unforced fresh unforced hx⟩
  rw [operations] at unforced ⊢
  exact (resets_of_unforced unforced).trans settled.resets_length

/-- Over pipes of any behaviour, a discovery resets the pipe of a candidate once if its first
negotiation fails and not at all otherwise, whether the candidate is kept or dropped. The link's
own recovery never adds a reset. The links stand by their names, so that the pipe of a candidate
that is dropped can be looked at as well. -/
theorem one_reset_per_candidate {ι : Type} [DecidableEq ι] (pipe : BulkPipe σ)
    (candidates : List (Except LinkError ι)) (links : ι → PacketLink σ)
    (apart : (candidates.filterMap Except.toOption).Nodup)
    (fresh : ∀ i, .ok i ∈ candidates → (links i).stale = false) :
    let (devices, after) :=
      Device.discoverIn (link pipe.recorded).named candidates fun i => (links i).noting []
    devices.map (fun i => (after i).unrecorded) =
      Device.discover (link pipe) (candidates.map (·.map links)) ∧
    (∀ i, .ok i ∈ candidates → ∃ log,
      after i = (Device.negotiateWithReset (link pipe) (links i)).2.noting log ∧
        ResetsOnce pipe (links i) log) ∧
    ∀ i, .ok i ∉ candidates → after i = (links i).noting [] := by
  have run := Device.discoverIn_named (link pipe.recorded) apart fun i => (links i).noting []
  rcases ran : Device.discoverIn (link pipe.recorded).named candidates
    fun i => (links i).noting [] with ⟨devices, after⟩
  rw [ran] at run
  obtain ⟨found, changed, kept⟩ := run
  refine ⟨?_, ?_, kept⟩
  · have same := Device.discover_map (recorded_alike pipe)
      (candidates.map (·.map fun i => (links i).noting []))
    rw [← found, List.map_map, List.map_map] at same
    refine same.symm.trans (congrArg _ (List.map_congr_left fun c _ => ?_))
    cases c <;> rfl
  · intro i opened
    obtain ⟨log, left, once⟩ := negotiateWithReset_once pipe (links i) (fresh i opened)
    exact ⟨log, (changed i opened).trans left, once⟩

/-- The links to a device that answers once it has been reset, and to one that never does. -/
def silentLinks (answers : Bool) : PacketLink ScriptedPipe :=
  let told := Response.success [0, 2]
  onPipe ScriptedPipe.pipe
    { afterReset := if answers then [.ok told.octets, .ok told.octets] else [] }

/-- The pipe of either is reset once, and only the first is discovered. -/
theorem one_reset_per_candidate_silent :
    let (devices, after) := Device.discoverIn (link ScriptedPipe.pipe.recorded).named
      [.error .closed, .ok false, .ok true] fun i => (silentLinks i).noting []
    devices = [true] ∧ ∀ i, ((after i).pipe.2.filter PipeEvent.isReset).length = 1 := by
  have run := one_reset_per_candidate ScriptedPipe.pipe [.error .closed, .ok false, .ok true]
    silentLinks (by decide) (by rintro (_ | _) _ <;> rfl)
  have found : (Device.discoverIn (link ScriptedPipe.pipe.recorded).named
      [.error .closed, .ok false, .ok true] fun i => (silentLinks i).noting []).1 = [true] := by
    unfold silentLinks
    rfl
  rcases ran : Device.discoverIn (link ScriptedPipe.pipe.recorded).named
    [.error .closed, .ok false, .ok true] fun i => (silentLinks i).noting [] with ⟨devices, after⟩
  rw [ran] at run found
  obtain ⟨-, each, -⟩ := run
  refine ⟨found, fun i => ?_⟩
  obtain ⟨log, left, once⟩ := each i (by cases i <;> simp)
  have failed : (Device.negotiate (link ScriptedPipe.pipe) (silentLinks i)).1.isOk = false := by
    cases i <;> rfl
  have count := once.count
  rw [failed] at count
  rw [left]
  exact count

end PacketLink

end PeripheralBridge
