import PeripheralBridge.Service.RxQueue

/-!
# Where queued octets go

Octets are queued chunk by chunk, taken out one at a time and discarded from either end, in any
order. Every octet that was ever pushed has been delivered, was lost at an overflow or at a purge,
or still waits, and these parts lie in the stream in the order in which it was pushed. An overflow
loses all that waits and its whole chunk: nothing of the chunk is left to shift what comes next.
-/

namespace PeripheralBridge

namespace RxQueue

/-- Offer a single octet to the queue, which has room for it or is left as it is. -/
def offer (b : UInt8) (q : RxQueue) : Bool × RxQueue :=
  if q.bytes.length < q.capacity then (true, { q with bytes := q.bytes ++ [b] }) else (false, q)

/-- Queue a chunk octet by octet, `taken` of which were taken before. An octet that finds the
queue full empties it and ends the chunk. -/
def pushEach (taken : Nat) : Bytes → RxQueue → Nat × RxQueue
  | [], q => (taken, q)
  | b :: rest, q =>
    match q.offer b with
    | (true, q) => pushEach (taken + 1) rest q
    | (false, q) => (taken, q.purge.2)

theorem pushEach_eq (taken : Nat) (chunk : Bytes) (q : RxQueue) :
    q.pushEach taken chunk = (taken + (q.push chunk).1, (q.push chunk).2) := by
  induction chunk generalizing taken q with
  | nil => simp [pushEach, push]
  | cons b rest ih =>
    by_cases room : q.bytes.length < q.capacity
    · have offered : q.offer b = (true, { q with bytes := q.bytes ++ [b] }) := if_pos room
      -- the place that the octet takes is missing for the rest
      have hfree : ({ q with bytes := q.bytes ++ [b] } : RxQueue).free = q.free - 1 := by
        simp only [free, List.length_append, List.length_singleton]
        omega
      have hroom : 0 < q.free := Nat.sub_pos_of_lt room
      simp only [pushEach, offered, ih]
      by_cases fits : (b :: rest).length ≤ q.free
      · have hrest : rest.length ≤ q.free - 1 := Nat.le_sub_one_of_lt fits
        rw [push_of_le fits, push_of_le (hfree.symm ▸ hrest)]
        simp only [List.length_cons, List.append_assoc, List.singleton_append, Prod.mk.injEq,
          and_true]
        omega
      · have hrest : q.free - 1 < rest.length := by
          simp only [List.length_cons] at fits
          omega
        rw [push_of_lt (Nat.lt_of_not_le fits), push_of_lt (hfree.symm ▸ hrest)]
        simp only [hfree, Prod.mk.injEq, and_true]
        omega
    · have offered : q.offer b = (false, q) := if_neg room
      have full : q.free = 0 := Nat.sub_eq_zero_of_le (Nat.le_of_not_lt room)
      have exceeds : q.free < (b :: rest).length := by
        rw [full]
        exact Nat.succ_pos _
      simp only [pushEach, offered, push_of_lt exceeds, full, Nat.add_zero, purge]

/-- Queueing a chunk at once comes to the same as queueing it octet by octet. -/
theorem pushEach_zero (chunk : Bytes) (q : RxQueue) : q.pushEach 0 chunk = q.push chunk := by
  rw [pushEach_eq, Nat.zero_add]

end RxQueue

inductive QueueStep where
  | push (chunk : Bytes)
  /-- An octet is asked for, and given up after some silence if a time is given. -/
  | receive (within : Option Duration)
  /-- What waits is discarded, at either end. -/
  | purge
  /-- No more octets will come. -/
  | close

inductive QueueAnswer where
  /-- So many octets of a chunk were taken. -/
  | accepted (count : Nat)
  | octet (b : UInt8)
  | failure (error : InterfaceError)
  /-- There is no answer until an octet comes or the queue is closed. -/
  | waiting
  /-- So many octets were discarded. -/
  | discarded (count : Nat)
  | closed
  deriving DecidableEq

/-- What has become of octets that were queued. -/
inductive Fate where
  | delivered (b : UInt8)
  /-- They were thrown away at once. -/
  | lost (octets : Bytes)
  deriving DecidableEq

namespace QueueStep

def octets : QueueStep → Bytes
  | push chunk => chunk
  | _ => []

def stream (steps : List QueueStep) : Bytes := steps.flatMap octets

end QueueStep

namespace QueueAnswer

def octets : QueueAnswer → Bytes
  | octet b => [b]
  | _ => []

end QueueAnswer

namespace Fate

def octets : Fate → Bytes
  | delivered b => [b]
  | lost octets => octets

def received : Fate → Bytes
  | delivered b => [b]
  | lost _ => []

theorem received_sublist_octets (fates : List Fate) :
    (fates.flatMap received).Sublist (fates.flatMap octets) := by
  induction fates with
  | nil => exact .slnil
  | cons f fates ih =>
    cases f with
    | delivered b => exact ih.cons_cons b
    | lost octets => exact ih.trans (List.sublist_append_right octets _)

end Fate

namespace RxQueue

/-- What a step is answered with, and what it leaves of the queue. -/
def answer : QueueStep → RxQueue → QueueAnswer × RxQueue
  | .push chunk, q => (.accepted (q.push chunk).1, (q.push chunk).2)
  | .receive none, q =>
    match q.receive with
    | some (.ok b, q) => (.octet b, q)
    | some (.error e, q) => (.failure e, q)
    | none => (.waiting, q)
  | .receive (some timeout), q =>
    match q.receiveWithin timeout with
    | (.ok b, q) => (.octet b, q)
    | (.error e, q) => (.failure e, q)
  | .purge, q => (.discarded q.purge.1, q.purge.2)
  | .close, q => (.closed, q.close)

def answerAll : List QueueStep → RxQueue → List QueueAnswer × RxQueue
  | [], q => ([], q)
  | x :: rest, q =>
    let (a, q) := q.answer x
    let (answers, q) := q.answerAll rest
    (a :: answers, q)

/-- The law of the queue: how a step is answered, what becomes of which octets by it, and what
waits behind it. -/
inductive Answered (q : RxQueue) : QueueStep → QueueAnswer → List Fate → RxQueue → Prop where
  | queued {chunk : Bytes} (fits : chunk.length ≤ q.free) :
      Answered q (.push chunk) (.accepted chunk.length) []
        { q with bytes := q.bytes ++ chunk }
  | overflowed {chunk : Bytes} (exceeds : q.free < chunk.length) :
      Answered q (.push chunk) (.accepted q.free) [.lost (q.bytes ++ chunk)]
        { q with bytes := [] }
  | delivered {within : Option Duration} {b : UInt8} {rest : Bytes}
      (front : q.bytes = b :: rest) :
      Answered q (.receive within) (.octet b) [.delivered b] { q with bytes := rest }
  | unserved (empty : q.bytes = []) (closed : q.closed = false) :
      Answered q (.receive none) .waiting [] q
  | silent {timeout : Duration} (empty : q.bytes = []) (closed : q.closed = false) :
      Answered q (.receive (some timeout)) (.failure (.timeout timeout)) [] q
  | ended {within : Option Duration} (empty : q.bytes = []) (closed : q.closed = true) :
      Answered q (.receive within) (.failure .closed) [] q
  | purged : Answered q .purge (.discarded q.bytes.length) [.lost q.bytes] { q with bytes := [] }
  | closed : Answered q .close .closed [] q.close

/-- Steps that are answered by the law, one behind the other. -/
inductive Accounts : RxQueue → List QueueStep → List QueueAnswer → List Fate → RxQueue → Prop where
  | nil {q : RxQueue} : Accounts q [] [] [] q
  | cons {q q' q'' : RxQueue} {x : QueueStep} {rest : List QueueStep} {a : QueueAnswer}
      {answers : List QueueAnswer} {new fates : List Fate}
      (first : Answered q x a new q') (others : Accounts q' rest answers fates q'') :
      Accounts q (x :: rest) (a :: answers) (new ++ fates) q''

variable {q q' : RxQueue} {x : QueueStep} {a : QueueAnswer} {steps : List QueueStep}
  {answers : List QueueAnswer} {fates : List Fate}

theorem answered_of_front {b : UInt8} {rest : Bytes} (front : q.bytes = b :: rest)
    (within : Option Duration) :
    Answered q (.receive within) (q.answer (.receive within)).1 [.delivered b]
      (q.answer (.receive within)).2 := by
  cases within with
  | none =>
    simp only [answer, receive, front]
    exact .delivered front
  | some timeout =>
    simp only [answer, receiveWithin, front]
    exact .delivered front

theorem answered_of_empty (empty : q.bytes = []) (within : Option Duration) :
    Answered q (.receive within) (q.answer (.receive within)).1 []
      (q.answer (.receive within)).2 := by
  cases hclosed : q.closed with
  | false =>
    cases within with
    | none =>
      simp only [answer, receive, empty, hclosed, Bool.false_eq_true, if_false]
      exact .unserved empty hclosed
    | some timeout =>
      simp only [answer, receiveWithin, empty, silence, hclosed, Bool.false_eq_true, if_false]
      exact .silent empty hclosed
  | true =>
    cases within with
    | none =>
      simp only [answer, receive, empty, hclosed, if_true]
      exact .ended empty hclosed
    | some timeout =>
      simp only [answer, receiveWithin, empty, silence, hclosed, if_true]
      exact .ended empty hclosed

/-- The queue keeps the law, whatever the step. -/
theorem answer_answered (q : RxQueue) (x : QueueStep) :
    ∃ fates, Answered q x (q.answer x).1 fates (q.answer x).2 := by
  cases x with
  | push chunk =>
    by_cases fits : chunk.length ≤ q.free
    · simp only [answer, push_of_le fits]
      exact ⟨_, .queued fits⟩
    · have exceeds := Nat.lt_of_not_le fits
      simp only [answer, push_of_lt exceeds]
      exact ⟨_, .overflowed exceeds⟩
  | receive within =>
    rcases hbytes : q.bytes with _ | ⟨b, rest⟩
    · exact ⟨[], answered_of_empty hbytes within⟩
    · exact ⟨[.delivered b], answered_of_front hbytes within⟩
  | purge => exact ⟨_, .purged⟩
  | close => exact ⟨_, .closed⟩

theorem answerAll_accounts (steps : List QueueStep) (q : RxQueue) :
    ∃ fates, Accounts q steps (q.answerAll steps).1 fates (q.answerAll steps).2 := by
  induction steps generalizing q with
  | nil => exact ⟨[], .nil⟩
  | cons x rest ih =>
    obtain ⟨new, first⟩ := q.answer_answered x
    obtain ⟨fates, others⟩ := ih (q.answer x).2
    exact ⟨new ++ fates, .cons first others⟩

theorem Answered.balance (h : Answered q x a fates q') :
    q.bytes ++ x.octets = fates.flatMap Fate.octets ++ q'.bytes := by
  cases h with
  | queued fits => rfl
  | overflowed exceeds => simp [QueueStep.octets, Fate.octets]
  | delivered front => simp [QueueStep.octets, Fate.octets, front]
  | unserved empty closed => simp [QueueStep.octets, empty]
  | silent empty closed => simp [QueueStep.octets, empty]
  | ended empty closed => simp [QueueStep.octets, empty]
  | purged => simp [QueueStep.octets, Fate.octets]
  | closed => simp [QueueStep.octets, close]

theorem Answered.received (h : Answered q x a fates q') :
    fates.flatMap Fate.received = a.octets := by
  cases h <;> rfl

theorem Answered.bounded (h : Answered q x a fates q') (within : q.bytes.length ≤ q.capacity) :
    q'.bytes.length ≤ q'.capacity ∧ q'.capacity = q.capacity := by
  cases h with
  | queued fits =>
    refine ⟨?_, rfl⟩
    rw [free] at fits
    simp only [List.length_append]
    omega
  | overflowed exceeds => exact ⟨Nat.zero_le _, rfl⟩
  | delivered front =>
    refine ⟨?_, rfl⟩
    rw [front, List.length_cons] at within
    exact Nat.le_of_succ_le within
  | unserved empty closed => exact ⟨within, rfl⟩
  | silent empty closed => exact ⟨within, rfl⟩
  | ended empty closed => exact ⟨within, rfl⟩
  | purged => exact ⟨Nat.zero_le _, rfl⟩
  | closed => exact ⟨within, rfl⟩

namespace Accounts

/-- What waited at first and what was pushed since was delivered or lost, in order, or waits. -/
theorem balance (h : Accounts q steps answers fates q') :
    q.bytes ++ QueueStep.stream steps = fates.flatMap Fate.octets ++ q'.bytes := by
  induction h with
  | nil => exact List.append_nil _
  | @cons q q' q'' x rest a answers new fates first others ih =>
    calc q.bytes ++ QueueStep.stream (x :: rest)
        = (q.bytes ++ x.octets) ++ QueueStep.stream rest := by
          rw [QueueStep.stream, List.flatMap_cons, List.append_assoc]
          rfl
      _ = new.flatMap Fate.octets ++ (q'.bytes ++ QueueStep.stream rest) := by
          rw [first.balance, List.append_assoc]
      _ = (new ++ fates).flatMap Fate.octets ++ q''.bytes := by
          rw [ih, List.flatMap_append, List.append_assoc]

theorem received (h : Accounts q steps answers fates q') :
    fates.flatMap Fate.received = answers.flatMap QueueAnswer.octets := by
  induction h with
  | nil => rfl
  | cons first others ih =>
    rw [List.flatMap_append, List.flatMap_cons, first.received, ih]

theorem bounded (h : Accounts q steps answers fates q')
    (within : q.bytes.length ≤ q.capacity) :
    q'.bytes.length ≤ q'.capacity ∧ q'.capacity = q.capacity := by
  induction h with
  | nil => exact ⟨within, rfl⟩
  | cons first others ih =>
    obtain ⟨within', same⟩ := first.bounded within
    obtain ⟨within'', same'⟩ := ih within'
    exact ⟨within'', same'.trans same⟩

end Accounts

/-- Whatever is done with a queue, and in whatever order, it keeps the law of the queue: no more
octets wait than it has room for, they are the last of those that were pushed, and the ones in
front of them were delivered or lost in the order in which they came. -/
theorem every_octet_accounted (capacity : Nat) (steps : List QueueStep) :
    ∃ fates answers q, (empty capacity).answerAll steps = (answers, q) ∧
      Accounts (empty capacity) steps answers fates q ∧
      q.bytes.length ≤ capacity ∧
      QueueStep.stream steps = fates.flatMap Fate.octets ++ q.bytes ∧
      answers.flatMap QueueAnswer.octets = fates.flatMap Fate.received ∧
      (answers.flatMap QueueAnswer.octets ++ q.bytes).Sublist (QueueStep.stream steps) ∧
      ∀ chunk, q.pushEach 0 chunk = q.push chunk := by
  obtain ⟨fates, accounts⟩ := (empty capacity).answerAll_accounts steps
  obtain ⟨within, same⟩ := accounts.bounded (Nat.zero_le _)
  have balance : QueueStep.stream steps =
      fates.flatMap Fate.octets ++ ((empty capacity).answerAll steps).2.bytes := accounts.balance
  refine ⟨fates, _, _, rfl, accounts, Nat.le_trans within (Nat.le_of_eq same), balance,
    accounts.received.symm, ?_, fun chunk => pushEach_zero chunk _⟩
  rw [← accounts.received, balance]
  exact (Fate.received_sublist_octets fates).append_right _

/-- The chunk behind an overflow is delivered from its first octet on. -/
example : ((empty 4).answerAll [.push [1, 2, 3], .push [4, 5, 6, 7], .push [8], .receive none]).1 =
    [.accepted 3, .accepted 1, .accepted 1, .octet 8] := by decide

end RxQueue

end PeripheralBridge
