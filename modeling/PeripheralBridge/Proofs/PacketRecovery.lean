import PeripheralBridge.Proofs.PipeRecord
import PeripheralBridge.Scripted.Pipe

/-!
# Recovery of a packet link

After a transfer that failed, nothing is written or read before a reset of the pipe has
succeeded, and a reset is made for no other reason. The statements are about whole
histories of a link: any operations, over a pipe that may answer in any way. What calls
for a reset is read off the history alone, without the flag that the link keeps.
-/

namespace PeripheralBridge

namespace PacketLink

variable {σ : Type}

inductive Operation where
  | exchange (header : RequestHeader) (payload : Bytes)
  | reset
  | setLimits (limits : PayloadLimits)

namespace Operation

def IsExchange : Operation → Prop
  | exchange _ _ => True
  | _ => False

/-- Carry out an operation; only an exchange has a response. -/
def perform (pipe : BulkPipe σ) : Operation → Attempt (PacketLink σ) LinkError (Option Response)
  | exchange header payload => do
    let response ← (link pipe).exchange header payload
    return some response
  | reset => do
    (link pipe).reset
    return none
  | setLimits limits => do
    Attempt.update ((link pipe).setLimits limits)
    return none

end Operation

/-- One operation, what it asked of the pipe, and its result. -/
structure Entry where
  operation : Operation
  events : List PipeEvent
  result : Except LinkError (Option Response)

namespace Entry

/-- A request went out, at least in part, and no acceptable response came back. -/
def TransferFailed (x : Entry) : Prop :=
  x.operation.IsExchange ∧ (∃ e ∈ x.events, e.Moves) ∧ ∃ e, x.result = .error e

def Resets (x : Entry) : Prop := .reset (.ok ()) ∈ x.events

end Entry

/-- Carry out one operation over a recorded pipe. -/
def enter (pipe : BulkPipe σ) (l : PacketLink σ) (o : Operation) : Entry × PacketLink σ :=
  let (r, l') := o.perform pipe.recorded (l.noting [])
  (⟨o, l'.pipe.2, r⟩, l'.unrecorded)

def history (pipe : BulkPipe σ) (l : PacketLink σ) : List Operation → List Entry
  | [] => []
  | o :: rest => (enter pipe l o).1 :: history pipe (enter pipe l o).2 rest

/-- The results of some operations on the link alone, without a record. -/
def results (pipe : BulkPipe σ) (l : PacketLink σ) :
    List Operation → List (Except LinkError (Option Response))
  | [] => []
  | o :: rest => (o.perform pipe l).1 :: results pipe (o.perform pipe l).2 rest

/-- Some transfer failed, and the pipe has not been reset since. -/
def Unrecovered (past : List Entry) : Prop :=
  ∃ before x after, past = before ++ x :: after ∧ x.TransferFailed ∧ ∀ y ∈ after, ¬ y.Resets

variable {pipe : BulkPipe σ} {l : PacketLink σ} {past before after : List Entry} {x : Entry}

/-- An exchange as the link, its record and its history have it. -/
theorem enter_exchange (pipe : BulkPipe σ) (l : PacketLink σ) (header : RequestHeader)
    (payload : Bytes) :
    ∃ events r l', Exchanged pipe l (header.bytes ++ payload) events r l' ∧
      exchange pipe header payload l = (r, l') ∧
      (∀ log, exchange pipe.recorded header payload (l.noting log) =
        (r, l'.noting (log ++ events))) ∧
      enter pipe l (.exchange header payload) =
        (⟨.exchange header payload, events, r.map some⟩, l') := by
  obtain ⟨events, r, l', exchanged, plain, logged⟩ := exchange_recorded pipe l header payload
  refine ⟨events, r, l', exchanged, plain, logged, ?_⟩
  cases r <;> simp [enter, Operation.perform, link, logged, Attempt.bind_apply, Except.map]

/-- A reset as the link, its record and its history have it. -/
theorem enter_reset (pipe : BulkPipe σ) (l : PacketLink σ) :
    ∃ answer r l', l' = { l with pipe := l'.pipe, stale := l.stale && !answer.isOk } ∧
      r.isOk = answer.isOk ∧ reset pipe l = (r, l') ∧
      (∀ log, reset pipe.recorded (l.noting log) = (r, l'.noting (log ++ [.reset answer]))) ∧
      enter pipe l .reset = (⟨.reset, [.reset answer], r.map fun _ => none⟩, l') := by
  rcases hr : pipe.reset l.pipe with ⟨answer, s⟩
  refine ⟨answer, (reset pipe l).1, (reset pipe l).2, ?_⟩
  cases answer <;>
    simp [reset, enter, Operation.perform, link, noting, unrecorded, BulkPipe.recorded, hr,
      Attempt.bind_apply, Except.map, Except.isOk, Except.toBool]

theorem enter_setLimits (pipe : BulkPipe σ) (l : PacketLink σ) (limits : PayloadLimits) :
    enter pipe l (.setLimits limits) =
      (⟨.setLimits limits, [], .ok none⟩, (link pipe).setLimits limits l) := rfl

/-- Recording an operation changes neither its result nor what it does to the link. -/
theorem enter_faithful (pipe : BulkPipe σ) (l : PacketLink σ) (o : Operation) :
    ((enter pipe l o).1.result, (enter pipe l o).2) = o.perform pipe l := by
  cases o with
  | exchange header payload =>
    obtain ⟨events, r, l', _, plain, _, he⟩ := enter_exchange pipe l header payload
    rw [he]
    cases r <;> simp [Operation.perform, link, plain, Attempt.bind_apply, Except.map]
  | reset =>
    obtain ⟨answer, r, l', _, _, plain, _, he⟩ := enter_reset pipe l
    rw [he]
    cases r <;> simp [Operation.perform, link, plain, Attempt.bind_apply, Except.map]
  | setLimits limits => rfl

theorem history_results (pipe : BulkPipe σ) (l : PacketLink σ) (operations : List Operation) :
    (history pipe l operations).map Entry.result = results pipe l operations := by
  induction operations generalizing l with
  | nil => rfl
  | cons o rest ih => rw [history, results, ← enter_faithful, List.map_cons, ih]

theorem enter_timeout (pipe : BulkPipe σ) (l : PacketLink σ) (o : Operation) :
    (enter pipe l o).2.config.timeout = l.config.timeout := by
  cases o with
  | exchange header payload =>
    obtain ⟨events, r, l', exchanged, _, _, he⟩ := enter_exchange pipe l header payload
    rw [he]
    cases exchanged <;> rfl
  | reset =>
    obtain ⟨answer, r, l', left, _, _, _, he⟩ := enter_reset pipe l
    rw [he, left]
  | setLimits limits => rfl

theorem moves_not_reset {events : List PipeEvent} (h : ∀ e ∈ events, e.Moves)
    (answer : Except IoFailure Unit) : .reset answer ∉ events :=
  fun hm => h _ hm

/-- The flag after an operation: the operation left a failed transfer behind, or one was
pending and the operation did not reset the pipe. -/
theorem enter_stale (pipe : BulkPipe σ) (l : PacketLink σ) (o : Operation) :
    (enter pipe l o).2.stale = true ↔
      (enter pipe l o).1.TransferFailed ∨ l.stale = true ∧ ¬ (enter pipe l o).1.Resets := by
  cases o with
  | exchange header payload =>
    obtain ⟨events, r, l', exchanged, _, _, he⟩ := enter_exchange pipe l header payload
    rw [he]
    cases exchanged with
    | refused stale _ => simp [stale, Entry.Resets]
    | recovered stale _ transferred =>
      obtain ⟨e, mem, moves⟩ := transferred.moved
      cases r with
      | error f =>
        exact iff_of_true rfl (.inl ⟨trivial, ⟨e, List.mem_cons_of_mem _ mem, moves⟩, f, rfl⟩)
      | ok response =>
        refine iff_of_false Bool.false_ne_true ?_
        rintro (⟨_, _, f, failed⟩ | ⟨_, unreset⟩)
        · cases failed
        · exact unreset (by simp [Entry.Resets])
    | straight fresh transferred =>
      obtain ⟨e, mem, moves⟩ := transferred.moved
      cases r with
      | error f => exact iff_of_true rfl (.inl ⟨trivial, ⟨e, mem, moves⟩, f, rfl⟩)
      | ok response =>
        refine iff_of_false Bool.false_ne_true ?_
        rintro (⟨_, _, f, failed⟩ | ⟨stale, _⟩)
        · cases failed
        · rw [fresh] at stale
          cases stale
  | reset =>
    obtain ⟨answer, r, l', left, _, _, _, he⟩ := enter_reset pipe l
    rw [he, left]
    cases answer <;> simp [Entry.TransferFailed, Operation.IsExchange, Entry.Resets, Except.isOk,
      Except.toBool]
  | setLimits limits =>
    simp [enter_setLimits, link, Entry.TransferFailed, Operation.IsExchange, Entry.Resets]

theorem unrecovered_snoc (past : List Entry) (x : Entry) :
    Unrecovered (past ++ [x]) ↔ x.TransferFailed ∨ Unrecovered past ∧ ¬ x.Resets := by
  constructor
  · rintro ⟨before, y, after, hsplit, failed, unreset⟩
    rcases List.eq_nil_or_concat after with rfl | ⟨init, z, hafter⟩
    · have hx := List.append_inj' hsplit rfl
      injection hx.2 with hx
      exact .inl (hx ▸ failed)
    · rw [List.concat_eq_append] at hafter
      subst hafter
      have hsplit : past ++ [x] = (before ++ y :: init) ++ [z] := by simp [hsplit]
      obtain ⟨hpast, hx⟩ := List.append_inj' hsplit rfl
      injection hx with hx
      subst hx hpast
      refine .inr ⟨⟨before, y, init, rfl, failed, fun w hw => unreset w ?_⟩, unreset x ?_⟩
      · exact List.mem_append_left _ hw
      · exact List.mem_append_right _ (List.mem_singleton_self x)
  · rintro (failed | ⟨⟨before, y, after, rfl, failed, unreset⟩, hx⟩)
    · exact ⟨past, x, [], rfl, failed, by simp⟩
    · refine ⟨before, y, after ++ [x], by simp, failed, ?_⟩
      intro z hz
      rcases List.mem_append.mp hz with hz | hz
      · exact unreset z hz
      · exact List.mem_singleton.mp hz ▸ hx

/-- What a link may do after some past. -/
structure Disciplined (timeout : Duration) (past : List Entry) (x : Entry) : Prop where
  /-- After a failed transfer nothing moves before a reset has succeeded. -/
  quiet : Unrecovered past → ∀ e₁ e e₂, x.events = e₁ ++ e :: e₂ → e.Moves →
    .reset (.ok ()) ∈ e₁
  /-- An exchange resets the pipe if and only if a failed transfer is behind it. -/
  resets_iff : x.operation.IsExchange → ((∃ answer, .reset answer ∈ x.events) ↔ Unrecovered past)
  /-- It resets the pipe once, and before anything else. -/
  once : x.operation.IsExchange → ∀ answer, .reset answer ∈ x.events →
    ∃ rest, x.events = .reset answer :: rest ∧ ∀ e ∈ rest, e.Moves
  /-- An exchange whose reset fails does nothing else and leaves the reset to the next. -/
  refused : x.operation.IsExchange → ∀ e, .reset (.error e) ∈ x.events →
    x.events = [.reset (.error e)] ∧ x.result = .error (.ofIo .reset timeout e) ∧
      Unrecovered (past ++ [x])

variable {timeout : Duration} {events : List PipeEvent}

theorem disciplined_refused (pending : Unrecovered past) (header : RequestHeader)
    (payload : Bytes) (e : IoFailure) :
    Disciplined timeout past ⟨.exchange header payload, [.reset (.error e)],
      .error (.ofIo .reset timeout e)⟩ where
  quiet := by
    intro _ e₁ e' e₂ hsplit moves
    have he' : e' ∈ e₁ ++ e' :: e₂ := by simp
    rw [← hsplit] at he'
    rw [List.mem_singleton.mp he'] at moves
    exact False.elim moves
  resets_iff _ := iff_of_true ⟨_, List.mem_singleton_self _⟩ pending
  once := by
    intro _ answer ha
    exact ⟨[], by rw [List.mem_singleton.mp ha], by simp⟩
  refused := by
    intro _ e' he'
    injection List.mem_singleton.mp he' with he'
    injection he' with he'
    subst he'
    exact ⟨rfl, rfl, (unrecovered_snoc _ _).mpr (.inr ⟨pending, by simp [Entry.Resets]⟩)⟩

theorem disciplined_recovered (pending : Unrecovered past) (moves : ∀ e ∈ events, e.Moves)
    (header : RequestHeader) (payload : Bytes) (r : Except LinkError (Option Response)) :
    Disciplined timeout past ⟨.exchange header payload, .reset (.ok ()) :: events, r⟩ where
  quiet := by
    intro _ e₁ e e₂ hsplit he
    cases e₁ with
    | nil =>
      injection hsplit with hsplit
      subst hsplit
      exact False.elim he
    | cons e' e₁ =>
      injection hsplit with hsplit
      exact hsplit ▸ List.mem_cons_self
  resets_iff _ := iff_of_true ⟨_, List.mem_cons_self⟩ pending
  once := by
    intro _ answer ha
    rcases List.mem_cons.mp ha with ha | ha
    · exact ⟨events, by rw [ha], moves⟩
    · exact False.elim (moves_not_reset moves answer ha)
  refused := by
    intro _ e he
    rcases List.mem_cons.mp he with he | he
    · cases he
    · exact False.elim (moves_not_reset moves _ he)

theorem disciplined_fresh (clear : ¬ Unrecovered past) (moves : ∀ e ∈ events, e.Moves)
    (header : RequestHeader) (payload : Bytes) (r : Except LinkError (Option Response)) :
    Disciplined timeout past ⟨.exchange header payload, events, r⟩ where
  quiet pending := False.elim (clear pending)
  resets_iff _ := iff_of_false (fun ⟨answer, ha⟩ => moves_not_reset moves answer ha) clear
  once _ answer ha := False.elim (moves_not_reset moves answer ha)
  refused _ _ he := False.elim (moves_not_reset moves _ he)

theorem disciplined_still (other : ¬ x.operation.IsExchange) (still : ∀ e ∈ x.events, ¬ e.Moves) :
    Disciplined timeout past x where
  quiet := by
    intro _ e₁ e e₂ hsplit he
    exact False.elim (still e (by simp [hsplit]) he)
  resets_iff h := False.elim (other h)
  once h := False.elim (other h)
  refused h := False.elim (other h)

theorem enter_disciplined (pipe : BulkPipe σ) (tracks : l.stale = true ↔ Unrecovered past)
    (o : Operation) : Disciplined l.config.timeout past (enter pipe l o).1 := by
  cases o with
  | exchange header payload =>
    obtain ⟨events, r, l', exchanged, _, _, he⟩ := enter_exchange pipe l header payload
    rw [he]
    cases exchanged with
    | refused stale _ => exact disciplined_refused (tracks.mp stale) header payload _
    | recovered stale _ transferred =>
      exact disciplined_recovered (tracks.mp stale) transferred.moves header payload _
    | straight fresh transferred =>
      have clear : ¬ Unrecovered past := fun pending => by
        rw [tracks.mpr pending] at fresh
        cases fresh
      exact disciplined_fresh clear transferred.moves header payload _
  | reset =>
    obtain ⟨answer, r, l', _, _, _, _, he⟩ := enter_reset pipe l
    rw [he]
    exact disciplined_still id (by simp [PipeEvent.Moves])
  | setLimits limits =>
    exact disciplined_still id (by simp [enter_setLimits])

/-- The flag keeps track of the past, and every entry of a history is disciplined. -/
theorem history_disciplined (pipe : BulkPipe σ) (operations : List Operation)
    (tracks : l.stale = true ↔ Unrecovered past)
    (hx : history pipe l operations = before ++ x :: after) :
    Disciplined l.config.timeout (past ++ before) x := by
  induction operations generalizing l past before with
  | nil => simp [history] at hx
  | cons o rest ih =>
    have next : (enter pipe l o).2.stale = true ↔ Unrecovered (past ++ [(enter pipe l o).1]) :=
      (enter_stale pipe l o).trans (by rw [unrecovered_snoc, tracks])
    rw [history] at hx
    cases before with
    | nil =>
      injection hx with hx _
      rw [List.append_nil, ← hx]
      exact enter_disciplined pipe tracks o
    | cons y before =>
      injection hx with hy hx
      have h := ih next hx
      rw [enter_timeout, hy] at h
      simpa using h

/-- Over any pipe and for any operations, a fresh link asks for a reset exactly when a failed
transfer calls for one, and until one has succeeded it neither writes nor reads. The history
tells what the link does without a record. -/
theorem recovery_discipline (pipe : BulkPipe σ) (s : σ) (config : LinkConfig)
    (operations : List Operation) (past after : List Entry) (x : Entry)
    (hx : history pipe (onPipe pipe s config) operations = past ++ x :: after) :
    (past ++ x :: after).map Entry.result = results pipe (onPipe pipe s config) operations ∧
    Disciplined config.timeout past x ∧
    (x.operation.IsExchange → (∀ y ∈ past, ∃ response, y.result = .ok response) →
      ∀ answer, .reset answer ∉ x.events) ∧
    (∀ e between y later, x.operation.IsExchange → .reset (.error e) ∈ x.events →
      after = between ++ y :: later → (∀ z ∈ between, ¬ z.Resets) → y.operation.IsExchange →
      ∃ answer, .reset answer ∈ y.events) := by
  have clear : ¬ Unrecovered [] := by
    rintro ⟨before, y, later, hsplit, _⟩
    exact List.append_ne_nil_of_right_ne_nil _ (List.cons_ne_nil _ _) hsplit.symm
  have tracks : (onPipe pipe s config).stale = true ↔ Unrecovered [] :=
    iff_of_false Bool.false_ne_true clear
  have h : Disciplined config.timeout past x := history_disciplined pipe operations tracks hx
  refine ⟨hx ▸ history_results pipe _ operations, h, ?_, ?_⟩
  · intro exchange succeeded answer ha
    obtain ⟨before, y, later, hsplit, ⟨_, _, e, failed⟩, _⟩ :=
      (h.resets_iff exchange).mp ⟨answer, ha⟩
    obtain ⟨response, hy⟩ := succeeded y (by simp [hsplit])
    rw [hy] at failed
    cases failed
  · intro e between y later exchange he hafter unreset next
    have hy : history pipe (onPipe pipe s config) operations =
        (past ++ [x] ++ between) ++ y :: later := by simp [hx, hafter]
    obtain ⟨before, z, rest, hsplit, failed, hz⟩ := (h.refused exchange e he).2.2
    refine ((history_disciplined pipe operations tracks hy).resets_iff next).mpr
      ⟨before, z, rest ++ between, by simp [hsplit], failed, ?_⟩
    intro w hw
    exact (List.mem_append.mp hw).elim (hz w) (unreset w)

/-- Nobody answers, and the first reset fails: the second exchange does not get past the reset,
and the third makes up for it. -/
theorem recovery_discipline_unanswered :
    ∃ x₀ x₁ x₂ : Entry,
      history ScriptedPipe.pipe (onPipe ScriptedPipe.pipe { resets := [.error .brokenPipe] })
        (List.replicate 3 (.exchange default [])) = [x₀] ++ x₁ :: [x₂] ∧
      (∀ answer, .reset answer ∉ x₀.events) ∧ Unrecovered [x₀] ∧
      .reset (.error .brokenPipe) ∈ x₁.events ∧ Disciplined defaultTimeout [x₀] x₁ ∧
      ∃ answer, .reset answer ∈ x₂.events := by
  have first := recovery_discipline ScriptedPipe.pipe { resets := [.error .brokenPipe] } {}
    (List.replicate 3 (.exchange default [])) [] [_, _] _ rfl
  have second := recovery_discipline ScriptedPipe.pipe { resets := [.error .brokenPipe] } {}
    (List.replicate 3 (.exchange default [])) [_] [_] _ rfl
  have pending := (second.2.1.resets_iff trivial).mp ⟨_, List.mem_singleton_self _⟩
  have again := second.2.2.2 .brokenPipe [] _ [] trivial (List.mem_singleton_self _) rfl (by simp)
    trivial
  exact ⟨_, _, _, rfl, first.2.2.1 trivial (by simp), pending, List.mem_singleton_self _,
    second.2.1, again⟩

end PacketLink

end PeripheralBridge
