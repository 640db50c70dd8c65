import PeripheralBridge.Proofs.Turns
import PeripheralBridge.Scripted.Interface

/-!
# Serving an interface

An interface is served turn by turn: a request is received, dispatched and answered before the
next is received, and nothing is dispatched or sent where none was received. Serving is told as a
run of turns over an arbitrary interface, each from the state the last one left; the turns say what
was received, what was sent, and why serving came to its end. An interface that plays a script
shows that it is the script that was received and answered, in turn and no further than the last
turn.
-/

namespace PeripheralBridge

inductive InterfaceEvent where
  | init (answer : Except InterfaceError Unit)
  | received (answer : Except InterfaceError Request)
  | sent (response : Response) (answer : Except InterfaceError Unit)

namespace Turn

def received : Turn → Except InterfaceError Request
  | refused e => .error e
  | answered q _ _ => .ok q

def response? : Turn → Option Response
  | refused _ => none
  | answered _ r _ => some r

/-- What became of the response of a turn. -/
def sending? : Turn → Option (Except InterfaceError Unit)
  | refused _ => none
  | answered _ _ sent => some sent

/-- The response of a turn, if it was not lost. -/
def delivered? : Turn → Option Response
  | answered _ r (.ok ()) => some r
  | _ => none

def events : Turn → List InterfaceEvent
  | refused e => [.received (.error e)]
  | answered q r sent => [.received (.ok q), .sent r sent]

/-- A turn ends serving, after `broken` broken receives since the last request. -/
inductive Stops (broken : Nat) : Turn → Except InterfaceError Unit → Prop where
  | closed : Stops broken (.refused .closed) (.ok ())
  | worn {f : IoFailure} (spent : brokenReceiveLimit ≤ broken + 1) :
      Stops broken (.refused (.io f)) (.error (.io f))
  | unusable {e : InterfaceError} (lasting : e.recoverable = false) (present : e ≠ .closed) :
      Stops broken (.refused e) (.error e)
  | abandoned {q : Request} {r : Response} : Stops broken (.answered q r (.error .closed)) (.ok ())
  | unanswerable {q : Request} {r : Response} {e : InterfaceError}
      (lasting : e.recoverable = false) (present : e ≠ .closed) :
      Stops broken (.answered q r (.error e)) (.error e)

end Turn

/-- The broken receives since the last request, after `broken` before these. -/
def brokenAfter (broken : Nat) : List (Except InterfaceError Request) → Nat
  | [] => broken
  | .ok _ :: rest => brokenAfter 0 rest
  | .error (.io _) :: rest => brokenAfter (broken + 1) rest
  | .error _ :: rest => brokenAfter broken rest

theorem InterfaceError.eq_init {e : InterfaceError} (lasting : e.recoverable = false)
    (present : e ≠ .closed) : ∃ reason, e = .init reason := by
  cases e with
  | init reason => exact ⟨reason, rfl⟩
  | closed => exact absurd rfl present
  | _ => cases lasting

/-- Serving stops at a turn exactly where it says so. -/
theorem Turn.standing_eq_stopped_iff {t : Turn} {broken : Nat}
    {result : Except InterfaceError Unit} :
    t.standing broken = .stopped result ↔ t.Stops broken result := by
  constructor
  · intro h
    cases t with
    | refused e =>
      cases e with
      | closed =>
        cases h
        exact .closed
      | io f =>
        simp only [standing] at h
        split at h
        · rename_i spent
          cases h
          exact .worn spent
        · cases h
      | init _ =>
        cases h
        exact .unusable rfl (by simp)
      | _ => cases h
    | answered q r sent =>
      cases sent with
      | ok _ => cases h
      | error e =>
        cases e with
        | closed =>
          cases h
          exact .abandoned
        | init _ =>
          cases h
          exact .unanswerable rfl (by simp)
        | _ => cases h
  · intro h
    cases h with
    | closed => rfl
    | worn spent => simp [standing, spent]
    | abandoned => rfl
    | unusable lasting present =>
      obtain ⟨_, rfl⟩ := InterfaceError.eq_init lasting present
      rfl
    | unanswerable lasting present =>
      obtain ⟨_, rfl⟩ := InterfaceError.eq_init lasting present
      rfl

/-- Where serving goes on, it has counted what was received. -/
theorem Turn.eq_brokenAfter {t : Turn} {broken next : Nat}
    (h : t.standing broken = .serving next) : next = brokenAfter broken [t.received] := by
  cases t with
  | refused e =>
    cases e with
    | io f =>
      simp only [standing] at h
      split at h
      · cases h
      · cases h
        rfl
    | init _ => cases h
    | closed => cases h
    | _ =>
      cases h
      rfl
  | answered q r sent =>
    cases sent with
    | ok _ =>
      cases h
      rfl
    | error e =>
      cases e with
      | init _ => cases h
      | closed => cases h
      | _ =>
        cases h
        rfl

theorem brokenAfter_append (broken : Nat) (xs ys : List (Except InterfaceError Request)) :
    brokenAfter broken (xs ++ ys) = brokenAfter (brokenAfter broken xs) ys := by
  induction xs generalizing broken with
  | nil => rfl
  | cons x rest ih =>
    cases x with
    | ok q => exact ih 0
    | error e =>
      cases e with
      | io f => exact ih (broken + 1)
      | _ => exact ih broken

/-- What serving has come to, with a record that was begun before it. -/
def Service.logged {σ ω : Type} (v : Service σ ω) (log : List InterfaceEvent) :
    Service (σ × List InterfaceEvent) ω :=
  ⟨v.turns, v.result, (v.state, log ++ v.turns.flatMap Turn.events), v.world⟩

/-- No turn of these stops serving. -/
def GoOn (broken : Nat) (turns : List Turn) : Prop :=
  ∀ earlier t later, turns = earlier ++ t :: later →
    ∀ r, ¬ t.Stops (brokenAfter broken (earlier.map Turn.received)) r

namespace Interface

variable {σ ω : Type}

/-- The same interface with a record of what it is asked. A receive for which nothing has arrived
is still going on, and has no answer to record. -/
def recorded (i : Interface σ) : Interface (σ × List InterfaceEvent) where
  name := i.name
  init s := ((i.init s.1).1, (i.init s.1).2, s.2 ++ [.init (i.init s.1).1])
  receive s := (i.receive s.1).map fun x => (x.1, x.2, s.2 ++ [.received x.1])
  send r s := ((i.send r s.1).1, (i.send r s.1).2, s.2 ++ [.sent r (i.send r s.1).1])
  arrived s := i.arrived s.1
  receive_arrived := by
    intro s s' r h hr
    obtain ⟨⟨r', left⟩, hreceive, hx⟩ := Option.map_eq_some_iff.mp h
    cases hx
    exact i.receive_arrived _ _ _ hreceive hr
  send_arrived r s := i.send_arrived r s.1

/-- The ways in which a turn can go. -/
inductive Taken (i : Interface σ) (d : Dispatcher ω) (s : σ) (w : ω) : Turn → σ → ω → Prop where
  | refused {e : InterfaceError} {s' : σ} (received : i.receive s = some (.error e, s')) :
      Taken i d s w (.refused e) s' w
  | answered {q : Request} {s₁ s₂ : σ} {r : Response} {w' : ω}
      {sending : Except InterfaceError Unit}
      (received : i.receive s = some (.ok q, s₁)) (dispatched : d.dispatch q w = (r, w'))
      (sent : i.send r s₁ = (sending, s₂)) :
      Taken i d s w (.answered q r sending) s₂ w'

/-- The ways in which serving can go from a state. -/
inductive Run (i : Interface σ) (d : Dispatcher ω) : Nat → σ → ω → Service σ ω → Prop where
  | waits {broken : Nat} {s : σ} {w : ω} (idle : i.turn d s w = none) :
      Run i d broken s w ⟨[], none, s, w⟩
  | stops {broken : Nat} {s s' : σ} {w w' : ω} {t : Turn} {result : Except InterfaceError Unit}
      (taken : Taken i d s w t s' w')
      (standing : t.standing broken = .stopped result) :
      Run i d broken s w ⟨[t], some result, s', w'⟩
  | goesOn {broken next : Nat} {s s' : σ} {w w' : ω} {t : Turn} {later : Service σ ω}
      (taken : Taken i d s w t s' w') (standing : t.standing broken = .serving next)
      (rest : Run i d next s' w' later) :
      Run i d broken s w { later with turns := t :: later.turns }

variable {i : Interface σ} {d : Dispatcher ω} {broken : Nat} {s s' : σ} {w w' : ω} {t : Turn}
  {v : Service σ ω}

theorem turn_eq_some_iff : i.turn d s w = some (t, s', w') ↔ Taken i d s w t s' w' := by
  constructor
  · intro turned
    rw [turn] at turned
    split at turned
    · cases turned
    · rename_i e s₁ received
      cases turned
      exact .refused received
    · rename_i q s₁ received
      cases turned
      exact .answered received rfl rfl
  · intro taken
    cases taken with
    | refused received => rw [turn, received]
    | answered received dispatched sent =>
      rw [turn, received]
      simp only [dispatched, sent]

theorem run_spec (i : Interface σ) (d : Dispatcher ω) (broken : Nat) (s : σ) (w : ω) :
    Run i d broken s w (run i d broken s w) := by
  fun_induction run i d broken s w with
  | case1 broken s w idle => exact .waits idle
  | case2 broken s w t s' w' turned result standing =>
    exact .stops (turn_eq_some_iff.mp turned) standing
  | case3 broken s w t s' w' turned next standing later ih =>
    exact .goesOn (turn_eq_some_iff.mp turned) standing ih

/-- Serving goes in one way only. -/
theorem Run.eq (h : Run i d broken s w v) : run i d broken s w = v := by
  induction h with
  | waits idle => exact run_of_none idle _
  | stops taken standing =>
    have turned := turn_eq_some_iff.mpr taken
    rw [run]
    split
    · rename_i idle
      cases turned.symm.trans idle
    · rename_i turned'
      cases turned.symm.trans turned'
      split
      · rename_i standing'
        cases standing.symm.trans standing'
        rfl
      · rename_i standing'
        cases standing.symm.trans standing'
  | goesOn taken standing _ ih => rw [run_of_serving (turn_eq_some_iff.mpr taken) standing, ih]

theorem Taken.recorded (h : Taken i d s w t s' w') (log : List InterfaceEvent) :
    Taken i.recorded d (s, log) w t (s', log ++ t.events) w' := by
  cases h with
  | refused received => exact .refused (by simp only [Interface.recorded, received]; rfl)
  | @answered q s₁ _ r _ sending received dispatched sent =>
    have receive : i.recorded.receive (s, log) =
        some (.ok q, s₁, log ++ [.received (.ok q)]) := by
      simp only [Interface.recorded, received]
      rfl
    refine .answered receive dispatched ?_
    simp only [Interface.recorded, sent, List.append_assoc]
    rfl

theorem turn_recorded_none (idle : i.turn d s w = none) (log : List InterfaceEvent) :
    i.recorded.turn d (s, log) w = none := by
  rw [turn]
  simp only [recorded, receive_eq_none idle, Option.map_none]

/-- A record changes nothing, and has the events of the turns. -/
theorem Run.recorded (h : Run i d broken s w v) (log : List InterfaceEvent) :
    Run i.recorded d broken (s, log) w (v.logged log) := by
  induction h generalizing log with
  | waits idle =>
    have waits := @Run.waits _ _ _ _ ‹Nat› _ _ (turn_recorded_none idle log)
    simpa [Service.logged] using waits
  | stops taken standing =>
    simpa [Service.logged] using Run.stops (taken.recorded log) standing
  | goesOn taken standing _ ih =>
    have later := Run.goesOn (taken.recorded log) standing (ih (log ++ Turn.events _))
    simpa [Service.logged, List.append_assoc] using later

/-- Serving that has come to an end ends with a turn that stops it, and no turn before does. -/
theorem Run.ends (h : Run i d broken s w v) {result : Except InterfaceError Unit}
    (ended : v.result = some result) :
    ∃ before last, v.turns = before ++ [last] ∧
      last.Stops (brokenAfter broken (before.map Turn.received)) result ∧ GoOn broken before := by
  induction h with
  | waits idle => cases ended
  | stops taken standing =>
    cases ended
    exact ⟨[], _, rfl, Turn.standing_eq_stopped_iff.mp standing, by simp [GoOn]⟩
  | @goesOn broken next _ _ _ _ t _ taken standing _ ih =>
    obtain ⟨before, last, turns, stops, first⟩ := ih ended
    have count : ∀ ts : List Turn, brokenAfter broken ((t :: ts).map Turn.received) =
        brokenAfter next (ts.map Turn.received) := by
      intro ts
      rw [List.map_cons, ← List.singleton_append, brokenAfter_append, Turn.eq_brokenAfter standing]
    refine ⟨t :: before, last, congrArg (t :: ·) turns, (count before).symm ▸ stops, ?_⟩
    intro earlier u later split r
    cases earlier with
    | nil =>
      cases split
      intro halts
      cases standing.symm.trans (Turn.standing_eq_stopped_iff.mpr halts)
    | cons _ earlier =>
      cases split
      rw [count]
      exact first earlier u later rfl r

end Interface

def Dispatcher.dispatchEach {ω : Type} (d : Dispatcher ω) : List Request → ω → List Response × ω
  | [], w => ([], w)
  | q :: rest, w =>
    let (r, w) := d.dispatch q w
    let (rs, w) := d.dispatchEach rest w
    (r :: rs, w)

/-- Each request that was received has been dispatched once, in order, before the next receive. -/
theorem Interface.Run.dispatched {σ ω : Type} {i : Interface σ} {d : Dispatcher ω} {broken : Nat}
    {s : σ} {w : ω} {v : Service σ ω} (h : Interface.Run i d broken s w v) :
    d.dispatchEach ((v.turns.map Turn.received).filterMap Except.toOption) w =
      (v.turns.filterMap Turn.response?, v.world) := by
  induction h with
  | waits idle => rfl
  | stops taken standing =>
    cases taken with
    | refused _ => rfl
    | answered _ dispatched _ =>
      simp [Turn.received, Turn.response?, Dispatcher.dispatchEach, Except.toOption, dispatched]
  | goesOn taken standing _ ih =>
    cases taken with
    | refused _ => exact ih
    | answered _ dispatched _ =>
      simp [-List.filterMap_map, Turn.received, Turn.response?, Dispatcher.dispatchEach,
        Except.toOption, dispatched, ih]

/-- The first `n` results of a script, with `rest` where the script has ended. -/
def played {α : Type} (script : List α) (rest : α) (n : Nat) : List α :=
  (script ++ List.replicate n rest).take n

theorem played_succ {α : Type} (script : List α) (rest : α) (n : Nat) :
    played script rest (n + 1) = script.head?.getD rest :: played script.tail rest n := by
  cases script with
  | nil => simp [played, List.replicate_succ]
  | cons x xs =>
    simp [played, List.take_append, List.take_replicate]
    omega

namespace ScriptedInterface

variable {ω : Type} {d : Dispatcher ω} {s s' s₁ : ScriptedInterface} {w w' : ω} {t : Turn}
  {turns : List Turn}

/-- Some turns have used the results laid down for them and left the others, and the responses that
were not lost are recorded. -/
structure Plays (s : ScriptedInterface) (turns : List Turn) (s' : ScriptedInterface) : Prop where
  received : turns.map Turn.received = played s.incoming (.error .closed) turns.length
  sendings : turns.filterMap Turn.sending? =
    played s.sends (.ok ()) (turns.filterMap Turn.sending?).length
  left : s' = { s with
    incoming := s.incoming.drop turns.length
    sends := s.sends.drop (turns.filterMap Turn.sending?).length
    sent := s.sent ++ turns.filterMap Turn.delivered? }

theorem receive_eq (s : ScriptedInterface) :
    interface.receive s =
      some (s.incoming.head?.getD (.error .closed), { s with incoming := s.incoming.tail }) := by
  cases s with
  | mk initFailure incoming sends sent => cases incoming <;> rfl

theorem send_eq (r : Response) (s : ScriptedInterface) :
    ∃ sending, interface.send r s = (sending, { s with
        sends := s.sends.tail
        sent := s.sent ++ (Turn.answered default r sending).delivered?.toList }) ∧
      sending = s.sends.head?.getD (.ok ()) := by
  cases s with
  | mk initFailure incoming sends sent =>
    cases sends with
    | nil => exact ⟨.ok (), rfl, rfl⟩
    | cons sending rest =>
      refine ⟨sending, ?_, rfl⟩
      cases sending <;> simp [interface, send, Turn.delivered?]

/-- What one turn makes of a script. -/
theorem taken_plays (taken : Interface.Taken interface d s w t s₁ w') :
    t.received = s.incoming.head?.getD (.error .closed) ∧
    (∀ sending, t.sending? = some sending → sending = s.sends.head?.getD (.ok ())) ∧
    s₁ = { s with
      incoming := s.incoming.tail
      sends := s.sends.drop t.sending?.toList.length
      sent := s.sent ++ t.delivered?.toList } := by
  cases taken with
  | refused received =>
    obtain ⟨head, rfl⟩ := Prod.mk.inj (Option.some.inj ((receive_eq s).symm.trans received))
    exact ⟨head.symm, by simp [Turn.sending?], by simp [Turn.sending?, Turn.delivered?]⟩
  | @answered q _ _ r _ sending received _ sent =>
    obtain ⟨head, rfl⟩ := Prod.mk.inj (Option.some.inj ((receive_eq s).symm.trans received))
    obtain ⟨sending', hsend, hsending⟩ := send_eq r { s with incoming := s.incoming.tail }
    obtain ⟨rfl, rfl⟩ := Prod.mk.inj (hsend.symm.trans sent)
    refine ⟨head.symm, ?_, ?_⟩
    · rintro _ ⟨⟩
      exact hsending
    · simp only [Turn.sending?, Option.toList_some, List.length_singleton, List.drop_one]
      cases sending' <;> rfl

theorem plays_nil (s : ScriptedInterface) : Plays s [] s := by
  refine ⟨rfl, rfl, ?_⟩
  simp

theorem Plays.cons (taken : Interface.Taken interface d s w t s₁ w')
    (later : Plays s₁ turns s') : Plays s (t :: turns) s' := by
  obtain ⟨head, sending, rfl⟩ := taken_plays taken
  refine ⟨?_, ?_, ?_⟩
  · rw [List.map_cons, List.length_cons, played_succ, head, later.received]
  · have rest := later.sendings
    cases hs : t.sending? with
    | none => simpa [hs] using rest
    | some a =>
      rw [List.filterMap_cons_some hs, List.length_cons, played_succ, ← sending a hs]
      simpa [hs] using rest
  · rw [later.left]
    cases t with
    | refused e => simp [List.filterMap_cons, Turn.sending?, Turn.delivered?]
    | answered q r a => cases a <;> simp [List.filterMap_cons, Turn.sending?, Turn.delivered?]

theorem plays_of_run {broken : Nat} {v : Service ScriptedInterface ω}
    (h : Interface.Run interface d broken s w v) :
    Plays s v.turns v.state ∧ ∃ result, v.result = some result := by
  induction h with
  | waits idle =>
    cases (receive_eq _).symm.trans (Interface.receive_eq_none idle)
  | stops taken _ => exact ⟨.cons taken (plays_nil _), _, rfl⟩
  | goesOn taken _ _ ih => exact ⟨.cons taken ih.1, ih.2⟩

/-- What serving a script comes to. Each turn is one receive, and after a request one send; the
requests that were received are dispatched once each, in order, and their responses are what is
sent; serving ends with the first turn that stops it. -/
structure Serves (d : Dispatcher ω) (s : ScriptedInterface) (w : ω)
    (v : Service ScriptedInterface ω) : Prop where
  recorded : interface.recorded.serve d (s, []) w = v.logged [.init (.ok ())]
  plays : Plays s v.turns v.state
  dispatched : d.dispatchEach ((v.turns.map Turn.received).filterMap Except.toOption) w =
    (v.turns.filterMap Turn.response?, v.world)
  ends : ∃ result before last, v.result = some result ∧ v.turns = before ++ [last] ∧
    last.Stops (brokenAfter 0 (before.map Turn.received)) result ∧ GoOn 0 before

theorem init_of_failure {e : InterfaceError} (failure : s.initFailure = some e) :
    interface.init s = (.error e, s) := by
  simp [interface, init, failure]

theorem serve_of_failure {e : InterfaceError} (failure : s.initFailure = some e)
    (d : Dispatcher ω) (w : ω) : interface.serve d s w = ⟨[], some (.error e), s, w⟩ := by
  rw [Interface.serve, init_of_failure failure]

theorem init_of_up (up : s.initFailure = none) : interface.init s = (.ok (), s) := by
  simp [interface, init, up]

theorem serve_of_up (up : s.initFailure = none) (d : Dispatcher ω) (w : ω) :
    interface.serve d s w = interface.run d 0 s w := by
  simp only [Interface.serve, init_of_up up]

theorem serves_of_up (up : s.initFailure = none) (d : Dispatcher ω) (w : ω) :
    Serves d s w (interface.serve d s w) := by
  have run := interface.run_spec d 0 s w
  rw [serve_of_up up]
  obtain ⟨plays, result, ended⟩ := plays_of_run run
  obtain ⟨before, last, turns, stops, goOn⟩ := run.ends ended
  refine ⟨?_, plays, run.dispatched, result, before, last, ended, turns, stops, goOn⟩
  rw [← (run.recorded [.init (.ok ())]).eq]
  simp only [Interface.serve, Interface.recorded, init_of_up up]
  rfl

/-- Serving a script that can be brought up dispatches what is received until it stops, and answers
each request before the next receive. One that cannot be brought up is asked for nothing. -/
theorem serve_in_turn (d : Dispatcher ω) (s : ScriptedInterface) (w : ω) :
    match s.initFailure with
    | some e =>
      interface.serve d s w = ⟨[], some (.error e), s, w⟩ ∧
      interface.recorded.serve d (s, []) w =
        ⟨[], some (.error e), (s, [.init (.error e)]), w⟩
    | none => Serves d s w (interface.serve d s w) := by
  cases failure : s.initFailure with
  | some e =>
    refine ⟨serve_of_failure failure d w, ?_⟩
    simp only [Interface.serve, Interface.recorded, init_of_failure failure]
    rfl
  | none => exact serves_of_up failure d w

end ScriptedInterface

end PeripheralBridge
