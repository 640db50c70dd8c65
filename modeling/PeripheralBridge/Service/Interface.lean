import PeripheralBridge.Peripheral.Dispatch
import PeripheralBridge.Service.Error

/-!
# Serving requests

An interface receives requests and sends responses. Serving takes turns: a turn is a
failed receive, or a request that was received, answered by the dispatcher and sent
back. Serving stops when the interface closes, after a failure it cannot recover from,
and when too many receives in a row have broken down.

An interface has received only finitely much, so serving a state of it ends: either it
stops, or nothing more has arrived and it would wait.
-/

namespace PeripheralBridge

structure Interface (σ : Type) where
  name : String
  /-- Bring the interface up. -/
  init : Attempt σ InterfaceError Unit
  /-- Receive one request; none when nothing has arrived yet. -/
  receive : σ → Option (Except InterfaceError Request × σ)
  send : Response → Attempt σ InterfaceError Unit
  /-- A bound on what has arrived. -/
  arrived : σ → Nat
  receive_arrived : ∀ s s' r,
    receive s = some (r, s') → r ≠ .error .closed → arrived s' < arrived s
  send_arrived : ∀ r s, arrived (send r s).2 ≤ arrived s

inductive Turn where
  /-- Nothing acceptable was received. -/
  | refused (error : InterfaceError)
  /-- A request was answered, and its response sent or lost. -/
  | answered (request : Request) (response : Response) (sent : Except InterfaceError Unit)

/-- Where serving stands after a turn. -/
inductive Standing where
  /-- It goes on, after this many broken receives in a row. -/
  | serving (broken : Nat)
  | stopped (result : Except InterfaceError Unit)

/-- This many broken receives in a row end the service. -/
def brokenReceiveLimit : Nat := 8

namespace Turn

/-- What a turn means for serving on, after `broken` broken receives. -/
def standing (broken : Nat) : Turn → Standing
  | refused .closed => .stopped (.ok ())
  | refused (.io failure) =>
    if brokenReceiveLimit ≤ broken + 1 then .stopped (.error (.io failure))
    else .serving (broken + 1)
  | refused e => if e.recoverable then .serving broken else .stopped (.error e)
  | answered _ _ (.ok ()) => .serving 0
  | answered _ _ (.error .closed) => .stopped (.ok ())
  | answered _ _ (.error e) => if e.recoverable then .serving 0 else .stopped (.error e)

end Turn

/-- What serving has come to. -/
structure Service (σ ω : Type) where
  /-- The turns taken, in order. -/
  turns : List Turn
  /-- How serving ended, none where it waits for a request. -/
  result : Option (Except InterfaceError Unit)
  /-- The interface as it was left. -/
  state : σ
  /-- The world as it was left. -/
  world : ω

namespace Interface

variable {σ ω : Type}

def turn (i : Interface σ) (d : Dispatcher ω) (s : σ) (w : ω) : Option (Turn × σ × ω) :=
  match i.receive s with
  | none => none
  | some (.error e, s) => some (.refused e, s, w)
  | some (.ok request, s) =>
    let (response, w) := d.dispatch request w
    let (sent, s) := i.send response s
    some (.answered request response sent, s, w)

/-- A turn after which serving goes on has used something that had arrived. -/
theorem arrived_lt_of_turn {i : Interface σ} {d : Dispatcher ω} {s s' : σ} {w w' : ω}
    {t : Turn} {broken next : Nat} (ht : i.turn d s w = some (t, s', w'))
    (hs : t.standing broken = .serving next) : i.arrived s' < i.arrived s := by
  unfold turn at ht
  split at ht
  · exact absurd ht (by simp)
  · rename_i e s₁ hr
    injection ht with ht
    injection ht with ht hrest
    injection hrest with hs' _
    subst ht hs'
    refine i.receive_arrived _ _ _ hr ?_
    intro hc
    injection hc with hc
    subst hc
    simp [Turn.standing] at hs
  · rename_i request s₁ hr
    injection ht with ht
    injection ht with _ hrest
    injection hrest with hs' _
    subst hs'
    exact Nat.lt_of_le_of_lt (i.send_arrived _ _) (i.receive_arrived _ _ _ hr (by simp))

/-- Take turns until serving stops or would wait. -/
def run (i : Interface σ) (d : Dispatcher ω) (broken : Nat) (s : σ) (w : ω) : Service σ ω :=
  match _ht : i.turn d s w with
  | none => ⟨[], none, s, w⟩
  | some (t, s', w') =>
    match _hs : t.standing broken with
    | .stopped result => ⟨[t], some result, s', w'⟩
    | .serving next =>
      let later := run i d next s' w'
      { later with turns := t :: later.turns }
termination_by i.arrived s
decreasing_by exact arrived_lt_of_turn _ht _hs

theorem run_of_none {i : Interface σ} {d : Dispatcher ω} {s : σ} {w : ω}
    (h : i.turn d s w = none) (broken : Nat) : run i d broken s w = ⟨[], none, s, w⟩ := by
  rw [run]
  split
  · rfl
  · rename_i h'
    exact absurd (h.symm.trans h') (by simp)

theorem run_of_serving {i : Interface σ} {d : Dispatcher ω} {s s' : σ} {w w' : ω} {t : Turn}
    {broken next : Nat} (h : i.turn d s w = some (t, s', w'))
    (hs : t.standing broken = .serving next) :
    run i d broken s w =
      { run i d next s' w' with turns := t :: (run i d next s' w').turns } := by
  rw [run]
  split
  · rename_i h'
    exact absurd (h.symm.trans h') (by simp)
  · rename_i h'
    have heq := h.symm.trans h'
    simp only [Option.some.injEq, Prod.mk.injEq] at heq
    obtain ⟨rfl, rfl, rfl⟩ := heq
    split
    · rename_i hs'
      exact absurd (hs.symm.trans hs') (by simp)
    · rename_i hs'
      have hn := hs.symm.trans hs'
      injection hn with hn
      subst hn
      rfl

def serve (i : Interface σ) (d : Dispatcher ω) (s : σ) (w : ω) : Service σ ω :=
  match i.init s with
  | (.error e, s) => ⟨[], some (.error e), s, w⟩
  | (.ok (), s) => run i d 0 s w

end Interface

end PeripheralBridge
