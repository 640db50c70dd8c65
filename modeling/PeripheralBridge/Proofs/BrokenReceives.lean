import Mathlib.Data.List.Chain
import Mathlib.Data.List.DropRight
import PeripheralBridge.Proofs.Serving

/-!
# Broken receives

Serving goes on over receives that break down, but gives up at the eighth since the last request.
A receive that was dropped for another reason (a message that breaks off, one that is malformed or
too long) does not begin the count anew. Eight that stand side by side always end serving; where
serving gives up, they stand side by side unless something was dropped between them.
-/

namespace PeripheralBridge

def brokeDown : Except InterfaceError Request → Bool
  | .error (.io _) => true
  | _ => false

/-- What was received behind the last request. -/
def sinceRequest (xs : List (Except InterfaceError Request)) :
    List (Except InterfaceError Request) :=
  xs.rtakeWhile fun x => !x.isOk

/-- What was received behind the last request, from the first broken receive on. -/
def brokenRow (xs : List (Except InterfaceError Request)) : List (Except InterfaceError Request) :=
  (sinceRequest xs).dropWhile fun x => !brokeDown x

variable {xs ys : List (Except InterfaceError Request)} {x : Except InterfaceError Request}
  {n : Nat}

theorem sinceRequest_append (unasked : ∀ y ∈ ys, y.isOk = false) :
    sinceRequest (xs ++ ys) = sinceRequest xs ++ ys := by
  rw [sinceRequest, sinceRequest, List.rtakeWhile, List.rtakeWhile, List.reverse_append,
    List.takeWhile_append_of_pos, List.reverse_append, List.reverse_reverse]
  intro y hy
  simp [unasked y (List.mem_reverse.mp hy)]

theorem sinceRequest_concat_ok (xs : List (Except InterfaceError Request)) (q : Request) :
    sinceRequest (xs ++ [.ok q]) = [] :=
  List.rtakeWhile_concat_neg _ _ _ (by simp [Except.isOk, Except.toBool])

/-- The count of serving is that of the broken receives since the last request. -/
theorem brokenAfter_zero (xs : List (Except InterfaceError Request)) :
    brokenAfter 0 xs = (sinceRequest xs).countP brokeDown := by
  induction xs using List.reverseRecOn with
  | nil => rfl
  | append_singleton xs x ih =>
    rw [brokenAfter_append, ih]
    cases x with
    | ok q =>
      rw [sinceRequest_concat_ok]
      rfl
    | error e =>
      rw [sinceRequest_append (by simp [Except.isOk, Except.toBool]), List.countP_append]
      cases e <;> rfl

theorem countP_brokenRow (xs : List (Except InterfaceError Request)) :
    (brokenRow xs).countP brokeDown = brokenAfter 0 xs := by
  have dropped : ((sinceRequest xs).takeWhile fun x => !brokeDown x).countP brokeDown = 0 := by
    rw [List.countP_eq_zero]
    intro x hx
    simpa using List.mem_takeWhile_imp hx
  rw [brokenAfter_zero, brokenRow]
  have split := congrArg (List.countP brokeDown)
    (List.takeWhile_append_dropWhile (p := fun x => !brokeDown x) (l := sinceRequest xs))
  rw [← split, List.countP_append, dropped, Nat.zero_add]

theorem brokenAfter_of_brokeDown (h : ∀ y ∈ ys, brokeDown y = true) :
    brokenAfter n ys = n + ys.length := by
  induction ys generalizing n with
  | nil => rfl
  | cons y rest ih =>
    have broken := h y List.mem_cons_self
    rw [List.length_cons, ← Nat.add_assoc, Nat.add_right_comm]
    cases y with
    | ok q => cases broken
    | error e =>
      cases e with
      | io f => exact ih fun y hy => h y (List.mem_cons_of_mem _ hy)
      | _ => cases broken

theorem brokenAfter_singleton_le (n : Nat) (x : Except InterfaceError Request) :
    brokenAfter n [x] ≤ n + 1 := by
  cases x with
  | ok q => exact Nat.zero_le _
  | error e =>
    cases e with
    | io f => exact Nat.le_refl _
    | _ => exact Nat.le_succ n

theorem isOk_of_brokeDown (h : brokeDown x = true) : x.isOk = false := by
  cases x with
  | ok q => cases h
  | error e => rfl

theorem GoOn.of_append {turns more : List Turn} (h : GoOn n (turns ++ more)) : GoOn n turns :=
  fun earlier t later split => h earlier t (later ++ more) (by simp [split])

/-- Where serving goes on, too few receives have broken down. -/
theorem GoOn.brokenAfter_lt {turns : List Turn} (h : GoOn 0 turns) :
    brokenAfter 0 (turns.map Turn.received) < brokenReceiveLimit := by
  induction turns using List.reverseRecOn with
  | nil => exact Nat.zero_lt_succ _
  | append_singleton turns t ih =>
    have few := ih h.of_append
    rw [List.map_append, brokenAfter_append]
    cases t with
    | answered q r sent => exact Nat.zero_lt_succ _
    | refused e =>
      cases e with
      | io f =>
        refine Nat.lt_of_not_le fun spent => ?_
        exact h turns _ [] rfl _ (.worn spent)
      | _ => exact few

/-- Serving gave up for want of a receive that does not break down. -/
def GivesUp {σ ω : Type} (v : Service σ ω) : Prop :=
  ∃ f, v.result = some (.error (.io f)) ∧
    (v.turns.map Turn.received).getLast? = some (.error (.io f))

/-- So many receives that broke down stand side by side. -/
def InARow (count : Nat) (xs : List (Except InterfaceError Request)) : Prop :=
  ∃ row, row <:+: xs ∧ row.length = count ∧ ∀ x ∈ row, brokeDown x = true

theorem not_givesUp_of_unused {σ ω : Type} {v : Service σ ω} (unused : v.turns = []) :
    ¬ GivesUp v := by
  rintro ⟨f, _, last⟩
  rw [unused] at last
  cases last

theorem not_inARow_nil : ¬ InARow brokenReceiveLimit [] := by
  rintro ⟨row, inside, length, _⟩
  rw [List.infix_nil.mp inside] at length
  cases length

section Ended

variable {σ ω : Type} {v : Service σ ω} {result : Except InterfaceError Unit} {before : List Turn}
  {last : Turn} (ended : v.result = some result) (turns : v.turns = before ++ [last])
  (stops : last.Stops (brokenAfter 0 (before.map Turn.received)) result) (goOn : GoOn 0 before)
include turns goOn

/-- Receives that break down side by side are the last ones. -/
theorem suffix_of_inARow
    (inARow : InARow brokenReceiveLimit (v.turns.map Turn.received)) :
    ∃ xs row, v.turns.map Turn.received = xs ++ row ∧ row.length = brokenReceiveLimit ∧
      ∀ x ∈ row, brokeDown x = true := by
  obtain ⟨row, ⟨xs, ys, split⟩, length, broken⟩ := inARow
  cases ys using List.reverseRecOn with
  | nil => exact ⟨xs, row, by rw [← split, List.append_nil], length, broken⟩
  | append_singleton ys y =>
    -- behind eight broken receives serving had stopped before the last turn
    rw [turns, List.map_append, List.map_singleton, ← List.append_assoc] at split
    obtain ⟨whole, _⟩ := List.append_inj' split rfl
    obtain ⟨earlier, later, rfl, received, _⟩ := List.map_eq_append_iff.mp whole.symm
    have few := goOn.of_append.brokenAfter_lt
    rw [received, brokenAfter_append, brokenAfter_of_brokeDown broken, length] at few
    exact absurd few (Nat.not_lt.mpr (Nat.le_add_left _ _))

include ended stops

/-- Serving gives up exactly when so many receives have broken down since the last request. -/
theorem givesUp_iff :
    GivesUp v ↔ brokenAfter 0 (v.turns.map Turn.received) = brokenReceiveLimit := by
  have few := goOn.brokenAfter_lt
  rw [GivesUp, turns, List.map_append, List.map_singleton, List.getLast?_concat, brokenAfter_append,
    ended]
  cases last with
  | answered q r sent => simp [Turn.received, brokenAfter, brokenReceiveLimit]
  | refused e =>
    cases e with
    | io f =>
      cases stops with
      | worn spent =>
        have exactly := Nat.le_antisymm few spent
        simpa [Turn.received, brokenAfter] using exactly
      | unusable lasting _ => cases lasting
    | _ => simpa [Turn.received, brokenAfter] using Nat.ne_of_lt few

theorem givesUp_of_inARow (inARow : InARow brokenReceiveLimit (v.turns.map Turn.received)) :
    GivesUp v := by
  obtain ⟨xs, row, split, length, broken⟩ := suffix_of_inARow turns goOn inARow
  refine (givesUp_iff ended turns stops goOn).mpr (Nat.le_antisymm ?_ ?_)
  · rw [turns, List.map_append, List.map_singleton, brokenAfter_append]
    exact Nat.le_trans (brokenAfter_singleton_le _ _) goOn.brokenAfter_lt
  · rw [split, brokenAfter_append, brokenAfter_of_brokeDown broken, length]
    exact Nat.le_add_left _ _

/-- Serving gives up after so many receives that broke down side by side unless a receive came to
something else between those it counted. -/
theorem inARow_iff (givesUp : GivesUp v) :
    InARow brokenReceiveLimit (v.turns.map Turn.received) ↔
      ∀ x ∈ brokenRow (v.turns.map Turn.received), brokeDown x = true := by
  have count := (givesUp_iff ended turns stops goOn).mp givesUp
  constructor
  · intro inARow
    obtain ⟨xs, row, split, length, broken⟩ := suffix_of_inARow turns goOn inARow
    have unasked : ∀ y ∈ row, y.isOk = false := fun y hy => isOk_of_brokeDown (broken y hy)
    have none_before : (sinceRequest xs).countP brokeDown = 0 := by
      rw [split, brokenAfter_append, brokenAfter_of_brokeDown broken, brokenAfter_zero,
        length] at count
      omega
    rw [split, brokenRow, sinceRequest_append unasked, List.dropWhile_append_of_pos]
    · exact fun x hx => broken x ((List.dropWhile_sublist _).mem hx)
    · intro y hy
      simpa using List.countP_eq_zero.mp none_before y hy
  · intro broken
    have length := List.countP_eq_length.mpr broken
    rw [countP_brokenRow, count] at length
    refine ⟨_, ?_, length.symm, broken⟩
    exact ((List.dropWhile_suffix _).trans (List.rtakeWhile_suffix _ _)).isInfix

end Ended

/-- Serving gives up exactly when eight receives have broken down since the last request. These
stand side by side exactly when no receive in between was dropped for another reason. -/
theorem gives_up_iff_row {ω : Type} (d : Dispatcher ω) (s : ScriptedInterface) (w : ω) :
    let v := ScriptedInterface.interface.serve d s w
    let obtained := v.turns.map Turn.received
    (GivesUp v ↔ (brokenRow obtained).countP brokeDown = brokenReceiveLimit) ∧
    ((GivesUp v ↔ InARow brokenReceiveLimit obtained) ↔
      (GivesUp v → ∀ x ∈ brokenRow obtained, brokeDown x = true)) := by
  intro v obtained
  cases failure : s.initFailure with
  | some e =>
    have unused : v.turns = [] :=
      congrArg Service.turns (ScriptedInterface.serve_of_failure failure d w)
    have stays := not_givesUp_of_unused unused
    have none : obtained = [] := congrArg (List.map Turn.received) unused
    rw [none]
    refine ⟨iff_of_false stays (by decide), ?_⟩
    exact iff_of_true (iff_of_false stays not_inARow_nil) fun givesUp => absurd givesUp stays
  | none =>
    obtain ⟨result, before, last, ended, turns, stops, goOn⟩ :=
      (ScriptedInterface.serves_of_up failure d w).ends
    have inARow := givesUp_of_inARow ended turns stops goOn
    refine ⟨?_, ?_⟩
    · rw [countP_brokenRow]
      exact givesUp_iff ended turns stops goOn
    · constructor
      · intro same givesUp
        exact (inARow_iff ended turns stops goOn givesUp).mp (same.mp givesUp)
      · intro unbroken
        refine ⟨fun givesUp => ?_, inARow⟩
        exact (inARow_iff ended turns stops goOn givesUp).mpr (unbroken givesUp)

/-- Serving gives up after as many broken receives as it allows, whatever was dropped between
them. -/
theorem run_of_refusals {ω : Type} (d : Dispatcher ω) (w : ω) {errors : List InterfaceError}
    {f : IoFailure} {rest : List (Except InterfaceError Request)} {s : ScriptedInterface}
    {broken : Nat} (incoming : s.incoming = errors.map .error ++ .error (.io f) :: rest)
    (passing : ∀ e ∈ errors, e.recoverable = true)
    (spent : broken + (errors.map .error).countP brokeDown + 1 = brokenReceiveLimit) :
    Interface.Run ScriptedInterface.interface d broken s w
      ⟨(errors ++ [InterfaceError.io f]).map .refused, some (.error (.io f)),
        { s with incoming := rest }, w⟩ := by
  induction errors generalizing s broken with
  | nil =>
    have received := ScriptedInterface.receive_eq s
    rw [incoming] at received
    exact .stops (.refused received)
      (Turn.standing_eq_stopped_iff.mpr (.worn (Nat.le_of_eq spent.symm)))
  | cons e errors ih =>
    have received := ScriptedInterface.receive_eq s
    rw [incoming] at received
    have passing' : ∀ e ∈ errors, e.recoverable = true :=
      fun e he => passing e (List.mem_cons_of_mem _ he)
    rw [List.map_cons, List.countP_cons] at spent
    cases e with
    | io g =>
      have few : ¬ brokenReceiveLimit ≤ broken + 1 := by
        simp only [brokeDown, if_true] at spent
        omega
      have standing : (Turn.refused (.io g)).standing broken = .serving (broken + 1) := by
        rw [Turn.standing, if_neg few]
      refine .goesOn (.refused received) standing (ih rfl passing' ?_)
      simp only [brokeDown, if_true] at spent
      omega
    | init _ => cases passing _ List.mem_cons_self
    | closed => cases passing _ List.mem_cons_self
    | _ => exact .goesOn (.refused received) rfl (ih rfl passing' spent)

/-- Eight receives that break down, with a message that breaks off behind each of them, and then a
request. -/
def scattered : ScriptedInterface where
  incoming :=
    (List.replicate 8 [.error (.io ⟨.other, none⟩), .error (.timeout (.ofMilliseconds 10))]).flatten
      ++ [.ok ⟨⟨0, 0, 2⟩, [65]⟩]

/-- Serving gives up although no two of the receives that broke down stand side by side. -/
theorem scattered_failures_end_serving :
    let v := ScriptedInterface.interface.serve
      (.ofRegistry (⟨[], .protocolMinimum⟩ : Registry Unit)) scattered ()
    ¬ (GivesUp v ↔ InARow brokenReceiveLimit (v.turns.map Turn.received)) := by
  intro v
  have run : Interface.Run ScriptedInterface.interface
      (.ofRegistry (⟨[], .protocolMinimum⟩ : Registry Unit)) 0 scattered ()
      ⟨((List.replicate 7 [InterfaceError.io ⟨.other, none⟩,
            InterfaceError.timeout (.ofMilliseconds 10)]).flatten ++
          [InterfaceError.io ⟨.other, none⟩]).map .refused, some (.error (.io ⟨.other, none⟩)),
        { scattered with incoming := scattered.incoming.drop 15 }, ()⟩ :=
    run_of_refusals _ _ rfl (by decide) rfl
  have served : v = _ := (ScriptedInterface.serve_of_up rfl _ ()).trans run.eq
  have apart : (v.turns.map Turn.received).IsChain
      fun x y => ¬ (brokeDown x = true ∧ brokeDown y = true) := by
    rw [served]
    decide
  have givesUp : GivesUp v := by
    rw [served]
    exact ⟨_, rfl, rfl⟩
  intro same
  obtain ⟨row, inside, length, broken⟩ := same.mp givesUp
  match row, length with
  | x :: y :: rest, _ =>
    have first := List.IsChain.rel <| List.IsChain.infix apart inside
    exact first ⟨broken x (by simp), broken y (by simp)⟩

end PeripheralBridge
