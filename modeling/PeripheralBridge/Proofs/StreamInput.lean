import PeripheralBridge.Proofs.PortRecord
import PeripheralBridge.Scripted.Port

/-!
# Input that comes in pieces

Input comes in pieces of any length, with interruptions between them, until it ends or the
line goes silent. An exact number of octets is read piece by piece, and what comes of it
depends on the octets that are delivered and on how the input ends, and not on the pieces.
-/

namespace PeripheralBridge

inductive InputEnd where
  | closed
  | failed (failure : IoFailure)

namespace InputEnd

/-- What the end of the input says about a link that waits for more. -/
def error (stage : ExchangeStage) (timeout : Duration) : InputEnd → LinkError
  | closed => .closed
  | failed failure =>
    if failure.kind ∈ [.timedOut, .wouldBlock] then .timeout stage timeout
    else if failure.kind ∈ [.brokenPipe, .notConnected, .unexpectedEof] then .closed
    else .io stage failure

theorem error_failed (failure : IoFailure) (stage : ExchangeStage) (timeout : Duration) :
    (failed failure).error stage timeout = .ofIo stage timeout failure := by
  rcases failure with ⟨kind, detail⟩
  cases kind <;> rfl

theorem error_ne_malformed (stop : InputEnd) (stage : ExchangeStage) (timeout : Duration)
    (e : MessageError) : stop.error stage timeout ≠ .malformed e := by
  rcases stop with _ | ⟨kind, detail⟩
  · nofun
  · cases kind <;> nofun

end InputEnd

/-- The octets that reads deliver before their first end of input or lasting failure. -/
def delivered : List ReadResult → Bytes
  | [] => []
  | .ok [] :: _ => []
  | .ok (b :: data) :: rest => b :: data ++ delivered rest
  | .error e :: rest => if e.Transient then delivered rest else []

/-- What comes behind those octets; a line that gives nothing more is silent. -/
def inputEnd : List ReadResult → InputEnd
  | [] => .failed .timedOut
  | .ok [] :: _ => .closed
  | .ok (_ :: _) :: rest => inputEnd rest
  | .error e :: rest => if e.Transient then inputEnd rest else .failed e

theorem delivered_cons_ok {data : Bytes} (hd : data ≠ []) (rest : List ReadResult) :
    delivered (.ok data :: rest) = data ++ delivered rest := by
  cases data with
  | nil => exact absurd rfl hd
  | cons b data => rfl

theorem inputEnd_cons_ok {data : Bytes} (hd : data ≠ []) (rest : List ReadResult) :
    inputEnd (.ok data :: rest) = inputEnd rest := by
  cases data with
  | nil => exact absurd rfl hd
  | cons b data => rfl

/-- Reads of a port give what is `coming`, in order, each of them no more than it asks for. -/
structure BytePort.Plays {σ : Type} (port : BytePort σ) (coming : σ → List ReadResult) : Prop where
  silent : ∀ count s, coming s = [] → ∃ s', port.read count s = (.error .timedOut, s')
  ended : ∀ count s rest, coming s = .ok [] :: rest → ∃ s', port.read count s = (.ok [], s')
  failed : ∀ count s e rest, coming s = .error e :: rest →
    ∃ s', port.read count s = (.error e, s') ∧ coming s' = rest
  given : ∀ count s data rest, data ≠ [] → coming s = .ok data :: rest →
    ∃ s', port.read count s = (.ok (data.take count), s') ∧
      coming s' = if data.drop count = [] then rest else .ok (data.drop count) :: rest
  /-- Nothing that was there survives a purge. -/
  purged : ∀ s s', port.purge s = (.ok (), s') → coming s' = []

theorem ScriptedPort.plays : port.Plays ScriptedPort.input where
  silent count p h := ⟨p, by simp only [port, read, h]⟩
  ended count p rest h := by
    refine ⟨(port.read count p).2, Prod.ext ?_ rfl⟩
    simp only [port, read, h, List.take_nil]
  failed count p e rest h := ⟨{ p with input := rest }, by simp only [port, read, h], rfl⟩
  given count p data rest _ h := by
    refine ⟨{ p with
      input := if data.drop count = [] then rest else .ok (data.drop count) :: rest }, ?_, rfl⟩
    simp only [port, read, h]
  purged p p' h := by
    simp only [port, purge] at h
    split at h
    · injection h with _ h
      rw [← h]
    · injection h with _ h
      rw [← h]
    · cases h

/-- A port is purged at the end of an exchange, or left alone. -/
inductive PurgedIf {σ : Type} (port : BytePort σ) : Bool → List PortEvent → σ → Prop where
  | left (s : σ) : PurgedIf port false [] s
  | purged (s : σ) : PurgedIf port true [.purge (port.purge s).1] (port.purge s).2

section ReadFull

variable {σ : Type} (port : BytePort σ) (stage : ExchangeStage) (timeout : Duration)
  {want : Nat} {s s₁ s₂ : σ} {e : IoFailure} {data : Bytes} {events : List PortEvent}

theorem BytePort.readFull_logged_zero (s : σ) :
    Logged (port.readFull stage timeout 0) (port.recorded.readFull stage timeout 0) s []
      (.ok []) s where
  plain := port.readFull_zero stage timeout s
  logged log := by rw [readFull_zero, List.append_nil]

theorem BytePort.readFull_logged_closed (hw : want ≠ 0) (hread : port.read want s = (.ok [], s₁)) :
    Logged (port.readFull stage timeout want) (port.recorded.readFull stage timeout want) s
      [.read want (.ok [])] (.error .closed) s₁ where
  plain := by rw [port.readFull_of_ne_zero stage timeout hw, hread]
  logged log := by
    rw [port.recorded.readFull_of_ne_zero stage timeout hw, port.recorded_read hread]

theorem BytePort.readFull_logged_more (hw : want ≠ 0) (hd : data ≠ [])
    (hread : port.read want s = (.ok data, s₁)) {r : Except LinkError Bytes}
    (next : Logged (port.readFull stage timeout (want - data.length))
      (port.recorded.readFull stage timeout (want - data.length)) s₁ events r s₂) :
    Logged (port.readFull stage timeout want) (port.recorded.readFull stage timeout want) s
      (.read want (.ok data) :: events) (r.map (data ++ ·)) s₂ := by
  cases data with
  | nil => exact absurd rfl hd
  | cons b data =>
    constructor
    · rw [port.readFull_of_ne_zero stage timeout hw, hread]
      simp only [next.plain]
    · intro log
      rw [port.recorded.readFull_of_ne_zero stage timeout hw, port.recorded_read hread]
      simp only [next.logged, List.append_assoc, List.singleton_append]

theorem BytePort.readFull_logged_again (hw : want ≠ 0) (ht : e.Transient)
    (hread : port.read want s = (.error e, s₁)) {r : Except LinkError Bytes}
    (next : Logged (port.readFull stage timeout want)
      (port.recorded.readFull stage timeout want) s₁ events r s₂) :
    Logged (port.readFull stage timeout want) (port.recorded.readFull stage timeout want) s
      (.read want (.error e) :: events) r s₂ := by
  refine .goes_on ?_ (fun log => ?_) next
  · rw [port.readFull_of_ne_zero stage timeout hw, hread]
    exact if_pos ht
  · rw [port.recorded.readFull_of_ne_zero stage timeout hw, port.recorded_read hread]
    exact if_pos ht

theorem BytePort.readFull_logged_failed (hw : want ≠ 0) (ht : ¬ e.Transient)
    (hread : port.read want s = (.error e, s₁)) :
    ∃ purges s₂, Logged (port.readFull stage timeout want)
        (port.recorded.readFull stage timeout want) s (.read want (.error e) :: purges)
        (.error (.ofIo stage timeout e)) s₂ ∧
      PurgedIf port (LinkError.ofIo stage timeout e).isTimeout purges s₂ := by
  cases late : (LinkError.ofIo stage timeout e).isTimeout with
  | false =>
    refine ⟨[], s₁, ⟨?_, fun log => ?_⟩, .left s₁⟩
    · rw [port.readFull_of_ne_zero stage timeout hw, hread]
      simp [ht, late]
    · rw [port.recorded.readFull_of_ne_zero stage timeout hw, port.recorded_read hread]
      simp [ht, late]
  | true =>
    refine ⟨_, _, ⟨?_, fun log => ?_⟩, .purged s₁⟩
    · rw [port.readFull_of_ne_zero stage timeout hw, hread]
      simp [ht, late]
    · rw [port.recorded.readFull_of_ne_zero stage timeout hw, port.recorded_read hread]
      simp [ht, late, port.recorded_purge]

end ReadFull

/-- What a read for at least one octet can do on a port that plays what is coming. -/
inductive ReadStep {σ : Type} (port : BytePort σ) (coming : σ → List ReadResult) (want : Nat)
    (s : σ) : Prop where
  | gave (data : Bytes) (s' : σ) (read : port.read want s = (.ok data, s')) (some : data ≠ [])
      (within : data.length ≤ want) (split : delivered (coming s) = data ++ delivered (coming s'))
      (same : inputEnd (coming s') = inputEnd (coming s))
      (fewer : (coming s').length ≤ (coming s).length)
  | interrupted (e : IoFailure) (s' : σ) (read : port.read want s = (.error e, s'))
      (passes : e.Transient) (same : delivered (coming s') = delivered (coming s))
      (same_end : inputEnd (coming s') = inputEnd (coming s))
      (fewer : (coming s').length < (coming s).length)
  | closed (s' : σ) (read : port.read want s = (.ok [], s')) (none : delivered (coming s) = [])
      (ends : inputEnd (coming s) = .closed)
  | failed (e : IoFailure) (s' : σ) (read : port.read want s = (.error e, s'))
      (lasts : ¬ e.Transient) (none : delivered (coming s) = [])
      (ends : inputEnd (coming s) = .failed e)

namespace BytePort.Plays

variable {σ : Type} {port : BytePort σ} {coming : σ → List ReadResult}
  (plays : port.Plays coming) {want : Nat}

include plays

theorem readStep (hw : want ≠ 0) (s : σ) : ReadStep port coming want s := by
  rcases h : coming s with _ | ⟨e | data, rest⟩
  · obtain ⟨s', hread⟩ := plays.silent want s h
    exact .failed .timedOut s' hread (by decide) (by rw [h]; rfl) (by rw [h]; rfl)
  · obtain ⟨s', hread, hrest⟩ := plays.failed want s e rest h
    by_cases passes : e.Transient
    · refine .interrupted e s' hread passes ?_ ?_ (by simp [h, hrest])
      · rw [h, hrest, delivered, if_pos passes]
      · rw [h, hrest, inputEnd, if_pos passes]
    · refine .failed e s' hread passes ?_ ?_
      · rw [h, delivered, if_neg passes]
      · rw [h, inputEnd, if_neg passes]
  · by_cases hd : data = []
    · subst hd
      obtain ⟨s', hread⟩ := plays.ended want s rest h
      exact .closed s' hread (by rw [h]; rfl) (by rw [h]; rfl)
    · obtain ⟨s', hread, hrest⟩ := plays.given want s data rest hd h
      have some : data.take want ≠ [] := by
        rw [Ne, List.take_eq_nil_iff]
        simp [hw, hd]
      by_cases more : data.drop want = []
      · have whole : data.take want = data := List.take_of_length_le (List.drop_eq_nil_iff.mp more)
        rw [if_pos more] at hrest
        refine .gave (data.take want) s' hread some (List.length_take_le _ _) ?_ ?_ ?_
        · rw [h, hrest, delivered_cons_ok hd, whole]
        · rw [h, hrest, inputEnd_cons_ok hd]
        · rw [h, hrest]
          exact Nat.le_succ _
      · rw [if_neg more] at hrest
        refine .gave (data.take want) s' hread some (List.length_take_le _ _) ?_ ?_ ?_
        · rw [h, hrest, delivered_cons_ok hd, delivered_cons_ok more, ← List.append_assoc,
            List.take_append_drop]
        · rw [h, hrest, inputEnd_cons_ok hd, inputEnd_cons_ok more]
        · rw [h, hrest]
          exact Nat.le_refl _

variable (stage : ExchangeStage) (timeout : Duration)

/-- Octets that are delivered are read, as many as are asked for and no more. -/
theorem readFull_enough (s : σ) (enough : want ≤ (delivered (coming s)).length) :
    ∃ reads s', Logged (port.readFull stage timeout want)
        (port.recorded.readFull stage timeout want) s reads
        (.ok ((delivered (coming s)).take want)) s' ∧
      (∀ e ∈ reads, e.IsRead) ∧
      reads.flatMap PortEvent.given = (delivered (coming s)).take want ∧
      delivered (coming s') = (delivered (coming s)).drop want ∧
      inputEnd (coming s') = inputEnd (coming s) := by
  -- Each step asks for fewer octets, or there is less to come.
  induction hn : want + (coming s).length using Nat.strongRecOn generalizing want s with
  | ind n ih =>
    by_cases hw : want = 0
    · subst hw
      exact ⟨[], s, port.readFull_logged_zero stage timeout s, by simp, rfl, rfl, rfl⟩
    · cases plays.readStep hw s with
      | gave data s₁ hread some within split same fewer =>
        have positive : data.length ≠ 0 := fun h => some (List.length_eq_zero_iff.mp h)
        rw [split, List.length_append] at enough
        have left : want - data.length ≤ (delivered (coming s₁)).length := by omega
        obtain ⟨reads, s₂, next, all, hgiven, hleft, hend⟩ := ih _ (by omega) s₁ left rfl
        have htake : (delivered (coming s)).take want =
            data ++ (delivered (coming s₁)).take (want - data.length) := by
          rw [split, List.take_append, List.take_of_length_le within]
        refine ⟨.read want (.ok data) :: reads, s₂, ?_, ?_, ?_, ?_, hend.trans same⟩
        · rw [htake]
          exact port.readFull_logged_more stage timeout hw some hread next
        · exact List.forall_mem_cons.mpr ⟨trivial, all⟩
        · rw [List.flatMap_cons, hgiven, htake]
          rfl
        · rw [hleft, split, List.drop_append, List.drop_eq_nil_of_le within, List.nil_append]
      | interrupted e s₁ hread passes same same_end fewer =>
        rw [← same] at enough
        obtain ⟨reads, s₂, next, all, hgiven, hleft, hend⟩ := ih _ (by omega) s₁ enough rfl
        rw [same] at next hgiven hleft
        refine ⟨.read want (.error e) :: reads, s₂,
          port.readFull_logged_again stage timeout hw passes hread next, ?_, hgiven, hleft,
          hend.trans same_end⟩
        exact List.forall_mem_cons.mpr ⟨trivial, all⟩
      | closed s₁ _ none _ | failed e s₁ _ _ none _ =>
        rw [none] at enough
        exact absurd (Nat.le_zero.mp enough) hw

/-- If too few octets are delivered, all of them are read, and then the end of the input. -/
theorem readFull_few (s : σ) (few : (delivered (coming s)).length < want) :
    ∃ reads purges s', Logged (port.readFull stage timeout want)
        (port.recorded.readFull stage timeout want) s (reads ++ purges)
        (.error ((inputEnd (coming s)).error stage timeout)) s' ∧
      (∀ e ∈ reads, e.IsRead) ∧ reads.flatMap PortEvent.given = delivered (coming s) ∧
      PurgedIf port ((inputEnd (coming s)).error stage timeout).isTimeout purges s' := by
  induction hn : want + (coming s).length using Nat.strongRecOn generalizing want s with
  | ind n ih =>
    have hw : want ≠ 0 := by omega
    cases plays.readStep hw s with
    | gave data s₁ hread some within split same fewer =>
      have positive : data.length ≠ 0 := fun h => some (List.length_eq_zero_iff.mp h)
      rw [split, List.length_append] at few
      have left : (delivered (coming s₁)).length < want - data.length := by omega
      obtain ⟨reads, purges, s₂, next, all, hgiven, purged⟩ := ih _ (by omega) s₁ left rfl
      rw [same] at next purged
      refine ⟨.read want (.ok data) :: reads, purges, s₂,
        port.readFull_logged_more stage timeout hw some hread next, ?_, ?_, purged⟩
      · exact List.forall_mem_cons.mpr ⟨trivial, all⟩
      · rw [List.flatMap_cons, hgiven, split]
        rfl
    | interrupted e s₁ hread passes same same_end fewer =>
      rw [← same] at few
      obtain ⟨reads, purges, s₂, next, all, hgiven, purged⟩ := ih _ (by omega) s₁ few rfl
      rw [same_end] at next purged
      refine ⟨.read want (.error e) :: reads, purges, s₂,
        port.readFull_logged_again stage timeout hw passes hread next, ?_, hgiven.trans same,
        purged⟩
      exact List.forall_mem_cons.mpr ⟨trivial, all⟩
    | closed s₁ hread none ends =>
      rw [none, ends]
      exact ⟨[.read want (.ok [])], [], s₁, port.readFull_logged_closed stage timeout hw hread,
        by simp [PortEvent.IsRead], rfl, .left s₁⟩
    | failed e s₁ hread lasts none ends =>
      rw [none, ends, InputEnd.error_failed]
      obtain ⟨purges, s₂, next, purged⟩ := port.readFull_logged_failed stage timeout hw lasts hread
      exact ⟨[.read want (.error e)], purges, s₂, next, by simp [PortEvent.IsRead], rfl, purged⟩

end BytePort.Plays

end PeripheralBridge
