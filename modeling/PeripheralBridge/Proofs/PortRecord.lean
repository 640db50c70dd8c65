import PeripheralBridge.Link.Stream

/-!
# What an exchange asks of a port

A recorded port answers as the port does and keeps what it was asked, with each answer. An
attempt on a port is logged when the same attempt on the recorded port has the same result,
leaves the port in the same state and adds some events to the record. Whatever the port
does, a message that went out is what the port took, octet by octet.
-/

namespace PeripheralBridge

inductive PortEvent where
  | write (data : Bytes) (answer : Except IoFailure Nat)
  | flush (answer : Except IoFailure Unit)
  | read (count : Nat) (answer : Except IoFailure Bytes)
  | purge (answer : Except IoFailure Unit)

namespace PortEvent

def IsWrite : PortEvent → Prop
  | write _ _ => True
  | _ => False

def IsRead : PortEvent → Prop
  | read _ _ => True
  | _ => False

def taken : PortEvent → Bytes
  | write data (.ok count) => data.take count
  | _ => []

def given : PortEvent → Bytes
  | read _ (.ok data) => data
  | _ => []

end PortEvent

variable {σ ε δ α β : Type}

def BytePort.recorded (port : BytePort σ) : BytePort (σ × List PortEvent) where
  write data s := ((port.write data s.1).1, (port.write data s.1).2,
    s.2 ++ [.write data (port.write data s.1).1])
  flush s := ((port.flush s.1).1, (port.flush s.1).2, s.2 ++ [.flush (port.flush s.1).1])
  interruptions s := port.interruptions s.1
  write_interrupted data s s' e h := by
    injection h with he hs
    rw [← hs]
    exact port.write_interrupted data s.1 _ e (Prod.ext he rfl)
  setTimeout timeout s := ((port.setTimeout timeout s.1).1, (port.setTimeout timeout s.1).2, s.2)
  read count s := ((port.read count s.1).1, (port.read count s.1).2,
    s.2 ++ [.read count (port.read count s.1).1])
  purge s := ((port.purge s.1).1, (port.purge s.1).2, s.2 ++ [.purge (port.purge s.1).1])
  read_interrupted count s s' e h := by
    injection h with he hs
    rw [← hs]
    exact port.read_interrupted count s.1 _ e (Prod.ext he rfl)

/-- An attempt has some result, with and without a record, and the record of it is `events`. -/
structure Logged (x : Attempt σ ε α) (y : Attempt (σ × List PortEvent) ε α) (s : σ)
    (events : List PortEvent) (r : Except ε α) (s' : σ) : Prop where
  plain : x s = (r, s')
  logged : ∀ log, y (s, log) = (r, s', log ++ events)

namespace Logged

variable {x : Attempt σ ε α} {y : Attempt (σ × List PortEvent) ε α}
  {f : α → Attempt σ ε β} {g : α → Attempt (σ × List PortEvent) ε β} {s s₁ s₂ : σ}
  {events more : List PortEvent} {a : α} {e : ε} {r : Except ε β}

theorem bind (first : Logged x y s events (.ok a) s₁) (next : Logged (f a) (g a) s₁ more r s₂) :
    Logged (x >>= f) (y >>= g) s (events ++ more) r s₂ where
  plain := (Attempt.bind_of_ok first.plain f).trans next.plain
  logged log := by
    rw [Attempt.bind_of_ok (first.logged log), next.logged, List.append_assoc]

theorem bind_error (first : Logged x y s events (.error e) s₁) :
    Logged (x >>= f) (y >>= g) s events (.error e) s₁ where
  plain := Attempt.bind_of_error first.plain f
  logged log := Attempt.bind_of_error (first.logged log) g

theorem mapError_ok (first : Logged x y s events (.ok a) s₁) (rename : ε → δ) :
    Logged (x.mapError rename) (y.mapError rename) s events (.ok a) s₁ where
  plain := Attempt.mapError_of_ok first.plain rename
  logged log := Attempt.mapError_of_ok (first.logged log) rename

/-- A result that needs no port asks nothing of it. -/
theorem of_except (r : Except ε α) (s : σ) :
    Logged (Attempt.ofExcept r) (Attempt.ofExcept r) s [] r s where
  plain := rfl
  logged log := by rw [Attempt.ofExcept_apply, List.append_nil]

theorem pure (a : α) (s : σ) :
    Logged (Pure.pure a : Attempt σ ε α) (Pure.pure a) s [] (.ok a) s :=
  of_except (.ok a) s

/-- A port is purged, whatever comes of the purge. -/
theorem purged (port : BytePort σ) (r : Except ε α) (s : σ) :
    Logged (fun s => (r, (port.purge s).2)) (fun s => (r, (port.recorded.purge s).2)) s
      [.purge (port.purge s).1] r (port.purge s).2 :=
  ⟨rfl, fun _ => rfl⟩

/-- An attempt that goes on as another does after an event. -/
theorem goes_on {x' : Attempt σ ε α} {y' : Attempt (σ × List PortEvent) ε α} {r : Except ε α}
    {event : PortEvent} (plain : x s = x' s₁)
    (logged : ∀ log, y (s, log) = y' (s₁, log ++ [event]))
    (next : Logged x' y' s₁ events r s₂) : Logged x y s (event :: events) r s₂ where
  plain := plain.trans next.plain
  logged log := by rw [logged, next.logged, List.append_assoc, List.singleton_append]

end Logged

namespace BytePort

variable (port : BytePort σ)

theorem recorded_write {data : Bytes} {s s' : σ} {answer : Except IoFailure Nat}
    (h : port.write data s = (answer, s')) (log : List PortEvent) :
    port.recorded.write data (s, log) = (answer, s', log ++ [.write data answer]) := by
  simp only [recorded, h]

theorem recorded_read {count : Nat} {s s' : σ} {answer : Except IoFailure Bytes}
    (h : port.read count s = (answer, s')) (log : List PortEvent) :
    port.recorded.read count (s, log) = (answer, s', log ++ [.read count answer]) := by
  simp only [recorded, h]

theorem recorded_purge (s : σ) (log : List PortEvent) :
    port.recorded.purge (s, log) =
      ((port.purge s).1, (port.purge s).2, log ++ [.purge (port.purge s).1]) := rfl

theorem flush_logged {s s' : σ} {answer : Except IoFailure Unit}
    (h : port.flush s = (answer, s')) :
    Logged port.flush port.recorded.flush s [.flush answer] answer s' where
  plain := h
  logged log := by simp only [recorded, h]

end BytePort

/-- Writing everything is logged, and what it writes is what the sink takes. -/
theorem BytePort.writeAll_logged (port : BytePort σ) (data : Bytes) (s : σ) :
    ∃ events r s', Logged (port.writeAll data) (port.recorded.writeAll data) s events r s' ∧
      (∀ e ∈ events, e.IsWrite) ∧ (r = .ok () → events.flatMap PortEvent.taken = data) := by
  induction data, s using ByteSink.writeAll.induct port.toByteSink with
  | case1 s =>
    refine ⟨[], .ok (), s, ⟨?_, fun log => ?_⟩, by simp, by simp⟩
    · exact ByteSink.writeAll_nil _ s
    · rw [ByteSink.writeAll_nil, List.append_nil]
  | case2 data s hd s' hw =>
    refine ⟨[.write data (.ok 0)], .error .wroteNothing, s', ⟨?_, fun log => ?_⟩,
      by simp [PortEvent.IsWrite], by simp⟩
    · rw [ByteSink.writeAll_of_ne_nil _ hd, hw]
    · rw [ByteSink.writeAll_of_ne_nil _ hd, port.recorded_write hw]
  | case3 data s hd n s' hw ih =>
    obtain ⟨events, r, s₂, next, writes, whole⟩ := ih
    refine ⟨.write data (.ok (n + 1)) :: events, r, s₂, .goes_on ?_ (fun log => ?_) next, ?_, ?_⟩
    · rw [ByteSink.writeAll_of_ne_nil _ hd, hw]
    · rw [ByteSink.writeAll_of_ne_nil _ hd, port.recorded_write hw]
    · exact List.forall_mem_cons.mpr ⟨trivial, writes⟩
    · intro done
      rw [List.flatMap_cons, whole done, PortEvent.taken, List.take_append_drop]
  | case4 data s hd e s' hw ht ih =>
    obtain ⟨events, r, s₂, next, writes, whole⟩ := ih
    refine ⟨.write data (.error e) :: events, r, s₂, .goes_on ?_ (fun log => ?_) next, ?_, ?_⟩
    · rw [ByteSink.writeAll_of_ne_nil _ hd, hw]
      exact if_pos ht
    · rw [ByteSink.writeAll_of_ne_nil _ hd, port.recorded_write hw]
      exact if_pos ht
    · exact List.forall_mem_cons.mpr ⟨trivial, writes⟩
    · intro done
      rw [List.flatMap_cons, whole done]
      rfl
  | case5 data s hd e s' hw ht =>
    refine ⟨[.write data (.error e)], .error e, s', ⟨?_, fun log => ?_⟩,
      by simp [PortEvent.IsWrite], by simp⟩
    · rw [ByteSink.writeAll_of_ne_nil _ hd, hw]
      exact if_neg ht
    · rw [ByteSink.writeAll_of_ne_nil _ hd, port.recorded_write hw]
      exact if_neg ht

/-- A message that went out has been taken by the port, and the port was flushed behind it. -/
theorem StreamLink.send_logged {port : BytePort σ} {timeout : Duration} {message : Bytes}
    {s s' : σ} (sent : send port timeout message s = (.ok (), s')) :
    ∃ writes, Logged (send port timeout message) (send port.recorded timeout message) s
        (writes ++ [.flush (.ok ())]) (.ok ()) s' ∧
      (∀ e ∈ writes, e.IsWrite) ∧ writes.flatMap PortEvent.taken = message := by
  obtain ⟨writes, r, s₁, written, hwrites, whole⟩ := port.writeAll_logged message s
  cases r with
  | error e =>
    have failed := Attempt.mapError_of_error
      (Attempt.bind_of_error written.plain fun _ => port.flush) (LinkError.ofIo .request timeout)
    have h := sent.symm.trans failed
    simp at h
  | ok _ =>
    rcases hf : port.flush s₁ with ⟨answer, s₂⟩
    have flushed := port.flush_logged hf
    cases answer with
    | error e =>
      have failed := Attempt.mapError_of_error
        ((Attempt.bind_of_ok written.plain fun _ => port.flush).trans flushed.plain)
        (LinkError.ofIo .request timeout)
      have h := sent.symm.trans failed
      simp at h
    | ok _ =>
      have both := (written.bind (f := fun _ => port.flush) (g := fun _ => port.recorded.flush)
        flushed).mapError_ok (LinkError.ofIo .request timeout)
      have h := sent.symm.trans both.plain
      simp only [Prod.mk.injEq, true_and] at h
      rw [h]
      exact ⟨writes, both, hwrites, whole rfl⟩

end PeripheralBridge
