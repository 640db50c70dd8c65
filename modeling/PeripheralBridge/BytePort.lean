import PeripheralBridge.Attempt
import PeripheralBridge.Bytes
import PeripheralBridge.Duration
import PeripheralBridge.IoFailure

/-!
# Byte ports

A sink takes octets, perhaps only some of those offered; a port is a sink that can be
read as well. Steps may be interrupted and are then repeated, and a port is interrupted
only finitely often, which bounds the repetitions.
-/

namespace PeripheralBridge

structure ByteSink (σ : Type) where
  /-- Offer octets; the result says how many were taken. -/
  write : Bytes → Attempt σ IoFailure Nat
  flush : Attempt σ IoFailure Unit
  /-- A bound on the interruptions to come. -/
  interruptions : σ → Nat
  write_interrupted : ∀ data s s' e,
    write data s = (.error e, s') → e.Transient → interruptions s' < interruptions s

/-- An ordered stream of octets in both directions, such as a UART. -/
structure BytePort (σ : Type) extends ByteSink σ where
  setTimeout : Duration → Attempt σ IoFailure Unit
  /-- Wait for input, at most the given number of octets; none at the end of input. -/
  read : Nat → Attempt σ IoFailure Bytes
  /-- Discard input that has arrived and not been read. -/
  purge : Attempt σ IoFailure Unit
  read_interrupted : ∀ count s s' e,
    read count s = (.error e, s') → e.Transient → interruptions s' < interruptions s

/-- Write everything, in as many steps as the sink takes. -/
def ByteSink.writeAll {σ : Type} (sink : ByteSink σ) (data : Bytes) (s : σ) :
    Except IoFailure Unit × σ :=
  if _hd : data = [] then (.ok (), s)
  else
    match _h : sink.write data s with
    | (.ok 0, s') => (.error .wroteNothing, s')
    | (.ok (n + 1), s') => writeAll sink (data.drop (n + 1)) s'
    | (.error e, s') => if _ht : e.Transient then writeAll sink data s' else (.error e, s')
termination_by (data.length, sink.interruptions s)
decreasing_by
  · apply Prod.Lex.left
    have : data.length ≠ 0 := fun hz => _hd (List.length_eq_zero_iff.mp hz)
    simp only [List.length_drop]
    omega
  · exact Prod.Lex.right _ (sink.write_interrupted _ _ _ _ _h _ht)

@[simp] theorem ByteSink.writeAll_nil {σ : Type} (sink : ByteSink σ) (s : σ) :
    sink.writeAll [] s = (.ok (), s) := by
  rw [writeAll, dif_pos rfl]

/-- One step of writing everything. -/
theorem ByteSink.writeAll_of_ne_nil {σ : Type} (sink : ByteSink σ) {data : Bytes}
    (hd : data ≠ []) (s : σ) :
    sink.writeAll data s = match sink.write data s with
      | (.ok 0, s') => (.error .wroteNothing, s')
      | (.ok (n + 1), s') => sink.writeAll (data.drop (n + 1)) s'
      | (.error e, s') => if e.Transient then sink.writeAll data s' else (.error e, s') := by
  rw [writeAll, dif_neg hd]
  split <;> rename_i h <;> simp only [h, dite_eq_ite]

/-- One step is enough for a sink that takes everything. -/
theorem ByteSink.writeAll_of_whole {σ : Type} {sink : ByteSink σ} {data : Bytes} {s s' : σ}
    (hd : data ≠ []) (whole : sink.write data s = (.ok data.length, s')) :
    sink.writeAll data s = (.ok (), s') := by
  obtain ⟨n, hn⟩ := Nat.exists_eq_succ_of_ne_zero (mt List.length_eq_zero_iff.mp hd)
  rw [writeAll_of_ne_nil sink hd, whole, hn]
  simp only [List.drop_eq_nil_of_le (Nat.le_of_eq hn), writeAll_nil]

end PeripheralBridge
