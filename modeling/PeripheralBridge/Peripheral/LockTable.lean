import PeripheralBridge.Peripheral.Registry
import Std.Data.HashMap

/-!
# Locks

Requests to one physical controller must not overlap. Every instance is given a lock,
and two instances are given the same one exactly when they name the same controller.
-/

namespace PeripheralBridge

structure LockTable where
  /-- For each class, the lock of each instance. -/
  slots : List (List Nat)
  /-- How many locks there are. -/
  size : Nat
  deriving DecidableEq, Repr

namespace LockTable

/-- The locks given out so far. -/
structure Issued where
  size : Nat := 0
  /-- The locks of controllers that have been met. -/
  known : Std.HashMap ControllerId Nat := ∅

namespace Issued

/-- The lock under which a controller is known, or else this one from now on. -/
def knownOr (c : ControllerId) (fresh : Nat) (t : Issued) : Nat × Issued :=
  match t.known[c]? with
  | some lock => (lock, t)
  | none => (fresh, { t with known := t.known.insert c fresh })

/-- The lock of an instance: the next one, unless its controller has been met. -/
def forInstance (t : Issued) (x : Option ControllerId) : Nat × Issued :=
  let fresh := t.size
  let (lock, t) := match x with
    | some c => t.knownOr c fresh
    | none => (fresh, t)
  if lock = fresh then (lock, { t with size := t.size + 1 }) else (lock, t)

def forAll (t : Issued) : List (Option ControllerId) → List Nat × Issued
  | [] => ([], t)
  | i :: rest =>
    let (lock, t) := t.forInstance i
    let (locks, t) := t.forAll rest
    (lock :: locks, t)

def forClasses (t : Issued) : List (List (Option ControllerId)) → List (List Nat) × Issued
  | [] => ([], t)
  | c :: rest =>
    let (locks, t) := t.forAll c
    let (slots, t) := t.forClasses rest
    (locks :: slots, t)

end Issued

def controllers {ω : Type} (r : Registry ω) : List (List (Option ControllerId)) :=
  r.classes.map fun p => p.indices.map p.controller

def build {ω : Type} (r : Registry ω) : LockTable :=
  let (slots, issued) := Issued.forClasses {} (controllers r)
  ⟨slots, issued.size⟩

/-- The lock of an instance, none where there is no such instance. -/
def slot? (t : LockTable) (classId index : UInt16) : Option Nat :=
  t.slots[classId.toNat]? >>= fun locks => locks[index.toNat]?

end LockTable

end PeripheralBridge
