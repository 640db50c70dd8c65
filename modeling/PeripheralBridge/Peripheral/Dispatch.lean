import PeripheralBridge.Message.Basic
import PeripheralBridge.Peripheral.LockTable

/-!
# Boot and dispatch

Booting brings up every instance of every class, in order, and stops at the first that
fails. A dispatcher then finds the handler a request addresses, runs it, and turns its
outcome into a response. No handler runs for an address that does not exist.
-/

namespace PeripheralBridge

structure Dispatcher (ω : Type) where
  registry : Registry ω
  locks : LockTable

namespace Dispatcher

variable {ω : Type}

def ofRegistry (r : Registry ω) : Dispatcher ω := ⟨r, .build r⟩

def initInstances (p : Peripheral ω) : List UInt16 → Attempt ω BootError Unit
  | [] => pure ()
  | i :: rest => do
    (p.init i).mapError (.peripheralInit p.name i)
    initInstances p rest

def initClasses : List (Peripheral ω) → Attempt ω BootError Unit
  | [] => pure ()
  | p :: rest => do
    initInstances p p.indices
    initClasses rest

def boot (r : Registry ω) : Attempt ω BootError (Dispatcher ω) := do
  initClasses r.classes
  return ofRegistry r

def handler? (r : Registry ω) (a : Address) : Option (Handler ω) :=
  match r.get? a.classId with
  | none => none
  | some p => if a.index < p.instances then p.functions[a.function.toNat]? else none

/-- The response to a request whose handler came to an outcome. A result that is too
long to be sent is a failure of the peripheral, and a failure sends nothing else. -/
def respond (limit : Nat) (o : Outcome) : Response :=
  match o.ending with
  | .finished =>
    if limit < o.written.length then .ofFault .peripheral else .success o.written
  | .failed fault => .ofFault fault
  | .crashed => .ofFault .peripheral

def dispatch (d : Dispatcher ω) (r : Request) (w : ω) : Response × ω :=
  match handler? d.registry r.toAddress with
  | none => (.ofFault .notSupported, w)
  | some handler =>
    match d.locks.slot? r.classId r.index with
    | none => (.ofFault .notSupported, w)
    | some _ =>
      let (outcome, w) := handler r.index r.payload w
      (respond d.registry.limits.response outcome, w)

end Dispatcher

end PeripheralBridge
