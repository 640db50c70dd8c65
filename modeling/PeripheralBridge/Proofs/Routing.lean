import PeripheralBridge.Proofs.LockSharing
import PeripheralBridge.Proofs.Turns

/-!
# Dispatch is routing

A request runs the handler at its address, once, on the instance and the payload it names, and it
is answered by what the handler came to. Where there is no such handler, nothing runs. What runs is
seen from a registry whose handlers leave a record of each run: it is answered by the same
responses, from the same worlds, and the record grows by the runs of the requests that have an
address.
-/

namespace PeripheralBridge

variable {ω : Type} {r : Registry ω} {q : Request} {w w' : ω}

/-- One run of a handler: its place in the tables of a registry, and what it was called with. -/
structure Invocation where
  classId : Nat
  function : Nat
  index : UInt16
  payload : Bytes
  deriving DecidableEq, Repr

def Request.invocation (q : Request) : Invocation :=
  ⟨q.classId.toNat, q.function.toNat, q.index, q.payload⟩

def Handler.recorded (classId function : Nat) (handler : Handler ω) :
    Handler (ω × List Invocation) :=
  fun index payload w =>
    let (outcome, world) := handler index payload w.1
    (outcome, world, w.2 ++ [⟨classId, function, index, payload⟩])

def Peripheral.recorded (classId : Nat) (p : Peripheral ω) :
    Peripheral (ω × List Invocation) where
  name := p.name
  instances := p.instances
  init index := (p.init index).onPart Prod.fst fun world w => (world, w.2)
  controller := p.controller
  functions := p.functions.mapIdx (Handler.recorded classId)

namespace Registry

def recorded (r : Registry ω) : Registry (ω × List Invocation) where
  classes := r.classes.mapIdx Peripheral.recorded
  limits := r.limits

/-- Such an address exists: its class is registered, and has the instance and the function. -/
def Provides (r : Registry ω) (a : Address) : Prop :=
  ∃ p, r.get? a.classId = some p ∧ a.index < p.instances ∧ a.function.toNat < p.functions.length

/-- The handler of a function, for an instance that its class has. -/
def HandledBy (r : Registry ω) (a : Address) (handler : Handler ω) : Prop :=
  ∃ p, r.get? a.classId = some p ∧ a.index < p.instances ∧
    p.functions[a.function.toNat]? = some handler

theorem handler?_eq_some {a : Address} {handler : Handler ω} :
    Dispatcher.handler? r a = some handler ↔ r.HandledBy a handler := by
  rw [Dispatcher.handler?, HandledBy]
  cases r.get? a.classId with
  | none => simp
  | some p => by_cases within : a.index < p.instances <;> simp [within]

theorem provides_iff {a : Address} : r.Provides a ↔ ∃ handler, r.HandledBy a handler := by
  constructor
  · rintro ⟨p, found, within, listed⟩
    exact ⟨_, p, found, within, List.getElem?_eq_getElem listed⟩
  · rintro ⟨handler, p, found, within, listed⟩
    exact ⟨p, found, within, (List.getElem?_eq_some_iff.mp listed).1⟩

theorem provides_iff_handler? {a : Address} :
    (Dispatcher.handler? r a).isSome = true ↔ r.Provides a := by
  simp only [Option.isSome_iff_exists, provides_iff, handler?_eq_some]

instance (r : Registry ω) (a : Address) : Decidable (r.Provides a) :=
  decidable_of_iff _ provides_iff_handler?

/-- The record leaves every handler in its place. -/
theorem handler?_recorded (r : Registry ω) (a : Address) :
    Dispatcher.handler? r.recorded a =
      (Dispatcher.handler? r a).map (Handler.recorded a.classId.toNat a.function.toNat) := by
  simp only [Dispatcher.handler?, get?, recorded, List.getElem?_mapIdx]
  cases r.classes[a.classId.toNat]? with
  | none => rfl
  | some p =>
    by_cases within : a.index < p.instances <;>
      simp [within, Peripheral.recorded, List.getElem?_mapIdx]

/-- The runs that a request asks for. -/
def runs (r : Registry ω) (q : Request) : List Invocation :=
  if r.Provides q.toAddress then [q.invocation] else []

end Registry

namespace Dispatcher

/-- A request without a handler changes nothing. -/
theorem dispatch_of_absent (absent : ¬ r.Provides q.toAddress) (w : ω) :
    (ofRegistry r).dispatch q w = (.ofFault .notSupported, w) := by
  have none : handler? r q.toAddress = none := by
    rwa [← Registry.provides_iff_handler?, Option.not_isSome_iff_eq_none] at absent
  rw [dispatch]
  simp only [ofRegistry, none]

/-- Recording the handlers leaves the responses and the worlds as they are, and records the runs
that the request asks for. -/
theorem dispatch_recorded (r : Registry ω) (q : Request) (w : ω) (log : List Invocation) :
    (ofRegistry r.recorded).dispatch q (w, log) =
      (((ofRegistry r).dispatch q w).1, ((ofRegistry r).dispatch q w).2, log ++ r.runs q) := by
  have place := Registry.handler?_recorded r q.toAddress
  by_cases provided : r.Provides q.toAddress
  · obtain ⟨handler, handled⟩ := Registry.provides_iff.mp provided
    have found := Registry.handler?_eq_some.mpr handled
    rw [found] at place
    rw [dispatch_of_handler? found, dispatch_of_handler? place, Registry.runs, if_pos provided]
    rfl
  · have absent : ¬ r.recorded.Provides q.toAddress := by
      rwa [← Registry.provides_iff_handler?, place, Option.isSome_map,
        Registry.provides_iff_handler?]
    rw [dispatch_of_absent provided, dispatch_of_absent absent, Registry.runs, if_neg provided,
      List.append_nil]

end Dispatcher

/-- A handler runs exactly when the request has the address of one, and then once. -/
theorem Registry.runs_ne_nil_iff : r.runs q ≠ [] ↔ r.Provides q.toAddress := by
  rw [Registry.runs]
  split <;> simp [*]

namespace Dispatcher

/-- The responses to some requests, each dispatched in the world that the one before has left. -/
def dispatchAll (d : Dispatcher ω) : List Request → ω → List Response × ω
  | [], w => ([], w)
  | q :: rest, w =>
    let (response, w) := d.dispatch q w
    let (responses, w) := d.dispatchAll rest w
    (response :: responses, w)

/-- Over a whole session the handlers that run are those the requests have the addresses of, in
their order, whatever the handlers do to the world. -/
theorem dispatchAll_recorded (r : Registry ω) (qs : List Request) (w : ω) (log : List Invocation) :
    (ofRegistry r.recorded).dispatchAll qs (w, log) =
      (((ofRegistry r).dispatchAll qs w).1, ((ofRegistry r).dispatchAll qs w).2,
        log ++ (qs.filter fun q => r.Provides q.toAddress).map Request.invocation) := by
  induction qs generalizing w log with
  | nil => simp [dispatchAll]
  | cons q qs ih =>
    simp only [dispatchAll, dispatch_recorded, ih]
    by_cases provided : r.Provides q.toAddress <;> simp [Registry.runs, provided]

end Dispatcher

end PeripheralBridge
