import PeripheralBridge.Proofs.Routing

/-!
# The order of boot

A device is booted class by class, and within a class instance by instance. What is done to its
instances is seen from a registry that leaves a record of it. The record of a boot is the instances
of the registry in the order of their numbers, up to the first that fails, and all of them if none
does. A request finds a handler only on a device that has booted, so it is recorded behind every
instance of its registry.
-/

namespace PeripheralBridge

variable {ω : Type}

structure InstanceId where
  classId : Nat
  index : UInt16
  deriving DecidableEq, Repr

/-- By class, and by index within a class. -/
def InstanceId.Before (i j : InstanceId) : Prop :=
  i.classId < j.classId ∨ i.classId = j.classId ∧ i.index < j.index

inductive InstanceEvent where
  /-- It is brought up, or fails to come up. -/
  | init (i : InstanceId)
  /-- A handler is run for it. -/
  | request (i : InstanceId)
  deriving DecidableEq, Repr

def Handler.watched (classId : Nat) (handler : Handler ω) : Handler (ω × List InstanceEvent) :=
  fun index payload w =>
    let (outcome, world) := handler index payload w.1
    (outcome, world, w.2 ++ [.request ⟨classId, index⟩])

def Peripheral.watched (classId : Nat) (p : Peripheral ω) :
    Peripheral (ω × List InstanceEvent) where
  name := p.name
  instances := p.instances
  init index w :=
    let (answer, world) := p.init index w.1
    (answer, world, w.2 ++ [.init ⟨classId, index⟩])
  controller := p.controller
  functions := p.functions.map (Handler.watched classId)

namespace Peripheral

/-- The instances of a class that has a number. -/
def places (numbered : Peripheral ω × Nat) : List InstanceId :=
  numbered.1.indices.map fun index => ⟨numbered.2, index⟩

theorem mem_indices {p : Peripheral ω} {index : UInt16} :
    index ∈ p.indices ↔ index < p.instances := by
  rw [indices, List.mem_map, UInt16.lt_iff_toNat_lt]
  constructor
  · rintro ⟨n, below, rfl⟩
    have small := p.instances.toNat_lt
    rw [List.mem_range] at below
    rw [UInt16.toNat_ofNat']
    omega
  · intro below
    exact ⟨index.toNat, List.mem_range.mpr below, UInt16.ofNat_toNat⟩

theorem indices_increase (p : Peripheral ω) : p.indices.Pairwise (· < ·) := by
  rw [indices, List.pairwise_map]
  refine List.pairwise_lt_range.imp_of_mem ?_
  intro m n hm hn less
  have small := p.instances.toNat_lt
  rw [List.mem_range] at hm hn
  rw [UInt16.lt_iff_toNat_lt, UInt16.toNat_ofNat', UInt16.toNat_ofNat']
  omega

end Peripheral

namespace Registry

variable {r : Registry ω} {w w₁ w₂ : ω} {wanted before after touched : List InstanceId}
  {result : Except BootError Unit}

def watched (r : Registry ω) : Registry (ω × List InstanceEvent) where
  classes := r.classes.zipIdx.map fun numbered => numbered.1.watched numbered.2
  limits := r.limits

def HasInstance (r : Registry ω) (i : InstanceId) : Prop :=
  ∃ p, r.classes[i.classId]? = some p ∧ i.index < p.instances

/-- All instances, class by class. -/
def order (r : Registry ω) : List InstanceId := r.classes.zipIdx.flatMap Peripheral.places

theorem mem_order_iff {i : InstanceId} : i ∈ r.order ↔ r.HasInstance i := by
  rw [order, List.mem_flatMap]
  constructor
  · rintro ⟨⟨p, n⟩, numbered, placed⟩
    obtain ⟨index, within, rfl⟩ := List.mem_map.mp placed
    exact ⟨p, List.mem_zipIdx_iff_getElem?.mp numbered, Peripheral.mem_indices.mp within⟩
  · rintro ⟨p, found, within⟩
    exact ⟨(p, i.classId), List.mem_zipIdx_iff_getElem?.mpr found,
      List.mem_map.mpr ⟨i.index, Peripheral.mem_indices.mpr within, rfl⟩⟩

theorem order_increases (r : Registry ω) : r.order.Pairwise InstanceId.Before := by
  rw [order, List.pairwise_flatMap]
  constructor
  · rintro ⟨p, n⟩ -
    rw [Peripheral.places, List.pairwise_map]
    exact p.indices_increase.imp fun less => .inr ⟨rfl, less⟩
  · have numbers : r.classes.zipIdx.Pairwise fun a b => a.2 < b.2 := by
      rw [← List.pairwise_map, List.zipIdx_map_snd]
      exact List.pairwise_lt_range'
    refine numbers.imp ?_
    rintro ⟨p, m⟩ ⟨q, n⟩ less i hi j hj
    obtain ⟨_, -, rfl⟩ := List.mem_map.mp hi
    obtain ⟨_, -, rfl⟩ := List.mem_map.mp hj
    exact .inl less

/-- Some instances come up one behind the other, each in the world that the one before has left. -/
inductive ComeUp (r : Registry ω) : List InstanceId → ω → ω → Prop where
  | nil (w : ω) : ComeUp r [] w w
  | cons {i : InstanceId} {rest : List InstanceId} {p : Peripheral ω} {w w₁ w₂ : ω}
      (found : r.classes[i.classId]? = some p) (up : p.init i.index w = (.ok (), w₁))
      (others : ComeUp r rest w₁ w₂) : ComeUp r (i :: rest) w w₂

/-- How some instances are brought up in order: the instances that are touched, what it comes to,
and the world that is left. -/
inductive BringUp (r : Registry ω) (wanted : List InstanceId) (w : ω) :
    List InstanceId → Except BootError Unit → ω → Prop where
  | all {w' : ω} (up : r.ComeUp wanted w w') : BringUp r wanted w wanted (.ok ()) w'
  | stopped {before after : List InstanceId} {i : InstanceId} {p : Peripheral ω}
      {fault : DeviceFault} {w₁ w₂ : ω} (split : wanted = before ++ i :: after)
      (up : r.ComeUp before w w₁) (found : r.classes[i.classId]? = some p)
      (failed : p.init i.index w₁ = (.error fault, w₂)) :
      BringUp r wanted w (before ++ [i]) (.error (.peripheralInit p.name i.index fault)) w₂

theorem ComeUp.append (first : r.ComeUp before w w₁) (second : r.ComeUp after w₁ w₂) :
    r.ComeUp (before ++ after) w w₂ := by
  induction first with
  | nil => exact second
  | cons found up _ ih => exact .cons found up (ih second)

/-- An instance that comes up behind others does so in the world that they have left. -/
theorem ComeUp.init_ok {i : InstanceId} {w₃ : ω} (all : r.ComeUp (before ++ i :: after) w w₃)
    (first : r.ComeUp before w w₁) {p : Peripheral ω} (found : r.classes[i.classId]? = some p) :
    (p.init i.index w₁).1 = .ok () := by
  induction first with
  | nil =>
    cases all with
    | cons found' up _ =>
      cases found.symm.trans found'
      rw [up]
  | cons found₀ up₀ _ ih =>
    cases all with
    | cons found' up others =>
      cases found₀.symm.trans found'
      cases up₀.symm.trans up
      exact ih others

namespace BringUp

/-- Instances that come up in front are touched in front. -/
theorem behind (first : r.ComeUp before w w₁) (second : r.BringUp after w₁ touched result w₂) :
    r.BringUp (before ++ after) w (before ++ touched) result w₂ := by
  cases second with
  | all up => exact .all (first.append up)
  | stopped split up found failed =>
    rw [split, ← List.append_assoc, ← List.append_assoc]
    exact .stopped rfl (first.append up) found failed

/-- Behind a failure nothing is touched. -/
theorem of_error {e : BootError} (h : r.BringUp before w touched (.error e) w₁)
    (after : List InstanceId) : r.BringUp (before ++ after) w touched (.error e) w₁ := by
  cases h with
  | stopped split up found failed =>
    subst split
    rw [List.append_assoc, List.cons_append]
    exact .stopped rfl up found failed

theorem touched_prefix (h : r.BringUp wanted w touched result w₁) : touched <+: wanted := by
  cases h with
  | all => exact List.prefix_rfl
  | stopped split =>
    rw [split]
    exact ⟨_, (List.append_cons _ _ _).symm⟩

/-- It succeeds exactly if every instance comes up. -/
theorem ok_iff (h : r.BringUp wanted w touched result w₁) :
    result = .ok () ↔ ∃ w', r.ComeUp wanted w w' := by
  cases h with
  | all up => exact ⟨fun _ => ⟨_, up⟩, fun _ => rfl⟩
  | stopped split up found failed =>
    constructor
    · rintro ⟨⟩
    · rintro ⟨w', all⟩
      rw [split] at all
      have came := all.init_ok up found
      rw [failed] at came
      cases came

theorem touched_eq (h : r.BringUp wanted w touched (.ok ()) w₁) : touched = wanted := by
  cases h
  rfl

end BringUp

end Registry

namespace Dispatcher

variable {r : Registry ω}

/-- Bringing instances up does so in order, with and without a record, and the record is what is
touched. -/
structure Watches (r : Registry ω) (wanted : List InstanceId) (x : Attempt ω BootError Unit)
    (y : Attempt (ω × List InstanceEvent) BootError Unit) (w : ω) (touched : List InstanceId)
    (result : Except BootError Unit) (w' : ω) : Prop where
  ran : r.BringUp wanted w touched result w'
  plain : x w = (result, w')
  watched : ∀ log, y (w, log) = (result, w', log ++ touched.map .init)

namespace Watches

variable {before after touched more : List InstanceId} {x x' : Attempt ω BootError Unit}
  {y y' : Attempt (ω × List InstanceEvent) BootError Unit} {w w₁ w₂ : ω}
  {result : Except BootError Unit} {e : BootError}

theorem nil (r : Registry ω) (w : ω) : Watches r [] (pure ()) (pure ()) w [] (.ok ()) w where
  ran := .all (.nil w)
  plain := rfl
  watched log := by simp

theorem bind (first : Watches r before x y w touched (.ok ()) w₁)
    (second : Watches r after x' y' w₁ more result w₂) :
    Watches r (before ++ after) (x >>= fun _ => x') (y >>= fun _ => y') w (touched ++ more)
      result w₂ where
  ran := by
    cases first.ran with
    | all up => exact .behind up second.ran
  plain := (Attempt.bind_of_ok first.plain _).trans second.plain
  watched log := by
    rw [Attempt.bind_of_ok (first.watched log), second.watched, List.map_append, List.append_assoc]

theorem bind_error (first : Watches r before x y w touched (.error e) w₁)
    (after : List InstanceId) :
    Watches r (before ++ after) (x >>= fun _ => x') (y >>= fun _ => y') w touched (.error e)
      w₁ where
  ran := first.ran.of_error after
  plain := Attempt.bind_of_error first.plain _
  watched log := Attempt.bind_of_error (first.watched log) _

/-- Steps one behind the other, the second of which is not taken if the first fails. -/
theorem exists_bind (first : ∃ touched result w₁, Watches r before x y w touched result w₁)
    (second : ∀ w₁, ∃ touched result w₂, Watches r after x' y' w₁ touched result w₂) :
    ∃ touched result w₂, Watches r (before ++ after) (x >>= fun _ => x') (y >>= fun _ => y') w
      touched result w₂ := by
  obtain ⟨touched, result, w₁, first⟩ := first
  cases result with
  | error e => exact ⟨_, _, _, first.bind_error after⟩
  | ok _ =>
    obtain ⟨more, result, w₂, second⟩ := second w₁
    exact ⟨_, _, _, first.bind second⟩

end Watches

/-- Bringing up one instance. -/
theorem init_watches {p : Peripheral ω} {n : Nat} (found : r.classes[n]? = some p)
    (index : UInt16) (w : ω) :
    ∃ touched result w', Watches r [⟨n, index⟩]
      ((p.init index).mapError (.peripheralInit p.name index))
      (((p.watched n).init index).mapError (.peripheralInit p.name index)) w touched result w' := by
  rcases came : p.init index w with ⟨answer, w'⟩
  have seen : ∀ log, (p.watched n).init index (w, log) =
      (answer, w', log ++ [.init ⟨n, index⟩]) := by
    intro log
    simp only [Peripheral.watched, came]
  cases answer with
  | error fault =>
    have alone : [(⟨n, index⟩ : InstanceId)] = [] ++ ⟨n, index⟩ :: [] := rfl
    exact ⟨_, _, _, .stopped alone (.nil w) found came, Attempt.mapError_of_error came _,
      fun log => Attempt.mapError_of_error (seen log) _⟩
  | ok _ =>
    exact ⟨_, _, _, .all (.cons found came (.nil w')), Attempt.mapError_of_ok came _,
      fun log => Attempt.mapError_of_ok (seen log) _⟩

theorem initInstances_watches {p : Peripheral ω} {n : Nat} (found : r.classes[n]? = some p)
    (indices : List UInt16) (w : ω) :
    ∃ touched result w', Watches r (indices.map fun index => ⟨n, index⟩)
      (initInstances p indices) (initInstances (p.watched n) indices) w touched result w' := by
  induction indices generalizing w with
  | nil => exact ⟨_, _, _, .nil r w⟩
  | cons index rest ih => exact Watches.exists_bind (init_watches found index w) ih

theorem initClasses_watches (numbered : List (Peripheral ω × Nat))
    (found : ∀ x ∈ numbered, r.classes[x.2]? = some x.1) (w : ω) :
    ∃ touched result w', Watches r (numbered.flatMap Peripheral.places)
      (initClasses (numbered.map Prod.fst))
      (initClasses (numbered.map fun x => x.1.watched x.2)) w touched result w' := by
  induction numbered generalizing w with
  | nil => exact ⟨_, _, _, .nil r w⟩
  | cons x rest ih =>
    have others := ih fun x hx => found x (List.mem_cons_of_mem _ hx)
    exact Watches.exists_bind
      (initInstances_watches (found x List.mem_cons_self) x.1.indices w) others

/-- Booting brings up the instances of the registry in order. -/
theorem initClasses_watched (r : Registry ω) (w : ω) :
    ∃ touched result w', Watches r r.order (initClasses r.classes)
      (initClasses r.watched.classes) w touched result w' := by
  have found : ∀ x ∈ r.classes.zipIdx, r.classes[x.2]? = some x.1 := by
    rintro ⟨p, n⟩ numbered
    exact List.mem_zipIdx_iff_getElem?.mp numbered
  have brought := initClasses_watches r.classes.zipIdx found w
  rwa [List.zipIdx_map_fst] at brought

theorem handler?_watched (r : Registry ω) (a : Address) :
    handler? r.watched a = (handler? r a).map (Handler.watched a.classId.toNat) := by
  simp only [handler?, Registry.get?, Registry.watched, List.getElem?_map, List.getElem?_zipIdx]
  cases r.classes[a.classId.toNat]? with
  | none => rfl
  | some p =>
    by_cases within : a.index < p.instances <;> simp [within, Peripheral.watched]

/-- The instance for which a request runs a handler, if it does. -/
def reached (r : Registry ω) (q : Request) : List InstanceId :=
  if r.Provides q.toAddress then [⟨q.classId.toNat, q.index⟩] else []

/-- The record leaves every response as it is. -/
theorem dispatch_watched (r : Registry ω) (q : Request) (w : ω) (log : List InstanceEvent) :
    (ofRegistry r.watched).dispatch q (w, log) =
      (((ofRegistry r).dispatch q w).1, ((ofRegistry r).dispatch q w).2,
        log ++ (reached r q).map .request) := by
  have place := handler?_watched r q.toAddress
  by_cases provided : r.Provides q.toAddress
  · obtain ⟨handler, handled⟩ := Registry.provides_iff.mp provided
    have found := Registry.handler?_eq_some.mpr handled
    rw [found] at place
    rw [dispatch_of_handler? found, dispatch_of_handler? place, reached, if_pos provided]
    rfl
  · have absent : ¬ r.watched.Provides q.toAddress := by
      rwa [← Registry.provides_iff_handler?, place, Option.isSome_map,
        Registry.provides_iff_handler?]
    rw [dispatch_of_absent provided, dispatch_of_absent absent, reached, if_neg provided,
      List.map_nil, List.append_nil]

theorem dispatchAll_watched (r : Registry ω) (qs : List Request) (w : ω)
    (log : List InstanceEvent) :
    ((ofRegistry r.watched).dispatchAll qs (w, log)).2.2 =
      log ++ (qs.flatMap (reached r)).map .request := by
  induction qs generalizing w log with
  | nil => simp [dispatchAll]
  | cons q qs ih => simp [dispatchAll, dispatch_watched, ih]

def session (r : Registry ω) (qs : List Request) : Attempt ω BootError (List Response) := fun w =>
  match boot r w with
  | (.error e, w) => (.error e, w)
  | (.ok d, w) =>
    let (responses, w) := d.dispatchAll qs w
    (.ok responses, w)

/-- The instances for which the requests of a session run handlers: none if the boot has failed. -/
def asked (r : Registry ω) (qs : List Request) : Except BootError Unit → List InstanceId
  | .ok _ => qs.flatMap (reached r)
  | .error _ => []

/-- How the boot of a registry goes in some world: the instances that are touched, what it comes to,
and the world that it leaves. -/
structure Boots (r : Registry ω) (w : ω) (touched : List InstanceId)
    (result : Except BootError Unit) (w' : ω) : Prop where
  ran : r.BringUp r.order w touched result w'
  plain : boot r w = (result.map fun _ => ofRegistry r, w')
  recorded : ∀ log, boot r.watched (w, log) =
    (result.map fun _ => ofRegistry r.watched, w', log ++ touched.map .init)
  in_order : touched <+: r.order
  succeeds_iff : (∃ d, (boot r w).1 = .ok d) ↔ ∃ w₁, r.ComeUp r.order w w₁
  all_touched : ∀ d, (boot r w).1 = .ok d → touched = r.order
  /-- Whatever is asked of the device is asked behind all that has been touched. -/
  session_recorded : ∀ qs log, (session r.watched qs (w, log)).2.2 =
    log ++ touched.map .init ++ (asked r qs result).map .request

/-- A device boots by the result of bringing up its instances. -/
theorem boot_of_initClasses {s s' : ω} {result : Except BootError Unit}
    (brought : initClasses r.classes s = (result, s')) :
    boot r s = (result.map fun _ => ofRegistry r, s') := by
  cases result with
  | error e => exact Attempt.bind_of_error brought _
  | ok _ => exact Attempt.bind_of_ok brought _

theorem exists_boots (r : Registry ω) (w : ω) :
    ∃ touched result w', Boots r w touched result w' := by
  obtain ⟨touched, result, w', brought⟩ := initClasses_watched r w
  have plain := boot_of_initClasses brought.plain
  have recorded := fun log => boot_of_initClasses (r := r.watched) (brought.watched log)
  have succeeds : (∃ d, (boot r w).1 = .ok d) ↔ result = .ok () := by
    rw [plain]
    cases result <;> simp [Except.map]
  refine ⟨touched, result, w', brought.ran, plain, recorded, brought.ran.touched_prefix,
    succeeds.trans brought.ran.ok_iff, fun d booted => ?_, fun qs log => ?_⟩
  · obtain rfl := succeeds.mp ⟨d, booted⟩
    exact brought.ran.touched_eq
  · rw [session, recorded log]
    cases result with
    | error e => simp [Except.map, asked]
    | ok _ => exact dispatchAll_watched r qs w' _

/-- Whatever its instances do when they are brought up, a registry boots in the order of its
instances: each of them once, by class and by index, and none behind the first that fails. Where
none fails the boot succeeds, and no request is answered before all of them were brought up;
otherwise it fails with the name, the index and the fault of the one that failed. -/
theorem boot_in_order (r : Registry ω) :
    r.order.Pairwise InstanceId.Before ∧ (∀ i, i ∈ r.order ↔ r.HasInstance i) ∧
      ∀ w, ∃ touched result w', Boots r w touched result w' :=
  ⟨r.order_increases, fun _ => Registry.mem_order_iff, exists_boots r⟩

/-- The second instance of a class fails: the class without instances in front of it is passed over,
and the class behind it is left alone. -/
example :
    let bus : Peripheral Nat := {
      name := "can"
      instances := 2
      init := fun i n => if i = 1 then (.error .peripheral, n) else (.ok (), n + 1)
      functions := [] }
    let r : Registry Nat := ⟨[.vacant "gpio", bus, { bus with name := "lin" }], .protocolMinimum⟩
    (boot r.watched (0, [])).1.map (fun _ => ()) = .error (.peripheralInit "can" 1 .peripheral) ∧
      (boot r.watched (0, [])).2 = (1, [.init ⟨1, 0⟩, .init ⟨1, 1⟩]) :=
  ⟨rfl, rfl⟩

end Dispatcher

end PeripheralBridge
