import PeripheralBridge.Proofs.Routing
import PeripheralBridge.Proofs.SelfDescription

/-!
# Assembling a registry

A plan is changed in any order and any number of times, and then built. It fails exactly if
something was ever placed in the metadata class. Otherwise the last change to a thing is the one
that counts, and every class has a place at its number. The instance counts that the metadata
class tells are put together apart from the classes themselves, and yet a request reaches an
instance exactly if its number is below the count that is told for its class.
-/

namespace PeripheralBridge

variable {ω α : Type} {r : Registry ω}

inductive PlanChange (ω : Type) where
  | limits (limits : PayloadLimits)
  /-- Something is to answer the application's own metadata function. -/
  | custom (handler : Handler ω)
  | place (c : PeripheralClass) (peripheral : Peripheral ω)

namespace PlanChange

def limits? : PlanChange ω → Option PayloadLimits
  | limits l => some l
  | _ => none

def custom? : PlanChange ω → Option (Handler ω)
  | custom handler => some handler
  | _ => none

def placed? (c : PeripheralClass) : PlanChange ω → Option (Peripheral ω)
  | place d peripheral => if d = c then some peripheral else none
  | _ => none

/-- The last thing of a kind that some changes set. -/
def last (f : PlanChange ω → Option α) (changes : List (PlanChange ω)) : Option α :=
  (changes.filterMap f).getLast?

theorem last_cons (f : PlanChange ω → Option α) (x : PlanChange ω)
    (changes : List (PlanChange ω)) : last f (x :: changes) = (last f changes).or (f x) := by
  cases h : f x with
  | none => simp [last, h]
  | some a => simp [last, h, List.getLast?_cons]

def lastLimits (changes : List (PlanChange ω)) : PayloadLimits :=
  (last limits? changes).getD .protocolMinimum

/-- The peripheral that some changes leave in a class, with no instances if none was placed. -/
def occupant (changes : List (PlanChange ω)) (c : PeripheralClass) : Peripheral ω :=
  (last (placed? c) changes).getD (.vacant c.name)

end PlanChange

namespace RegistryPlan

def change (p : RegistryPlan ω) : PlanChange ω → RegistryPlan ω
  | .limits limits => p.withLimits limits
  | .custom handler => p.withCustom handler
  | .place c peripheral => p.place c peripheral

def changeAll (p : RegistryPlan ω) (changes : List (PlanChange ω)) : RegistryPlan ω :=
  changes.foldl change p

variable {p : RegistryPlan ω} {changes : List (PlanChange ω)}

/-- What is placed changes nothing but the classes. -/
theorem place_keeps (c : PeripheralClass) (peripheral : Peripheral ω) (p : RegistryPlan ω) :
    (p.place c peripheral).serial = p.serial ∧ (p.place c peripheral).limits = p.limits ∧
      (p.place c peripheral).custom = p.custom := by
  rw [place]
  split <;> exact ⟨rfl, rfl, rfl⟩

/-- What every change sets or leaves alone is in the end what was set last. -/
theorem changeAll_last {f : PlanChange ω → Option α} (part : RegistryPlan ω → Option α)
    (sets : ∀ p x, part (change p x) = (f x).or (part p)) (p : RegistryPlan ω)
    (changes : List (PlanChange ω)) :
    part (p.changeAll changes) = (PlanChange.last f changes).or (part p) := by
  -- The first change makes the plan that the others fall back on.
  induction changes generalizing p with
  | nil => rfl
  | cons x changes ih =>
    calc part (p.changeAll (x :: changes))
        = (PlanChange.last f changes).or (part (p.change x)) := ih (p.change x)
      _ = (PlanChange.last f (x :: changes)).or (part p) := by
        rw [sets, PlanChange.last_cons, Option.or_assoc]

theorem limits_changeAll :
    (p.changeAll changes).limits = (PlanChange.last PlanChange.limits? changes).getD p.limits := by
  have sets : ∀ (p : RegistryPlan ω) x,
      some (p.change x).limits = x.limits?.or (some p.limits) := by
    intro p x
    cases x with
    | limits l => rfl
    | custom handler => rfl
    | place c peripheral => exact congrArg some (place_keeps c peripheral p).2.1
  have := changeAll_last (fun p => some p.limits) sets p changes
  rwa [Option.or_some, Option.some.injEq] at this

theorem custom_changeAll :
    (p.changeAll changes).custom = (PlanChange.last PlanChange.custom? changes).or p.custom := by
  refine changeAll_last RegistryPlan.custom (fun p x => ?_) p changes
  cases x with
  | limits l => rfl
  | custom handler => rfl
  | place c peripheral => exact (place_keeps c peripheral p).2.2

theorem slots_changeAll {c : PeripheralClass} (other : c ≠ .metadata) :
    (p.changeAll changes).slots c =
      (PlanChange.last (PlanChange.placed? c) changes).or (p.slots c) := by
  refine changeAll_last (fun p => p.slots c) (fun p x => ?_) p changes
  cases x with
  | limits l => rfl
  | custom handler => rfl
  | place d peripheral =>
    simp only [change, place, PlanChange.placed?]
    rcases eq_or_ne d c with rfl | different
    · simp [other]
    · rw [if_neg different]
      split
      · rfl
      · simp [different.symm]

theorem serial_changeAll : (p.changeAll changes).serial = p.serial := by
  induction changes generalizing p with
  | nil => rfl
  | cons x changes ih =>
    refine ih.trans ?_
    cases x with
    | limits l => rfl
    | custom handler => rfl
    | place c peripheral => exact (place_keeps c peripheral p).1

/-- Once something was placed in the metadata class, no later change takes it back. -/
theorem reservedPlaced_changeAll : (p.changeAll changes).reservedPlaced = true ↔
    p.reservedPlaced = true ∨ ∃ peripheral, .place .metadata peripheral ∈ changes := by
  induction changes generalizing p with
  | nil => simp [changeAll]
  | cons x changes ih =>
    refine ih.trans ?_
    cases x with
    | limits l => simp [change, withLimits]
    | custom handler => simp [change, withCustom]
    | place c peripheral =>
      rw [change, place]
      split
      · rename_i reserved
        simp [reserved]
      · rename_i other
        simp [Ne.symm other]

end RegistryPlan

namespace Registry

/-- What some changes to a plan make of a registry. -/
structure Assembled (serial : String) (changes : List (PlanChange ω)) (r : Registry ω) :
    Prop where
  count : r.classes.length = 10
  limits_eq : r.limits = PlanChange.lastLimits changes
  /-- The metadata class is given the counts of all classes, its own one in front. -/
  metadata : r.get? PeripheralClass.metadata.id = some
    (Metadata.peripheral serial (PlanChange.lastLimits changes) (r.classes.map (·.instances))
      (PlanChange.last PlanChange.custom? changes))
  single : (r.get? PeripheralClass.metadata.id).map (·.instances) = some 1
  others : ∀ c, c ≠ .metadata → r.get? c.id = some (PlanChange.occupant changes c)
  vacant : ∀ c, c ≠ .metadata → PlanChange.last (PlanChange.placed? c) changes = none →
    (r.get? c.id).map (·.instances) = some 0

end Registry

namespace RegistryPlan

variable {p : RegistryPlan ω}

/-- What is built has the counts of all its classes in the first of them. -/
theorem classes_of_build (built : p.build = .ok r) :
    r.classes = Metadata.peripheral p.serial p.limits (r.classes.map (·.instances)) p.custom ::
      (PeripheralClass.all.drop 1).map p.occupant := by
  rw [build] at built
  split at built
  · cases built
  · cases built
    rfl

theorem get?_of_build (built : p.build = .ok r) {c : PeripheralClass} (other : c ≠ .metadata) :
    r.get? c.id = some (p.occupant c) := by
  rw [Registry.get?, classes_of_build built]
  cases c with
  | metadata => exact absurd rfl other
  | _ => rfl

theorem build_of_not_reserved (unreserved : p.reservedPlaced = false) :
    ∃ r, p.build = .ok r :=
  ⟨_, if_neg (Bool.eq_false_iff.mp unreserved)⟩

variable {serial : String} {changes : List (PlanChange ω)}

theorem occupant_changeAll {c : PeripheralClass} (other : c ≠ .metadata) :
    ((ofSerial serial).changeAll changes).occupant c = PlanChange.occupant changes c := by
  have nothing : (ofSerial serial : RegistryPlan ω).slots c = none := rfl
  rw [occupant, slots_changeAll other, nothing, Option.or_none]
  rfl

theorem assembled_of_build (built : ((ofSerial serial).changeAll changes).build = .ok r) :
    r.Assembled serial changes := by
  have hlimits : ((ofSerial serial).changeAll changes).limits = PlanChange.lastLimits changes :=
    limits_changeAll
  have hcustom : ((ofSerial serial).changeAll changes).custom =
      PlanChange.last PlanChange.custom? changes :=
    custom_changeAll.trans Option.or_none
  have hclasses := classes_of_build built
  rw [serial_changeAll, hlimits, hcustom] at hclasses
  have first := congrArg (·[0]?) hclasses
  have others : ∀ c, c ≠ .metadata → r.get? c.id = some (PlanChange.occupant changes c) :=
    fun c other => (get?_of_build built other).trans (congrArg some (occupant_changeAll other))
  refine ⟨congrArg List.length hclasses, (metadata_of_build built).1.trans hlimits, first,
    congrArg (Option.map _) first, others, fun c other unset => ?_⟩
  rw [others c other, PlanChange.occupant, unset]
  rfl

end RegistryPlan

theorem wordBytes_inj {v w : UInt16} (h : wordBytes v = wordBytes w) : v = w := by
  simp only [wordBytes, List.cons.injEq, and_true] at h
  rw [← word_wordBytes v, ← word_wordBytes w, h.1, h.2]

theorem Metadata.countAnswer_wordBytes (counts : List UInt16) (c : UInt16) :
    countAnswer counts (wordBytes c) =
      counts[c.toNat]?.elim (.fail .notSupported) fun count => .reply (wordBytes count) := by
  rw [wordBytes, countAnswer, word_wordBytes]
  cases counts[c.toNat]? <;> rfl

namespace Registry

def Defines (r : Registry ω) (classId function : UInt16) : Prop :=
  ∃ p, r.get? classId = some p ∧ function.toNat < p.functions.length

/-- A request runs the handler at its address, and nothing else. -/
def Reaches (r : Registry ω) (q : Request) : Prop :=
  ∀ w log, ((Dispatcher.ofRegistry r.recorded).dispatch q (w, log)).2.2 = log ++ [q.invocation]

/-- A request is refused, and nothing runs for it. -/
def Refuses (r : Registry ω) (q : Request) : Prop :=
  ∀ w log, (Dispatcher.ofRegistry r.recorded).dispatch q (w, log) =
    (.ofFault .notSupported, w, log)

/-- The answer to the question how many instances a class has. -/
def countTold (r : Registry ω) (classId : UInt16) (w : ω) : Response × ω :=
  (Dispatcher.ofRegistry r).dispatch (MetadataFunction.instanceCount.request (wordBytes classId)) w

/-- The counts that are told are those by which requests are refused. -/
structure TellsCounts (r : Registry ω) : Prop where
  told : ∀ c : UInt16, c.toNat < 10 →
    ∃ p, r.get? c = some p ∧ ∀ w, r.countTold c w = (.success (wordBytes p.instances), w)
  untold : ∀ c : UInt16, 10 ≤ c.toNat → ∀ w, r.countTold c w = (.ofFault .notSupported, w)
  reaches_iff : ∀ q count w, r.Defines q.classId q.function →
    (r.countTold q.classId w).1 = .success (wordBytes count) →
      (r.Reaches q ↔ q.index < count) ∧ (¬ q.index < count → r.Refuses q)

theorem provides_iff_lt_instances {p : Peripheral ω} {q : Request}
    (found : r.get? q.classId = some p) (defined : r.Defines q.classId q.function) :
    r.Provides q.toAddress ↔ q.index < p.instances := by
  obtain ⟨p', found', listed⟩ := defined
  obtain rfl : p = p' := Option.some.inj (found.symm.trans found')
  constructor
  · rintro ⟨p', found', within, -⟩
    obtain rfl : p = p' := Option.some.inj (found.symm.trans found')
    exact within
  · exact fun within => ⟨p, found, within, listed⟩

/-- Only a request with an address is recorded. The world is there to record it in. -/
theorem reaches_iff_provides {q : Request} (w : ω) : r.Reaches q ↔ r.Provides q.toAddress := by
  constructor
  · intro reached
    have ran := reached w []
    rw [Dispatcher.dispatch_recorded] at ran
    refine runs_ne_nil_iff.mp fun none => ?_
    simp [none] at ran
  · intro provided w log
    rw [Dispatcher.dispatch_recorded, runs, if_pos provided]

theorem refuses_of_not_provides {q : Request} (absent : ¬ r.Provides q.toAddress) :
    r.Refuses q := by
  intro w log
  rw [Dispatcher.dispatch_recorded, runs, if_neg absent, Dispatcher.dispatch_of_absent absent,
    List.append_nil]

namespace Assembled

variable {serial : String} {changes : List (PlanChange ω)}

theorem countTold_eq (h : r.Assembled serial changes) (c : UInt16) (w : ω) :
    r.countTold c w = (Dispatcher.respond r.limits.response
      (Metadata.countAnswer (r.classes.map (·.instances)) (wordBytes c)), w) := by
  have found : Dispatcher.handler? r
      (MetadataFunction.instanceCount.request (wordBytes c)).toAddress =
        some (Metadata.answering (Metadata.countAnswer (r.classes.map (·.instances)))) := by
    rw [Dispatcher.handler?, MetadataFunction.request, h.metadata]
    rfl
  exact Dispatcher.dispatch_of_handler? found w

theorem countTold_of_get? (h : r.Assembled serial changes) (short : 2 ≤ r.limits.response)
    {c : UInt16} {p : Peripheral ω} (found : r.get? c = some p) (w : ω) :
    r.countTold c w = (.success (wordBytes p.instances), w) := by
  have listed : (r.classes.map (·.instances))[c.toNat]? = some p.instances := by
    rw [List.getElem?_map]
    exact congrArg (Option.map _) found
  rw [h.countTold_eq, Metadata.countAnswer_wordBytes, listed]
  exact congrArg (·, w) (Dispatcher.respond_reply_of_le short)

theorem countTold_of_absent (h : r.Assembled serial changes) {c : UInt16} (beyond : 10 ≤ c.toNat)
    (w : ω) : r.countTold c w = (.ofFault .notSupported, w) := by
  have unlisted : (r.classes.map (·.instances))[c.toNat]? = none := by
    rw [List.getElem?_eq_none_iff, List.length_map, h.count]
    exact beyond
  rw [h.countTold_eq, Metadata.countAnswer_wordBytes, unlisted]
  rfl

theorem get?_of_lt (h : r.Assembled serial changes) {c : UInt16} (below : c.toNat < 10) :
    ∃ p, r.get? c = some p :=
  ⟨_, List.getElem?_eq_getElem (h.count.symm ▸ below)⟩

theorem tellsCounts (h : r.Assembled serial changes) (short : 2 ≤ r.limits.response) :
    r.TellsCounts where
  told c below := by
    obtain ⟨p, found⟩ := h.get?_of_lt below
    exact ⟨p, found, h.countTold_of_get? short found⟩
  untold c beyond := h.countTold_of_absent beyond
  reaches_iff q count w defined told := by
    obtain ⟨p, found, -⟩ := id defined
    rw [h.countTold_of_get? short found, Response.success, Response.success,
      Response.mk.injEq] at told
    obtain rfl : p.instances = count := wordBytes_inj told.2
    have provided := provides_iff_lt_instances found defined
    exact ⟨(reaches_iff_provides w).trans provided,
      fun beyond => refuses_of_not_provides (mt provided.mp beyond)⟩

end Assembled

end Registry

/-- However a plan was changed, it fails exactly if something was ever placed in the metadata
class. Otherwise it makes a registry in which the last change to each thing is in force, and which
tells for each class the count that decides which requests reach an instance. -/
theorem registry_assembled (serial : String) (changes : List (PlanChange ω)) :
    (((RegistryPlan.ofSerial serial).changeAll changes).build = .error (.reservedClass 0) ↔
      ∃ peripheral, .place .metadata peripheral ∈ changes) ∧
    ((∀ peripheral, .place .metadata peripheral ∉ changes) →
      ∃ r, ((RegistryPlan.ofSerial serial).changeAll changes).build = .ok r ∧
        r.Assembled serial changes ∧ (2 ≤ r.limits.response → r.TellsCounts)) := by
  have reserved : ((RegistryPlan.ofSerial serial).changeAll changes).reservedPlaced = true ↔
      ∃ peripheral, .place .metadata peripheral ∈ changes :=
    RegistryPlan.reservedPlaced_changeAll.trans (or_iff_right Bool.false_ne_true)
  refine ⟨⟨fun failed => ?_, fun placed => ?_⟩, fun free => ?_⟩
  · by_contra none
    obtain ⟨r, built⟩ := RegistryPlan.build_of_not_reserved
      (Bool.eq_false_iff.mpr (mt reserved.mp none))
    rw [built] at failed
    cases failed
  · exact if_pos (reserved.mpr placed)
  · obtain ⟨r, built⟩ := RegistryPlan.build_of_not_reserved
      (Bool.eq_false_iff.mpr fun set => (reserved.mp set).elim free)
    have assembled := RegistryPlan.assembled_of_build built
    exact ⟨r, built, assembled, assembled.tellsCounts⟩

/-- The second of two placements counts, and so do the limits set last. -/
theorem registry_assembled_replaced :
    ∃ r : Registry Unit, r.limits = ⟨512, 2⟩ ∧
      (r.get? 3).map (·.instances) = some 7 ∧ r.countTold 3 () = (.success (wordBytes 7), ()) ∧
      r.countTold 10 () = (.ofFault .notSupported, ()) := by
  have assembled := (registry_assembled (ω := Unit) "sn"
    [.place .gpio { name := "gpio", instances := 4, functions := [] }, .limits ⟨9, 9⟩,
      .place .gpio { name := "pins", instances := 7, functions := [] }, .limits ⟨512, 2⟩]).2
    (by simp)
  obtain ⟨r, -, made, tells⟩ := assembled
  have hlimits : r.limits = ⟨512, 2⟩ := made.limits_eq
  obtain ⟨told, untold, -⟩ := tells (by rw [hlimits])
  have placed := made.others .gpio (by decide)
  refine ⟨r, hlimits, congrArg (Option.map _) placed, ?_, untold 10 (by decide) ()⟩
  obtain ⟨p, found, answer⟩ := told 3 (by decide)
  obtain rfl := Option.some.inj (placed.symm.trans found)
  exact answer ()

end PeripheralBridge
