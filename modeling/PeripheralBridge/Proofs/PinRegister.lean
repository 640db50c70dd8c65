import PeripheralBridge.Proofs.RegistryAssembly
import PeripheralBridge.Proofs.SharedDevice
import PeripheralBridge.Simulated.GpioBank

/-!
# The pins as registers

The pins of the demonstration device are one set of registers for everybody who can reach it. The
level that is read from a pin is the one that was last written to it with success, over whichever
link, and low if there was none. What is answered with a fault changes no pin, and no write to a
pin is seen at another.
-/

namespace PeripheralBridge

structure PinCall where
  index : UInt16
  function : UInt16
  payload : Bytes

def PinCall.address (c : PinCall) : Address := ⟨PeripheralClass.gpio.id, c.index, c.function⟩

def PinCall.request (c : PinCall) : Request := ⟨c.address, c.payload⟩

/-- The law of the bank, given the level at which each pin is and the pins themselves: what a call
comes to, and how it leaves the pins. Function zero writes and function one reads. -/
inductive PinLaw (level : UInt16 → UInt8) (pins : Pins) (c : PinCall) :
    Except CallError Bytes → Pins → Prop where
  | read (within : c.index < GpioBank.pinCount) (reads : c.function = 1) (empty : c.payload = []) :
      PinLaw level pins c (.ok [level c.index]) pins
  | written {new : UInt8} (within : c.index < GpioBank.pinCount) (writes : c.function = 0)
      (one : c.payload = [new]) (valid : new ≤ 1) :
      PinLaw level pins c (.ok []) (pins.set c.index.toNat new)
  | tooHigh {new : UInt8} (within : c.index < GpioBank.pinCount) (writes : c.function = 0)
      (one : c.payload = [new]) (invalid : 1 < new) :
      PinLaw level pins c (.error (.device .invalidArgs)) pins
  | misshapenWrite (within : c.index < GpioBank.pinCount) (writes : c.function = 0)
      (misshapen : c.payload.length ≠ 1) :
      PinLaw level pins c (.error (.device .invalidArgsFormat)) pins
  | misshapenRead (within : c.index < GpioBank.pinCount) (reads : c.function = 1)
      (misshapen : c.payload ≠ []) :
      PinLaw level pins c (.error (.device .invalidArgsFormat)) pins
  | absent (outside : GpioBank.pinCount ≤ c.index ∨ 2 ≤ c.function) :
      PinLaw level pins c (.error (.device .notSupported)) pins

namespace GpioBank

/-- The demonstration device, whose whole world is its pins. -/
def demoPlan : RegistryPlan Pins := plan {} id fun pins _ => pins

def levelOf (pins : Pins) (pin : UInt16) : UInt8 := pins[pin.toNat]?.getD 0

theorem write_pinLaw {c : PinCall} (within : c.index < pinCount) (writes : c.function = 0)
    (pins : Pins) :
    PinLaw (levelOf pins) pins c
      (Device.answer minimumPayload (Dispatcher.respond minimumPayload
        (setLevel c.index c.payload pins).1)) (setLevel c.index c.payload pins).2 := by
  rcases hp : c.payload with _ | ⟨new, _ | ⟨more, rest⟩⟩
  · exact .misshapenWrite within writes (by simp [hp])
  · by_cases invalid : 1 < new
    · simp only [setLevel, if_pos invalid]
      exact .tooHigh within writes hp invalid
    · simp only [setLevel, if_neg invalid]
      exact .written within writes hp (UInt8.not_lt.mp invalid)
  · exact .misshapenWrite within writes (by simp [hp])

theorem read_pinLaw {c : PinCall} (within : c.index < pinCount) (reads : c.function = 1)
    (pins : Pins) :
    PinLaw (levelOf pins) pins c
      (Device.answer minimumPayload (Dispatcher.respond minimumPayload
        (getLevel c.index c.payload pins))) pins := by
  rcases hp : c.payload with _ | ⟨b, rest⟩
  · exact .read within reads hp
  · exact .misshapenRead within reads (by simp [hp])

variable {r : Registry Pins} (built : demoPlan.build = .ok r)
include built

theorem bank_registered :
    r.get? PeripheralClass.gpio.id = some (peripheral id fun pins _ => pins) :=
  RegistryPlan.get?_of_build built (c := .gpio) (by decide)

theorem limits_eq : r.limits = .protocolMinimum := (RegistryPlan.metadata_of_build built).1

theorem provides_iff (c : PinCall) :
    r.Provides c.address ↔ c.index < pinCount ∧ c.function.toNat < 2 := by
  constructor
  · rintro ⟨p, found, within, listed⟩
    cases (bank_registered built).symm.trans found
    exact ⟨within, listed⟩
  · rintro ⟨within, listed⟩
    exact ⟨_, bank_registered built, within, listed⟩

theorem handler?_eq {c : PinCall} (within : c.index < pinCount) :
    Dispatcher.handler? r c.address =
      (peripheral id fun pins (_ : Pins) => pins).functions[c.function.toNat]? := by
  have found : r.get? c.address.classId = _ := bank_registered built
  rw [Dispatcher.handler?, found]
  exact if_pos within

/-- A call to the bank keeps its law. -/
theorem dispatch_pinLaw (c : PinCall) (pins : Pins) :
    PinLaw (levelOf pins) pins c
      (Device.answer minimumPayload ((Dispatcher.ofRegistry r).dispatch c.request pins).1)
      ((Dispatcher.ofRegistry r).dispatch c.request pins).2 := by
  by_cases provided : r.Provides c.address
  · obtain ⟨within, listed⟩ := (provides_iff built c).mp provided
    have found := handler?_eq built within
    obtain writes | reads : c.function.toNat = 0 ∨ c.function.toNat = 1 := by omega
    · rw [writes] at found
      rw [Dispatcher.dispatch_of_handler? (q := c.request) found, limits_eq built]
      exact write_pinLaw within (UInt16.toNat_inj.mp writes) pins
    · rw [reads] at found
      rw [Dispatcher.dispatch_of_handler? (q := c.request) found, limits_eq built]
      exact read_pinLaw within (UInt16.toNat_inj.mp reads) pins
  · rw [Dispatcher.dispatch_of_absent provided]
    refine .absent ?_
    rw [provides_iff built, not_and_or, UInt16.not_lt, Nat.not_lt] at provided
    exact provided

end GpioBank

namespace PinLaw

variable {level level' : UInt16 → UInt8} {pins pins' : Pins} {c : PinCall}
  {result : Except CallError Bytes}

/-- Only the levels of pins that there are make a difference. -/
theorem congr (law : PinLaw level pins c result pins')
    (same : ∀ pin, pin < GpioBank.pinCount → level pin = level' pin) :
    PinLaw level' pins c result pins' := by
  cases law with
  | read within reads empty =>
    rw [same c.index within]
    exact .read within reads empty
  | written within writes one valid => exact .written within writes one valid
  | tooHigh within writes one invalid => exact .tooHigh within writes one invalid
  | misshapenWrite within writes misshapen => exact .misshapenWrite within writes misshapen
  | misshapenRead within reads misshapen => exact .misshapenRead within reads misshapen
  | absent outside => exact .absent outside

theorem zero_or_one {new : UInt8} : new ≤ 1 ↔ new = 0 ∨ new = 1 := by
  rw [UInt8.le_iff_toNat_le, ← UInt8.toNat_inj, ← UInt8.toNat_inj]
  change new.toNat ≤ 1 ↔ new.toNat = 0 ∨ new.toNat = 1
  omega

/-- A write succeeds exactly with a pin that there is and a single octet that is a level. -/
theorem write_iff (law : PinLaw level pins c result pins') (writes : c.function = 0) :
    (∃ data, result = .ok data) ↔
      c.index < GpioBank.pinCount ∧ (c.payload = [0] ∨ c.payload = [1]) := by
  cases law with
  | read _ reads _ | misshapenRead _ reads _ =>
    rw [writes] at reads
    cases reads
  | @written new within _ one valid =>
    rw [one, List.cons.injEq, List.cons.injEq]
    exact ⟨fun _ => ⟨within, by simpa using zero_or_one.mp valid⟩, fun _ => ⟨[], rfl⟩⟩
  | @tooHigh new _ _ one invalid =>
    constructor
    · rintro ⟨data, ⟨⟩⟩
    · rintro ⟨-, level⟩
      rw [one, List.cons.injEq, List.cons.injEq] at level
      exact absurd (zero_or_one.mpr (by simpa using level)) (UInt8.not_le.mpr invalid)
  | misshapenWrite _ _ misshapen =>
    constructor
    · rintro ⟨data, ⟨⟩⟩
    · rintro ⟨-, one | one⟩ <;> exact absurd (congrArg List.length one) misshapen
  | absent outside =>
    constructor
    · rintro ⟨data, ⟨⟩⟩
    · rintro ⟨within, -⟩
      rcases outside with beyond | beyond
      · exact absurd within (UInt16.not_lt.mpr beyond)
      · rw [writes] at beyond
        exact absurd beyond (by decide)

/-- Where the caller is told of a failure, no pin has changed. -/
theorem unchanged (law : PinLaw level pins c result pins') (failed : ∀ data, result ≠ .ok data) :
    pins' = pins := by
  cases law with
  | written => exact absurd rfl (failed _)
  | _ => rfl

/-- A call is seen at its own pin only. -/
theorem others (law : PinLaw level pins c result pins') {pin : UInt16} (other : pin ≠ c.index) :
    pins'[pin.toNat]? = pins[pin.toNat]? := by
  cases law with
  | written => exact List.getElem?_set_ne (mt UInt16.toNat_inj.mp other.symm)
  | _ => rfl

theorem length_eq (law : PinLaw level pins c result pins') : pins'.length = pins.length := by
  cases law with
  | written => exact List.length_set
  | _ => rfl

end PinLaw

variable {ι : Type}

/-- A call to the bank over some link, what it came to, and the pins before and after it. -/
structure PinEntry (ι : Type) where
  via : ι
  call : PinCall
  result : Except CallError Bytes
  before : Pins
  after : Pins

namespace PinEntry

variable {past : List (PinEntry ι)} {x : PinEntry ι} {level : UInt16 → UInt8}

/-- The level that was written to a pin with success. -/
def written? (pin : UInt16) (x : PinEntry ι) : Option UInt8 :=
  match x.result, x.call.payload with
  | .ok _, [new] => if x.call.function = 0 ∧ x.call.index = pin then some new else none
  | _, _ => none

/-- The level that was last written to a pin, low if there was none. -/
def lastLevel (past : List (PinEntry ι)) (pin : UInt16) : UInt8 :=
  (past.filterMap (written? pin)).getLast?.getD 0

theorem lastLevel_concat (past : List (PinEntry ι)) (x : PinEntry ι) (pin : UInt16) :
    lastLevel (past ++ [x]) pin = (x.written? pin).getD (lastLevel past pin) := by
  rw [lastLevel, List.filterMap_append]
  cases h : x.written? pin with
  | none => simp [h, lastLevel]
  | some new => simp [h]

/-- Every pin is at the level that was last written to it. -/
structure Recorded (past : List (PinEntry ι)) (pins : Pins) : Prop where
  count : pins.length = GpioBank.pinCount.toNat
  level : ∀ pin, pin < GpioBank.pinCount → pins[pin.toNat]? = some (lastLevel past pin)

theorem recorded_initial : Recorded ([] : List (PinEntry ι)) GpioBank.initial where
  count := rfl
  level pin within := by
    rw [GpioBank.initial, List.getElem?_replicate, if_pos (UInt16.lt_iff_toNat_lt.mp within)]
    rfl

theorem Recorded.levelOf {pins : Pins} (recorded : Recorded past pins) {pin : UInt16}
    (within : pin < GpioBank.pinCount) : GpioBank.levelOf pins pin = lastLevel past pin := by
  rw [GpioBank.levelOf, recorded.level pin within, Option.getD_some]

/-- A call leaves a pin at the level it has written there with success, or as it was. -/
theorem level_after (law : PinLaw level x.before x.call x.result x.after) {pin : UInt16}
    (there : pin.toNat < x.before.length) :
    x.after[pin.toNat]? = some ((x.written? pin).getD (GpioBank.levelOf x.before pin)) := by
  obtain ⟨via, c, result, before, after⟩ := x
  change PinLaw level before c result after at law
  have kept : before[pin.toNat]? = some (GpioBank.levelOf before pin) := by
    rw [GpioBank.levelOf, List.getElem?_eq_getElem there, Option.getD_some]
  cases law with
  | @written new within writes one valid =>
    rcases eq_or_ne c.index pin with rfl | other
    · simp only [written?, one, writes, and_self, if_true, Option.getD_some]
      exact List.getElem?_set_self there
    · simp only [written?, one, writes, other, and_false, if_false, Option.getD_none]
      exact (List.getElem?_set_ne (mt UInt16.toNat_inj.mp other)).trans kept
  | read within reads empty => simpa [written?, empty] using kept
  | tooHigh | misshapenWrite | misshapenRead | absent => simpa [written?] using kept

theorem Recorded.step (recorded : Recorded past x.before)
    (law : PinLaw level x.before x.call x.result x.after) : Recorded (past ++ [x]) x.after where
  count := law.length_eq.trans recorded.count
  level pin within := by
    have there : pin.toNat < x.before.length := recorded.count ▸ UInt16.lt_iff_toNat_lt.mp within
    rw [level_after law there, lastLevel_concat, recorded.levelOf within]

/-- An entry keeps the law of the bank, given the entries before it. -/
structure Lawful (past : List (PinEntry ι)) (x : PinEntry ι) : Prop where
  law : PinLaw (lastLevel past) x.before x.call x.result x.after
  before : Recorded past x.before
  after : Recorded (past ++ [x]) x.after
  write_iff : x.call.function = 0 → ((∃ data, x.result = .ok data) ↔
    x.call.index < GpioBank.pinCount ∧ (x.call.payload = [0] ∨ x.call.payload = [1]))
  unchanged : (∀ data, x.result ≠ .ok data) → x.after = x.before
  others : ∀ pin, pin ≠ x.call.index → x.after[pin.toNat]? = x.before[pin.toNat]?

theorem Recorded.lawful (recorded : Recorded past x.before)
    (law : PinLaw (GpioBank.levelOf x.before) x.before x.call x.result x.after) :
    Lawful past x where
  law := law.congr fun _ within => recorded.levelOf within
  before := recorded
  after := recorded.step law
  write_iff := law.write_iff
  unchanged := law.unchanged
  others _ := law.others

end PinEntry

namespace Hub

variable [DecidableEq ι]

/-- Call the bank over one link after the other. -/
def callBank : List (ι × PinCall) → Hub ι Pins → List (PinEntry ι) × Hub ι Pins
  | [], h => ([], h)
  | (via, c) :: rest, h =>
    let (result, left) := h.call via c.address c.payload
    let (entries, last) := callBank rest left
    (⟨via, c, result, h.world, left.world⟩ :: entries, last)

variable {calls : List (ι × PinCall)} {h : Hub ι Pins}

/-- Every call is made once, in order. -/
theorem callBank_calls (calls : List (ι × PinCall)) (h : Hub ι Pins) :
    (callBank calls h).1.map (fun x => (x.via, x.call)) = calls := by
  induction calls generalizing h with
  | nil => rfl
  | cons c rest ih => exact congrArg (c :: ·) (ih _)

theorem fits_of_short {payload : Bytes} (short : payload.length ≤ minimumPayload) :
    Fits .protocolMinimum {} payload where
  sendable := short
  declarable := Nat.le_trans short (by decide)
  accepted := short
  queued := Nat.add_le_add_left short requestHeaderSize

variable {r : Registry Pins} (built : GpioBank.demoPlan.build = .ok r)
include built

/-- One call over any of the links keeps the law of the bank, and leaves the links ready. -/
theorem Ready.callBank_lawful {past : List (PinEntry ι)}
    (ready : h.Ready (.ofRegistry r) {} .protocolMinimum)
    (recorded : PinEntry.Recorded past h.world) (c : PinCall)
    (short : c.payload.length ≤ minimumPayload) (via : ι) :
    ∃ result left, h.call via c.address c.payload = (result, left) ∧
      left.Ready (.ofRegistry r) {} .protocolMinimum ∧
      PinEntry.Lawful past ⟨via, c, result, h.world, left.world⟩ := by
  obtain ⟨left, came, world, next⟩ := ready.call (GpioBank.limits_eq built)
    (by decide) (fits_of_short short) via c.address
  refine ⟨_, left, came, next, recorded.lawful ?_⟩
  rw [world]
  exact GpioBank.dispatch_pinLaw built c h.world

theorem lawful_of_callBank {past : List (PinEntry ι)}
    (ready : h.Ready (.ofRegistry r) {} .protocolMinimum)
    (recorded : PinEntry.Recorded past h.world)
    (short : ∀ c ∈ calls, c.2.payload.length ≤ minimumPayload) {done later : List (PinEntry ι)}
    {x : PinEntry ι} (made : (callBank calls h).1 = done ++ x :: later) :
    PinEntry.Lawful (past ++ done) x := by
  -- With each call its entry moves from what is still to be made into the past.
  induction calls generalizing past h done with
  | nil => exact absurd made (by simp [callBank])
  | cons call rest ih =>
    obtain ⟨via, c⟩ := call
    obtain ⟨result, left, came, next, lawful⟩ := ready.callBank_lawful built recorded c
      (short _ List.mem_cons_self) via
    simp only [callBank, came] at made
    cases done with
    | nil =>
      rw [List.append_nil]
      cases made
      exact lawful
    | cons first done =>
      rw [List.cons_append, List.cons.injEq] at made
      obtain ⟨rfl, made⟩ := made
      have lawful' := ih next lawful.after
        (fun c member => short c (List.mem_cons_of_mem _ member)) made
      rwa [List.append_assoc] at lawful'

end Hub

/-- The demonstration device boots, and over any number of links that were opened to it every call
to its bank keeps the law, whichever links the calls before it were made over: a pin is read at the
level that was last written to it with success. -/
theorem pins_are_registers : ∃ r d, GpioBank.demoPlan.build = .ok r ∧
    Dispatcher.boot r GpioBank.initial = (.ok d, GpioBank.initial) ∧
    ∀ (ι : Type) [DecidableEq ι] (ends : ι → HostEnd Pins),
      (∀ i, HostEnd.Fresh d {} GpioBank.initial (ends i)) →
      ∀ calls : List (ι × PinCall), (∀ c ∈ calls, c.2.payload.length ≤ 512) →
        ((Hub.callBank calls ⟨GpioBank.initial, ends⟩).1.map fun x => (x.via, x.call)) = calls ∧
        ∀ past x later, (Hub.callBank calls ⟨GpioBank.initial, ends⟩).1 = past ++ x :: later →
          PinEntry.Lawful past x := by
  obtain ⟨r, built, booted⟩ : ∃ r, GpioBank.demoPlan.build = .ok r ∧
      Dispatcher.boot r GpioBank.initial = (.ok (.ofRegistry r), GpioBank.initial) := ⟨_, rfl, rfl⟩
  refine ⟨r, _, built, booted, fun ι _ ends fresh calls short => ⟨Hub.callBank_calls calls _, ?_⟩⟩
  intro past x later made
  have ready : Hub.Ready (.ofRegistry r) {} .protocolMinimum ⟨GpioBank.initial, ends⟩ :=
    fun i => ⟨_, (fresh i).idle⟩
  exact Hub.lawful_of_callBank built ready PinEntry.recorded_initial short made

/-- A level that was written over packets is read over a byte stream. -/
theorem pins_are_registers_across : ∃ (ends : Bool → HostEnd Pins) (x y : PinEntry Bool),
    (∃ l, ends true = .inl l) ∧ (∃ l, ends false = .inr l) ∧
    (Hub.callBank [(true, ⟨3, 0, [1]⟩), (false, ⟨3, 1, []⟩)] ⟨GpioBank.initial, ends⟩).1 = [x, y] ∧
    y.result = .ok [1] := by
  obtain ⟨r, d, -, -, registers⟩ := pins_are_registers
  let ends : Bool → HostEnd Pins
    | true => .inl (.onPipe UsbLink.benchPipe ⟨{ packetSize := 64 }, d, {}, GpioBank.initial, []⟩)
    | false => .inr ⟨⟨UartLink.ofCapacity 520, d, {}, GpioBank.initial, []⟩, {}⟩
  have fresh : ∀ i, HostEnd.Fresh d {} GpioBank.initial (ends i)
    | true => .usb (by decide) _
    | false => .uart rfl
  obtain ⟨made, lawful⟩ := registers Bool ends fresh
    [(true, ⟨3, 0, [1]⟩), (false, ⟨3, 1, []⟩)] (by simp)
  generalize hlog : (Hub.callBank [(true, _), (false, _)] _).1 = log at made lawful
  obtain ⟨x, rest, rfl, hx, hrest⟩ := List.map_eq_cons_iff.mp made
  obtain ⟨y, rest, rfl, hy, hnil⟩ := List.map_eq_cons_iff.mp hrest
  obtain rfl := List.map_eq_nil_iff.mp hnil
  refine ⟨ends, x, y, ⟨_, rfl⟩, ⟨_, rfl⟩, hlog, ?_⟩
  obtain ⟨via, c, result, before, after⟩ := x
  obtain ⟨via', c', result', before', after'⟩ := y
  cases hx
  cases hy
  obtain ⟨data, rfl⟩ := ((lawful [] _ _ rfl).write_iff rfl).mpr
    ⟨(by decide : (3 : UInt16) < GpioBank.pinCount), .inr rfl⟩
  have read : PinLaw _ before' ⟨3, 1, []⟩ result' after' := (lawful [_] _ [] rfl).law
  cases read with
  | read => rfl
  | written _ writes | tooHigh _ writes | misshapenWrite _ writes => cases writes
  | misshapenRead _ _ misshapen => exact absurd rfl misshapen
  | absent outside => exact absurd outside (by decide)

end PeripheralBridge
