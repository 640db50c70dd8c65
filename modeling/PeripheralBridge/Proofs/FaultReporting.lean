import PeripheralBridge.Proofs.Routing
import PeripheralBridge.Proofs.Transparency

/-!
# What a caller learns of a fault

A handler that fails is answered for with the code of its fault. On a link that delivers the octets
of requests and responses intact, the caller is told that code, and nothing else of the fault. The
code of a success says that there was none: a fault that carries it reaches the caller as an empty
success.
-/

namespace PeripheralBridge

variable {ω σ : Type}

namespace DeviceFault

/-- The only fault whose code is that of a success is the one without a name. -/
theorem code_eq_successCode_iff {fault : DeviceFault} :
    fault.code = successCode ↔ fault = .unknown successCode := by
  cases fault <;> simp [code, successCode]

end DeviceFault

namespace Device

/-- A response that reports a fault makes a call fail with its code, unless it is the code of a
success. -/
theorem answer_ofFault (limit : Nat) (fault : DeviceFault) :
    answer limit (.ofFault fault) =
      if fault.code = 0 then .ok [] else .error (.device (.told fault.code)) := by
  have fits : ¬ limit < (Response.ofFault fault).payload.length := Nat.not_lt_zero limit
  rw [answer, Response.within, if_neg fits]
  rfl

end Device

/-- The link carries the octets of a request to a device and the octets of its response back: what
the device reads them as is dispatched, and what the host reads them as is what the exchange comes
to. -/
def Link.Delivers (link : Link σ) (d : Dispatcher ω) (limit : Nat) (q : Request) (s : σ)
    (w : ω) : Prop :=
  ∀ received octets, Request.decode q.octets limit = .ok received →
    (d.dispatch received w).1.encode = .ok octets →
    (link.exchange ⟨q.toAddress, UInt16.ofNat q.payload.length⟩ q.payload s).1 =
      (Response.decode octets (link.limits s).response).mapError .malformed

section Delivered

variable {link : Link σ} {d : Dispatcher ω} {limit : Nat} {q : Request} {s : σ} {w : ω}
  (declarable : q.payload.length ≤ declarableMax) (taken : q.payload.length ≤ limit)
  (fits : q.payload.length ≤ (link.limits s).request) (delivers : link.Delivers d limit q s w)
include declarable taken fits delivers

/-- A call over such a link comes to what the device has answered. -/
theorem Device.call_of_delivers (short : (d.dispatch q w).1.payload.length ≤ declarableMax) :
    (Device.call link q.toAddress q.payload s).1 =
      Device.answer (link.limits s).response (d.dispatch q w).1 := by
  have received : Request.decode q.octets limit = .ok q := by
    rw [Request.decode_octets declarable, Request.within, if_neg (Nat.not_lt.mpr taken)]
  have exchanged := delivers q _ received (Response.encode_octets short)
  rw [Response.decode_octets short] at exchanged
  rw [Device.call_of_response fits declarable (Prod.ext exchanged rfl)]

/-- The call of a request whose handler fails comes to what its fault is read back as. -/
theorem Device.call_of_failed {r : Registry ω} (serves : d = .ofRegistry r) {handler : Handler ω}
    {written : Bytes} {fault : DeviceFault} {w' : ω} (handled : r.HandledBy q.toAddress handler)
    (failed : handler q.index q.payload w = (⟨written, .failed fault⟩, w')) :
    (Device.call link q.toAddress q.payload s).1 =
      Device.answer (link.limits s).response (.ofFault fault) := by
  have dispatched : (d.dispatch q w).1 = .ofFault fault := by
    rw [serves, Dispatcher.dispatch_of_handler? (Registry.handler?_eq_some.mpr handled), failed]
    rfl
  rw [← dispatched]
  exact Device.call_of_delivers declarable taken fits delivers
    (by rw [dispatched]; exact Nat.zero_le _)

end Delivered

/-- What a link hands on of a response that it takes for what it is, it has delivered. -/
theorem Link.delivers_of_within {link : Link σ} {d : Dispatcher ω} {limit : Nat} {q : Request}
    {s : σ} {w : ω} (declarable : q.payload.length ≤ declarableMax)
    (exchanged : q.payload.length ≤ limit →
      (link.exchange ⟨q.toAddress, UInt16.ofNat q.payload.length⟩ q.payload s).1 =
        ((d.dispatch q w).1.within (link.limits s).response).mapError .malformed) :
    link.Delivers d limit q s w := by
  intro received octets decoded encoded
  rw [Request.decode_octets declarable, Request.within] at decoded
  split at decoded
  · cases decoded
  rename_i taken
  cases decoded
  rcases Nat.lt_or_ge declarableMax (d.dispatch q w).1.payload.length with long | short
  · rw [Response.encode_of_lt long] at encoded
    cases encoded
  · rw [Response.encode_octets short] at encoded
    cases encoded
    rw [Response.decode_octets short]
    exact exchanged (Nat.le_of_not_lt taken)

section Simulated

variable {d : Dispatcher ω} (config : DeviceConfig) {host : LinkConfig} {q : Request} {w : ω}
  (same : d.registry.limits = config.limits) (small : config.limits.response ≤ declarableMax)
  (declarable : q.payload.length ≤ declarableMax)
include same small declarable

/-- A simulated packet link delivers every call that begins with the link idle. -/
theorem UsbLink.delivers_of_idle {size : Nat} (hs : 0 < size)
    {x : PacketLink (Bench UsbLink ω)} (idle : Idle size d config host w x) :
    (PacketLink.link benchPipe).Delivers d config.limits.request q x w := by
  refine Link.delivers_of_within declarable fun taken => ?_
  obtain ⟨x', exchanged, _⟩ :=
    exchange_idle hs same small q.toAddress q.payload w x idle declarable
  rw [Passage.exchange_of_admitted (decide_eq_true taken)] at exchanged
  have limits : (PacketLink.link benchPipe).limits x = host.limits := by cases idle; rfl
  exact limits ▸ congrArg Prod.fst exchanged

/-- So does a simulated byte stream, where the request fits into the receive queue. -/
theorem UartLink.delivers_of_idle (roomy : requestHeaderSize + q.payload.length ≤
    config.queueCapacity) {x : StreamLink (Bench UartLink ω)} (idle : Idle d config host w x) :
    (StreamLink.link benchPort).Delivers d config.limits.request q x w := by
  refine Link.delivers_of_within declarable fun taken => ?_
  obtain ⟨x', exchanged, _⟩ := exchange_idle same small q.toAddress q.payload w x idle declarable
  rw [Passage.exchange_of_admitted (decide_eq_true ⟨taken, roomy⟩)] at exchanged
  have limits : (StreamLink.link benchPort).limits x = host.limits := by cases idle; rfl
  exact limits ▸ congrArg Prod.fst exchanged

end Simulated

/-- Whatever a handler fails with, on any link that delivers its request and the response the caller
is told the code of the fault, unless the fault carries the code of a success. That one is told as
an empty success, and it is the only failure that is. -/
theorem fault_reported_iff {link : Link σ} {r : Registry ω} {limit : Nat} {q : Request} {s : σ}
    {w w' : ω} {handler : Handler ω} {written : Bytes} {fault : DeviceFault}
    (handled : r.HandledBy q.toAddress handler)
    (failed : handler q.index q.payload w = (⟨written, .failed fault⟩, w'))
    (declarable : q.payload.length ≤ declarableMax) (taken : q.payload.length ≤ limit)
    (fits : q.payload.length ≤ (link.limits s).request)
    (delivers : link.Delivers (.ofRegistry r) limit q s w) :
    ((∃ e, (Device.call link q.toAddress q.payload s).1 = .error e ∧
        e.statusCode? = some fault.code) ↔ fault ≠ .unknown successCode) ∧
    ((∃ payload, (Device.call link q.toAddress q.payload s).1 = .ok payload) ↔
      fault = .unknown successCode) ∧
    (fault = .unknown successCode → (Device.call link q.toAddress q.payload s).1 = .ok []) := by
  have called := Device.call_of_failed declarable taken fits delivers rfl handled failed
  rw [Device.answer_ofFault] at called
  by_cases silent : fault = .unknown successCode
  · have zero : fault.code = 0 := DeviceFault.code_eq_successCode_iff.mpr silent
    rw [if_pos zero] at called
    simp [called, silent]
  · have nonzero : fault.code ≠ 0 := mt DeviceFault.code_eq_successCode_iff.mp silent
    rw [if_neg nonzero] at called
    simp [called, silent, CallError.statusCode?, DeviceFault.code_told nonzero]

/-- A device with one function of its own, which fails in the same way each time, after it has
written. -/
def failing (fault : DeviceFault) : Registry Unit :=
  ((RegistryPlan.ofSerial "failing").place .can {
    name := "failing"
    instances := 1
    functions := [fun _ _ w => (⟨[1, 2], .failed fault⟩, w)] }).assemble

def failingAddress : Address := ⟨PeripheralClass.can.id, 0, 0⟩

/-- Such a device on a packet link. -/
def failingUsb (fault : DeviceFault) : PacketLink (Bench UsbLink Unit) :=
  .onPipe UsbLink.benchPipe ⟨{ packetSize := 64 }, .ofRegistry (failing fault), {}, (), []⟩

/-- Such a device on a byte stream. -/
def failingUart (fault : DeviceFault) : StreamLink (Bench UartLink Unit) :=
  ⟨⟨UartLink.ofCapacity 520, .ofRegistry (failing fault), {}, (), []⟩, {}⟩

theorem failing_handledBy (fault : DeviceFault) :
    (failing fault).HandledBy failingAddress fun _ _ w => (⟨[1, 2], .failed fault⟩, w) :=
  ⟨_, rfl, (by decide : (0 : UInt16) < 1), rfl⟩

theorem failingUsb_delivers (fault : DeviceFault) :
    (PacketLink.link UsbLink.benchPipe).Delivers (.ofRegistry (failing fault)) 512
      ⟨failingAddress, [7]⟩ (failingUsb fault) () :=
  UsbLink.delivers_of_idle {} rfl (by decide) (by decide) (by decide)
    (.intro (fun _ => rfl) (by simp))

theorem failingUart_delivers (fault : DeviceFault) :
    (StreamLink.link UartLink.benchPort).Delivers (.ofRegistry (failing fault)) 512
      ⟨failingAddress, [7]⟩ (failingUart fault) () :=
  UartLink.delivers_of_idle {} rfl (by decide) (by decide) (by decide)
    (.intro (by simp))

/-- A device that is occupied says so on either link. -/
theorem fault_reported_iff_busy :
    (∃ e, (Device.call (PacketLink.link UsbLink.benchPipe) failingAddress [7]
      (failingUsb .busy)).1 = .error e ∧ e.statusCode? = some 6) ∧
    ∃ e, (Device.call (StreamLink.link UartLink.benchPort) failingAddress [7]
      (failingUart .busy)).1 = .error e ∧ e.statusCode? = some 6 :=
  ⟨(fault_reported_iff (q := ⟨failingAddress, [7]⟩) (failing_handledBy .busy) rfl (by decide)
      (by decide : 1 ≤ 512) (by decide) (failingUsb_delivers .busy)).1.mpr (by decide),
    (fault_reported_iff (q := ⟨failingAddress, [7]⟩) (failing_handledBy .busy) rfl (by decide)
      (by decide : 1 ≤ 512) (by decide) (failingUart_delivers .busy)).1.mpr (by decide)⟩

/-- A handler that fails with a fault of code zero is told as a success, on either link. -/
theorem failure_told_as_success :
    ((failing (.unknown 0)).HandledBy failingAddress
      fun _ _ w => (⟨[1, 2], .failed (.unknown 0)⟩, w)) ∧
    (Device.call (PacketLink.link UsbLink.benchPipe) failingAddress [7]
      (failingUsb (.unknown 0))).1 = .ok [] ∧
    (Device.call (StreamLink.link UartLink.benchPort) failingAddress [7]
      (failingUart (.unknown 0))).1 = .ok [] :=
  have handled := failing_handledBy (.unknown 0)
  ⟨handled,
    Device.call_of_failed (q := ⟨failingAddress, [7]⟩) (by decide) (by decide : 1 ≤ 512) (by decide)
      (failingUsb_delivers _) rfl handled rfl,
    Device.call_of_failed (q := ⟨failingAddress, [7]⟩) (by decide) (by decide : 1 ≤ 512) (by decide)
      (failingUart_delivers _) rfl handled rfl⟩

end PeripheralBridge
