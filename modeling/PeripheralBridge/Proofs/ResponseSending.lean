import PeripheralBridge.Proofs.SelfDescription
import PeripheralBridge.Proofs.Turns

/-!
# Which responses are sent

A registry and the interfaces that serve it take their limits from one configuration, so that no
response of the dispatcher is over the limit of the interface. What an interface still refuses is a
payload whose length a header cannot declare. The limit of a configuration may be larger than that,
and then a handler may answer with a payload that is refused by no limit and never sent.
-/

namespace PeripheralBridge

variable {ω σ : Type} {config : DeviceConfig} {r : Registry ω}

/-- Write a message in packets. -/
def PacketInterface.transmit (port : PacketPort σ) (message : Bytes) :
    Attempt σ InterfaceError Unit := do
  let size ← Attempt.read port.packetSize
  port.writeEach (messagePackets size message)

/-- Write a message as it is. -/
def StreamInterface.transmit (sink : ByteSink σ) (message : Bytes) :
    Attempt (StreamEnd σ) InterfaceError Unit :=
  (Attempt.mapError .io do
    sink.writeAll message
    sink.flush).onPart StreamEnd.sink fun s e => { e with sink := s }

/-- No response of the dispatcher is over the limit of the configuration. -/
theorem Registry.BuiltFrom.payload_le (built : r.BuiltFrom config) (q : Request) (w : ω) :
    ((Dispatcher.ofRegistry r).dispatch q w).1.payload.length ≤ config.limits.response := by
  rw [← (Dispatcher.advertises_of_builtFrom built).limits_eq]
  exact Dispatcher.dispatch_payload_le (.ofRegistry r) q w

namespace Interface

/-- An interface with the limits of a configuration, and how it sends a message. -/
inductive MadeFrom (config : DeviceConfig) : {σ : Type} → Interface σ →
    (Bytes → Attempt σ InterfaceError Unit) → Prop where
  | packets (name : String) {σ : Type} (port : PacketPort σ) :
      MadeFrom config (PacketInterface.interface name port config.limits)
        (PacketInterface.transmit port)
  | stream (name : String) {σ : Type} (sink : ByteSink σ) :
      MadeFrom config (StreamInterface.interface name sink config.limits config.byteTimeout)
        (StreamInterface.transmit sink)

variable {i : Interface σ} {transmit : Bytes → Attempt σ InterfaceError Unit}

theorem MadeFrom.send_eq (made : i.MadeFrom config transmit) (response : Response) (s : σ) :
    i.send response s =
      if config.limits.response < response.payload.length then
        (.error (.responseTooLarge response.payload.length config.limits.response), s)
      else if response.payload.length ≤ declarableMax then transmit response.octets s
      else (.error (.malformed (.payloadTooLarge response.payload.length declarableMax)), s) := by
  cases made with
  | packets name port =>
    exact Response.send_eq config.limits.response response (PacketInterface.transmit port) s
  | stream name sink =>
    have sent := Response.send_eq config.limits.response response
      (fun message => Attempt.mapError .io do sink.writeAll message; sink.flush) s.sink
    simp only [StreamInterface.interface, Attempt.onPart, StreamInterface.send, sent]
    split
    · rfl
    · split <;> rfl

/-- A response of the dispatcher that can be declared is sent. -/
theorem MadeFrom.send_dispatch (made : i.MadeFrom config transmit) (built : r.BuiltFrom config)
    (q : Request) (w : ω) (s : σ) :
    i.send ((Dispatcher.ofRegistry r).dispatch q w).1 s =
      if ((Dispatcher.ofRegistry r).dispatch q w).1.payload.length ≤ declarableMax then
        transmit ((Dispatcher.ofRegistry r).dispatch q w).1.octets s
      else (.error (.malformed (.payloadTooLarge
        ((Dispatcher.ofRegistry r).dispatch q w).1.payload.length declarableMax)), s) := by
  rw [made.send_eq, if_neg (Nat.not_lt.mpr (built.payload_le q w))]

end Interface

/-- On a link that works, every request that is received is answered and its response sent, whatever
the device is made of. -/
def DeviceConfig.AnswersAll (config : DeviceConfig) : Prop :=
  ∀ {ω σ : Type} {r : Registry ω} {i : Interface σ}
    {transmit : Bytes → Attempt σ InterfaceError Unit}, r.BuiltFrom config →
    i.MadeFrom config transmit → ∀ (q : Request) (w : ω) (s s₁ : σ),
    i.receive s = some (.ok q, s₁) → (∀ message, (transmit message s₁).1 = .ok ()) →
    ∃ s', i.turn (.ofRegistry r) s w =
      some (.answered q ((Dispatcher.ofRegistry r).dispatch q w).1 (.ok ()), s',
        ((Dispatcher.ofRegistry r).dispatch q w).2)

theorem DeviceConfig.answersAll_of_le (small : config.limits.response ≤ declarableMax) :
    config.AnswersAll := by
  intro ω σ r i transmit built made q w s s₁ received works
  have sent := made.send_dispatch built q w s₁
  rw [if_pos (Nat.le_trans (built.payload_le q w) small)] at sent
  refine ⟨(transmit ((Dispatcher.ofRegistry r).dispatch q w).1.octets s₁).2, ?_⟩
  simp only [Interface.turn, received, sent, works]

/-- A class whose one function answers with so many octets. -/
def lengthy (count : Nat) : Peripheral Unit where
  name := "lengthy"
  instances := 1
  functions := [fun _ _ w => (.reply (List.replicate count 0), w)]

/-- A device that has nothing else. -/
def lengthyPlan (config : DeviceConfig) (count : Nat) : RegistryPlan Unit :=
  (RegistryPlan.ofConfig config).place .can (lengthy count)

def lengthyRequest : Request := ⟨⟨PeripheralClass.can.id, 0, 0⟩, []⟩

/-- The device can be built, and its function is found. -/
theorem exists_lengthy (config : DeviceConfig) (count : Nat) :
    ∃ r, (lengthyPlan config count).build = .ok r ∧ r.BuiltFrom config ∧
      (Dispatcher.ofRegistry r).dispatch lengthyRequest () =
        (Dispatcher.respond config.limits.response (.reply (List.replicate count 0)), ()) := by
  refine ⟨_, rfl, ⟨lengthyPlan config count, .place _ _ .start, rfl⟩, ?_⟩
  exact Dispatcher.dispatch_of_handler?
    (rfl : Dispatcher.handler? _ _ = some fun _ _ w => (.reply (List.replicate count 0), w)) ()

namespace UsbLink

/-- A link on which the device has received a request, and the host listens. -/
def asked (q : Request) : UsbLink := { packetSize := 64, toDevice := messagePackets 64 q.octets }

theorem receive_asked (config : DeviceConfig) {q : Request} (empty : q.payload = []) :
    (interface config).receive (asked q) = some (.ok q, { packetSize := 64 }) := by
  have length : q.payload.length = 0 := by rw [empty]; rfl
  rw [receive_request (l := asked q) (q := q) config (by decide : 0 < 64) (by omega)
    (List.append_nil _).symm, Request.within, if_neg (by omega)]
  rfl

theorem transmit_ok (message : Bytes) {l : UsbLink} (listening : l.hostOpen = true) :
    (PacketInterface.transmit port message l).1 = .ok () := by
  obtain ⟨out, written, _⟩ := writeEach_toHost listening (messagePackets l.packetSize message)
  exact congrArg Prod.fst written

end UsbLink

/-- A device whose responses may be longer than what can be declared does not answer all. -/
theorem DeviceConfig.le_of_answersAll (answers : config.AnswersAll) :
    config.limits.response ≤ declarableMax := by
  -- otherwise a result one octet too long to be declared is still within the limit
  refine Nat.le_of_not_lt fun large => ?_
  obtain ⟨r, _, built, dispatched⟩ := exists_lengthy config (declarableMax + 1)
  rw [Dispatcher.respond_reply_of_le (by rw [List.length_replicate]; exact large)] at dispatched
  have made : (UsbLink.interface config).MadeFrom config _ := .packets "usb" UsbLink.port
  have received := UsbLink.receive_asked config (q := lengthyRequest) rfl
  obtain ⟨_, turn⟩ := answers built made lengthyRequest () _ _ received
    fun message => UsbLink.transmit_ok message rfl
  have unsent := made.send_dispatch built lengthyRequest () { packetSize := 64 }
  rw [dispatched, Response.success, List.length_replicate, if_neg (by omega)] at unsent
  simp [Interface.turn, received, dispatched, Response.success, unsent] at turn

/-- An interface never refuses a response of its dispatcher for the limit both have. It refuses the
ones whose payload cannot be declared, before it has sent anything. So all requests are answered
exactly when the limit of the configuration can be declared. -/
theorem every_response_sent_iff (config : DeviceConfig) :
    (∀ {ω σ : Type} {r : Registry ω} {i : Interface σ}
      {transmit : Bytes → Attempt σ InterfaceError Unit}, r.BuiltFrom config →
      i.MadeFrom config transmit → ∀ (q : Request) (w : ω) (s : σ),
      let response := ((Dispatcher.ofRegistry r).dispatch q w).1
      i.send response s =
        if response.payload.length ≤ declarableMax then transmit response.octets s
        else (.error (.malformed (.payloadTooLarge response.payload.length declarableMax)), s)) ∧
    (config.AnswersAll ↔ config.limits.response ≤ declarableMax) :=
  ⟨fun built made => made.send_dispatch built,
    DeviceConfig.le_of_answersAll, DeviceConfig.answersAll_of_le⟩

/-- With the limits of the protocol, a result of six hundred octets is answered by a fault. -/
theorem every_response_sent_iff_oversized :
    ∃ r l, (lengthyPlan {} 600).build = .ok r ∧
      (UsbLink.interface {}).turn (.ofRegistry r) (UsbLink.asked lengthyRequest) () =
        some (.answered lengthyRequest (.ofFault .peripheral) (.ok ()), l, ()) := by
  obtain ⟨r, hr, built, dispatched⟩ := exists_lengthy {} 600
  rw [Dispatcher.respond_reply_of_lt (by rw [List.length_replicate]; decide)] at dispatched
  obtain ⟨l, turn⟩ := (every_response_sent_iff {}).2.mpr (by decide) built
    (.packets "usb" UsbLink.port) lengthyRequest () _ _ (UsbLink.receive_asked {} rfl)
    fun message => UsbLink.transmit_ok message rfl
  rw [dispatched] at turn
  exact ⟨r, l, hr, turn⟩

/-- With a limit of seventy thousand octets, a result of 65536 is no fault, and neither interface
sends it. -/
theorem response_never_sent :
    ∃ r : Registry Unit, (lengthyPlan { limits := ⟨512, 70000⟩ } 65536).build = .ok r ∧
      let response := ((Dispatcher.ofRegistry r).dispatch lengthyRequest ()).1
      (UsbLink.interface { limits := ⟨512, 70000⟩ }).send response { packetSize := 64 } =
        (.error (.malformed (.payloadTooLarge 65536 65535)), { packetSize := 64 }) ∧
      (UartLink.interface { limits := ⟨512, 70000⟩ }).send response ⟨.empty 520, {}⟩ =
        (.error (.malformed (.payloadTooLarge 65536 65535)), ⟨.empty 520, {}⟩) := by
  obtain ⟨r, hr, built, dispatched⟩ := exists_lengthy { limits := ⟨512, 70000⟩ } 65536
  rw [Dispatcher.respond_reply_of_le (by rw [List.length_replicate]; decide)] at dispatched
  have usb := (Interface.MadeFrom.packets "usb" UsbLink.port).send_dispatch built lengthyRequest ()
    { packetSize := 64 }
  have uart := (Interface.MadeFrom.stream "uart-sim" ReturnLine.sink).send_dispatch built
    lengthyRequest () ⟨.empty 520, {}⟩
  rw [dispatched, Response.success, List.length_replicate, if_neg (by decide)] at usb uart
  refine ⟨r, hr, ?_⟩
  rw [dispatched]
  exact ⟨usb, uart⟩

end PeripheralBridge
