import PeripheralBridge.CommandLine.Exit
import PeripheralBridge.Proofs.FailureClasses
import PeripheralBridge.Proofs.StreamInput
import PeripheralBridge.Proofs.StreamReturn

/-!
# What an exit code tells of a call

A failure is judged three times: the link decides whether input or output was too slow, the caller
asks the error whether it was a timeout, and the program looks at the kind of the failure again. The
judgements agree because links classify failures. An exit code then tells a slow device from one
that answered with a fault and from a call that was never made. That nothing was done for such a
call is seen from the record of its pipe or port, in which every exchange leaves something.
-/

namespace PeripheralBridge

variable {σ τ ε δ α β η : Type}

/-- Whatever the state, the attempt comes to the same with a record, and only adds to it. -/
def Logs (x : Attempt σ ε α) (y : Attempt (σ × List PortEvent) ε α) : Prop :=
  ∀ s, ∃ events r s', Logged x y s events r s'

namespace Logs

variable {x : Attempt σ ε α} {y : Attempt (σ × List PortEvent) ε α}
  {f : α → Attempt σ ε β} {g : α → Attempt (σ × List PortEvent) ε β}

theorem bind (first : Logs x y) (next : ∀ a, Logs (f a) (g a)) : Logs (x >>= f) (y >>= g) := by
  intro s
  obtain ⟨events, r, s₁, logged⟩ := first s
  cases r with
  | error e => exact ⟨_, _, _, logged.bind_error⟩
  | ok a =>
    obtain ⟨more, r, s₂, behind⟩ := next a s₁
    exact ⟨_, _, _, logged.bind behind⟩

theorem mapError (logs : Logs x y) (rename : ε → δ) :
    Logs (x.mapError rename) (y.mapError rename) := by
  intro s
  obtain ⟨events, r, s₁, logged⟩ := logs s
  cases r with
  | error e =>
    exact ⟨events, _, s₁, Attempt.mapError_of_error logged.plain rename,
      fun log => Attempt.mapError_of_error (logged.logged log) rename⟩
  | ok a => exact ⟨_, _, _, logged.mapError_ok rename⟩

theorem of_except (r : Except ε α) :
    Logs (Attempt.ofExcept r : Attempt σ ε α) (Attempt.ofExcept r) :=
  fun s => ⟨_, _, _, .of_except r s⟩

end Logs

namespace BytePort

variable (port : BytePort σ)

theorem readFull_logs (stage : ExchangeStage) (timeout : Duration) (want : Nat) :
    Logs (port.readFull stage timeout want) (port.recorded.readFull stage timeout want) := by
  intro s
  induction want, s using BytePort.readFull.induct port stage timeout with
  | case1 s => exact ⟨_, _, _, port.readFull_logged_zero stage timeout s⟩
  | case2 want s hw s' ended => exact ⟨_, _, _, port.readFull_logged_closed stage timeout hw ended⟩
  | case3 want s hw b data s' gave rest s'' rested ih =>
    obtain ⟨_, _, _, logged⟩ := ih
    exact ⟨_, _, _,
      port.readFull_logged_more stage timeout hw (List.cons_ne_nil b data) gave logged⟩
  | case4 want s hw b data s' gave e s'' broke ih =>
    obtain ⟨_, _, _, logged⟩ := ih
    exact ⟨_, _, _,
      port.readFull_logged_more stage timeout hw (List.cons_ne_nil b data) gave logged⟩
  | case5 want s hw e s' broke passes ih =>
    obtain ⟨_, _, _, logged⟩ := ih
    exact ⟨_, _, _, port.readFull_logged_again stage timeout hw passes broke logged⟩
  | case6 want s hw e s' broke lasts =>
    obtain ⟨_, _, logged, -⟩ := port.readFull_logged_failed stage timeout hw lasts broke
    exact ⟨_, _, _, logged⟩

theorem writeAll_logs (data : Bytes) : Logs (port.writeAll data) (port.recorded.writeAll data) := by
  intro s
  obtain ⟨events, r, s', logged, -⟩ := port.writeAll_logged data s
  exact ⟨events, r, s', logged⟩

end BytePort

namespace StreamLink

variable (port : BytePort σ)

theorem send_logs (timeout : Duration) (message : Bytes) :
    Logs (send port timeout message) (send port.recorded timeout message) := by
  refine Logs.mapError ?_ _
  refine (port.writeAll_logs message).bind fun _ s => ?_
  rcases flushed : port.flush s with ⟨answer, s'⟩
  exact ⟨_, _, _, port.flush_logged flushed⟩

theorem receive_logs (config : LinkConfig) :
    Logs (receive port config) (receive port.recorded config) := by
  refine (port.readFull_logs _ _ _).bind fun head => ?_
  refine ((Logs.of_except _).mapError _).bind fun ⟨header, _⟩ => ?_
  dsimp only
  cases checkPayload header.payloadLength.toNat config.limits.response with
  | error e => exact fun s => ⟨_, _, _, .purged port _ s⟩
  | ok _ => exact (port.readFull_logs _ _ _).bind fun payload => .of_except (.ok _)

/-- An exchange begins with a purge, whatever the port does then. -/
theorem exchange_logged (header : RequestHeader) (payload : Bytes) (l : StreamLink σ) :
    ∃ events answer s', exchange port header payload l = (answer, { l with port := s' }) ∧
      ∀ log, exchange port.recorded header payload ⟨(l.port, log), l.config⟩ =
        (answer, ⟨(s', log ++ .purge (port.purge l.port).1 :: events), l.config⟩) := by
  obtain ⟨events, answer, s', logged⟩ :=
    ((send_logs port l.config.timeout (header.bytes ++ payload)).bind fun _ =>
      receive_logs port l.config) (port.purge l.port).2
  refine ⟨events, answer, s', ?_, fun log => ?_⟩
  · rw [exchange_eq, logged.plain]
  · rw [exchange_eq, port.recorded_purge, logged.logged, List.append_assoc, List.singleton_append]

end StreamLink

/-- A second link is asked what the first one is and answers alike; it also keeps a record, in which
every exchange leaves something. -/
structure Link.RecordedBy (link : Link σ) (recording : Link τ) (note : σ → List η → τ) : Prop where
  limits : ∀ s log, recording.limits (note s log) = link.limits s
  exchange : ∀ header payload s, ∃ event events answer s',
    link.exchange header payload s = (answer, s') ∧
    ∀ log, recording.exchange header payload (note s log) =
      (answer, note s' (log ++ event :: events))

def StreamLink.noting (l : StreamLink σ) (log : List PortEvent) :
    StreamLink (σ × List PortEvent) := ⟨(l.port, log), l.config⟩

/-- An exchange resets a stale pipe, or writes. -/
theorem PacketLink.Exchanged.begins {pipe : BulkPipe σ} {l l' : PacketLink σ} {message : Bytes}
    {events : List PipeEvent} {r : Except LinkError Response}
    (h : Exchanged pipe l message events r l') : ∃ event rest, events = event :: rest := by
  cases h with
  | refused => exact ⟨_, _, rfl⟩
  | recovered => exact ⟨_, _, rfl⟩
  | straight _ transferred =>
    obtain ⟨answer, rest, begins⟩ := transferred.begins
    exact ⟨_, rest, begins⟩

theorem PacketLink.recordedBy (pipe : BulkPipe σ) :
    (link pipe).RecordedBy (link pipe.recorded) noting where
  limits _ _ := rfl
  exchange header payload l := by
    obtain ⟨events, r, l', exchanged, plain, recorded⟩ := exchange_recorded pipe l header payload
    obtain ⟨event, rest, rfl⟩ := exchanged.begins
    exact ⟨event, rest, r, l', plain, recorded⟩

theorem StreamLink.recordedBy (port : BytePort σ) :
    (link port).RecordedBy (link port.recorded) noting where
  limits _ _ := rfl
  exchange header payload l := by
    obtain ⟨events, answer, s', plain, recorded⟩ := exchange_logged port header payload l
    exact ⟨_, events, answer, _, plain, recorded⟩

namespace Device

variable {link : Link σ} {recording : Link τ} {note : σ → List η → τ} {address : Address}
  {payload : Bytes} {s s' : σ} {e : CallError}

/-- A call leaves nothing in the record exactly if it is refused, and then the link is as it was. -/
theorem call_recorded (twin : link.RecordedBy recording note) (address : Address)
    (payload : Bytes) (s : σ) :
    ∃ events r s', call link address payload s = (r, s') ∧
      (∀ log, call recording address payload (note s log) = (r, note s' (log ++ events))) ∧
      (events = [] ↔ ¬ Sendable link s payload) ∧ (events = [] → s' = s) := by
  by_cases sendable : Sendable link s payload
  · obtain ⟨fits, declarable⟩ := id sendable
    obtain ⟨event, events, answer, s', exchanged, recorded⟩ :=
      twin.exchange (callHeader address payload) payload s
    refine ⟨event :: events, _, s', call_of_exchange fits declarable exchanged, fun log => ?_,
      by simp [sendable], fun none => absurd none (List.cons_ne_nil _ _)⟩
    rw [← twin.limits s log] at fits ⊢
    exact call_of_exchange fits declarable (recorded log)
  · refine ⟨[], _, s, ((guards link s).refused address payload sendable).plain, fun log => ?_,
      by simp [sendable], fun _ => rfl⟩
    have unsendable : ¬ Sendable recording (note s log) payload := by
      rwa [Sendable, twin.limits]
    rw [List.append_nil, ((guards recording _).refused address payload unsendable).plain,
      requestBound, requestBound, twin.limits]

inductive Fails (link : Link σ) (address : Address) (payload : Bytes) (s : σ) : CallError → Prop
  where
  | refused (unsendable : ¬ Sendable link s payload) :
      Fails link address payload s
        (.requestTooLarge payload.length (requestBound link s payload))
  | unanswered {e : LinkError} (sendable : Sendable link s payload)
      (failed : (link.exchange (callHeader address payload) payload s).1 = .error e) :
      Fails link address payload s (.link e)
  | oversized {response : Response} (sendable : Sendable link s payload)
      (answered : (link.exchange (callHeader address payload) payload s).1 = .ok response)
      (large : (link.limits s).response < response.payload.length) :
      Fails link address payload s
        (.responseTooLarge response.payload.length (link.limits s).response)
  | faulted {response : Response} (sendable : Sendable link s payload)
      (answered : (link.exchange (callHeader address payload) payload s).1 = .ok response)
      (failed : response.code ≠ 0) : Fails link address payload s (.device (.told response.code))

theorem fails_of_call (failed : (call link address payload s).1 = .error e) :
    Fails link address payload s e := by
  by_cases sendable : Sendable link s payload
  · obtain ⟨-, answer, s', exchanged, asks⟩ := (guards link s).exchanged address payload sendable
    rw [asks.plain] at failed
    have answered := congrArg Prod.fst exchanged
    cases answer with
    | error e =>
      cases failed
      exact .unanswered sendable answered
    | ok response =>
      by_cases large : (link.limits s).response < response.payload.length
      · simp only [outcome, if_pos large] at failed
        cases failed
        exact .oversized sendable answered large
      · rw [outcome, if_neg large, returned] at failed
        by_cases success : response.code = 0
        · rw [if_pos success] at failed
          cases failed
        · rw [if_neg success] at failed
          cases failed
          exact .faulted sendable answered success
  · rw [((guards link s).refused address payload sendable).plain] at failed
    cases failed
    exact .refused sendable

end Device

namespace CommandLine

theorem ExitCode.toNat_inj {a b : ExitCode} : a.toNat = b.toNat ↔ a = b := by
  constructor
  · cases a <;> cases b <;> first | exact fun _ => rfl | (intro same; cases same)
  · rintro rfl
    rfl

namespace Failure

theorem ioExit_eq_timeout_iff (f : IoFailure) :
    ioExit f = .timeout ↔ f.kind = .timedOut ∨ f.kind = .wouldBlock := by
  rw [ioExit]
  cases f.kind <;> decide

theorem ioExit_ne (f : IoFailure) : ioExit f ≠ .device ∧ ioExit f ≠ .usage := by
  rw [ioExit]
  cases f.kind <;> decide

theorem ofLink_exit_ne (context : String) (e : LinkError) :
    (ofLink context e).exit ≠ .device ∧ (ofLink context e).exit ≠ .usage := by
  cases e with
  | io stage f => exact ioExit_ne f
  | _ => exact ⟨nofun, nofun⟩

/-- Of a classified failure of a link, the program says what the caller is told. -/
theorem ofLink_exit_eq_timeout_iff (context : String) {e : LinkError}
    (classified : e.Classified) : (ofLink context e).exit = .timeout ↔ e.isTimeout = true := by
  cases e with
  | io stage f =>
    constructor
    · intro slow
      rcases (ioExit_eq_timeout_iff f).mp slow with late | late
      · exact absurd late classified.1
      · exact absurd late classified.2
    · nofun
  | timeout stage after => exact ⟨fun _ => rfl, fun _ => rfl⟩
  | _ => exact ⟨nofun, nofun⟩

end Failure

end CommandLine

namespace Device

open CommandLine

variable {link : Link σ} {recording : Link τ} {note : σ → List η → τ} {address : Address}
  {payload : Bytes} {s s' : σ} {e : CallError}

/-- The call is made, and the device answers with this status. -/
def AnsweredWith (link : Link σ) (address : Address) (payload : Bytes) (s : σ) (code : Int16) :
    Prop :=
  Sendable link s payload ∧ ∃ response,
    (link.exchange (callHeader address payload) payload s).1 = .ok response ∧ response.code = code

namespace Fails

variable (failed : Fails link address payload s e)
include failed

theorem exit_eq_timeout_iff (classifies : link.Classifies) (context : String) :
    (Failure.ofCall context e).exit = .timeout ↔ e.isTimeout = true := by
  cases failed with
  | unanswered _ broke =>
    exact Failure.ofLink_exit_eq_timeout_iff context (classifies _ payload s _ broke)
  | _ => exact ⟨nofun, nofun⟩

theorem exit_eq_device_iff (context : String) :
    (Failure.ofCall context e).exit = .device ↔ ∃ code, e.statusCode? = some code := by
  cases failed with
  | unanswered => exact ⟨fun same => absurd same (Failure.ofLink_exit_ne context _).1, nofun⟩
  | faulted => exact ⟨fun _ => ⟨_, rfl⟩, fun _ => rfl⟩
  | _ => exact ⟨nofun, nofun⟩

theorem exit_eq_usage_iff (context : String) :
    (Failure.ofCall context e).exit = .usage ↔ ¬ Sendable link s payload := by
  cases failed with
  | refused unsendable => exact ⟨fun _ => unsendable, fun _ => rfl⟩
  | unanswered sendable =>
    exact ⟨fun same => absurd same (Failure.ofLink_exit_ne context _).2, absurd sendable⟩
  | oversized sendable => exact ⟨nofun, absurd sendable⟩
  | faulted sendable => exact ⟨nofun, absurd sendable⟩

/-- The status code of a failure is the one in the response, and no success. -/
theorem statusCode?_eq_some_iff (receives : link.ReceivesWithin) (code : Int16) :
    e.statusCode? = some code ↔ AnsweredWith link address payload s code ∧ code ≠ successCode := by
  cases failed with
  | refused unsendable =>
    constructor
    · nofun
    · rintro ⟨⟨sendable, -⟩, -⟩
      exact absurd sendable unsendable
  | unanswered _ broke =>
    constructor
    · nofun
    · rintro ⟨⟨-, response, answered, -⟩, -⟩
      cases broke.symm.trans answered
  | oversized _ answered large =>
    have within := receives _ payload s _ _ (Prod.ext answered rfl)
    exact absurd within (Nat.not_le_of_lt large)
  | @faulted response sendable answered nonzero =>
    have named : (DeviceFault.told response.code).code = response.code :=
      DeviceFault.code_told nonzero
    constructor
    · intro same
      obtain rfl : response.code = code := named.symm.trans (Option.some.inj same)
      exact ⟨⟨sendable, response, answered, rfl⟩, nonzero⟩
    · rintro ⟨⟨-, response', answered', rfl⟩, -⟩
      obtain rfl : response = response' := Except.ok.inj (answered.symm.trans answered')
      exact congrArg some named

end Fails

/-- What the exit code of a failed call tells: whether something was too slow, whether it is a
status of the device, and whether anything was asked of what is below the link. -/
structure ExitTells (link : Link σ) (recording : Link τ) (note : σ → List η → τ)
    (context : String) (address : Address) (payload : Bytes) (s : σ) (e : CallError) (s' : σ) :
    Prop where
  timeout_iff : (Failure.ofCall context e).exit.toNat = 124 ↔ e.isTimeout = true
  device_iff : (Failure.ofCall context e).exit.toNat = 2 ↔ ∃ code, e.statusCode? = some code
  refused_iff : (Failure.ofCall context e).exit.toNat = 64 ↔ ¬ Sendable link s payload
  nothing_done_iff : ∃ events,
    (∀ log, call recording address payload (note s log) = (.error e, note s' (log ++ events))) ∧
    ((Failure.ofCall context e).exit.toNat = 64 ↔ events = []) ∧ (events = [] → s' = s)

theorem exitTells (twin : link.RecordedBy recording note) (classifies : link.Classifies)
    (context : String) (called : call link address payload s = (.error e, s')) :
    ExitTells link recording note context address payload s e s' := by
  have failed : Fails link address payload s e := fails_of_call (congrArg Prod.fst called)
  have usage := ExitCode.toNat_inj.trans (failed.exit_eq_usage_iff context)
  obtain ⟨events, r, s₁, plain, recorded, untouched, same⟩ :=
    call_recorded twin address payload s
  cases called.symm.trans plain
  exact ⟨ExitCode.toNat_inj.trans (failed.exit_eq_timeout_iff classifies context),
    ExitCode.toNat_inj.trans (failed.exit_eq_device_iff context), usage,
    events, recorded, usage.trans untouched.symm, same⟩

/-- The status that a failure tells is the one the device answered with, if that is no success. -/
def StatusTold (link : Link σ) (address : Address) (payload : Bytes) (s : σ) (e : CallError) :
    Prop :=
  ∀ code, e.statusCode? = some code ↔ AnsweredWith link address payload s code ∧ code ≠ successCode

theorem statusTold (receives : link.ReceivesWithin)
    (called : call link address payload s = (.error e, s')) :
    StatusTold link address payload s e :=
  (fails_of_call (congrArg Prod.fst called)).statusCode?_eq_some_iff receives

/-- Whatever a pipe or port does, and in whatever state its link is, the exit code of a call that
fails is that of a timeout exactly if the error is one, that of the device exactly if it answered
with a status other than success, and that of a wrong use exactly if the call was refused, with
nothing done. -/
theorem exit_codes_tell (context : String) (address : Address) (payload : Bytes) :
    (∀ (σ : Type) (pipe : BulkPipe σ) l e l',
      call (PacketLink.link pipe) address payload l = (.error e, l') →
      ExitTells (PacketLink.link pipe) (PacketLink.link pipe.recorded) PacketLink.noting
        context address payload l e l' ∧
      StatusTold (PacketLink.link pipe) address payload l e) ∧
    (∀ (σ : Type) (port : BytePort σ) l e l',
      call (StreamLink.link port) address payload l = (.error e, l') →
      ExitTells (StreamLink.link port) (StreamLink.link port.recorded) StreamLink.noting
        context address payload l e l' ∧
      (port.ReadsWithin → StatusTold (StreamLink.link port) address payload l e)) := by
  constructor
  · intro σ pipe l e l' called
    constructor
    · exact exitTells (PacketLink.recordedBy pipe) (PacketLink.link_classifies pipe) context called
    · exact statusTold (PacketLink.link_receivesWithin pipe) called
  · intro σ port l e l' called
    constructor
    · exact exitTells (StreamLink.recordedBy port) (StreamLink.link_classifies port) context called
    · intro reads
      exact statusTold (StreamLink.link_receivesWithin reads) called

/-- A pipe that goes silent, the same pipe when it is stale and the payload is too long, and a port
on which the device answers that it is busy. -/
theorem exit_codes_tell_silent :
    let pipe : PacketLink ScriptedPipe := .onPipe ScriptedPipe.pipe {}
    let stale := (call (PacketLink.link ScriptedPipe.pipe) ⟨0, 0, 2⟩ [] pipe).2
    let port : StreamLink ScriptedPort := { port := { replies := [[.ok [6, 0, 0, 0]]] } }
    ExitTells (PacketLink.link ScriptedPipe.pipe) (PacketLink.link ScriptedPipe.pipe.recorded)
        PacketLink.noting "echo" ⟨0, 0, 2⟩ [] pipe (.link (.timeout .response defaultTimeout))
        stale ∧
      ExitTells (PacketLink.link ScriptedPipe.pipe) (PacketLink.link ScriptedPipe.pipe.recorded)
        PacketLink.noting "echo" ⟨0, 0, 2⟩ (List.replicate 513 0) stale (.requestTooLarge 513 512)
        stale ∧
      StatusTold (StreamLink.link ScriptedPort.port) ⟨0, 0, 2⟩ [] port (.device .busy) := by
  intro pipe stale port
  have silent : call (PacketLink.link ScriptedPipe.pipe) ⟨0, 0, 2⟩ [] pipe =
      (.error (.link (.timeout .response defaultTimeout)), stale) := rfl
  have refused : call (PacketLink.link ScriptedPipe.pipe) ⟨0, 0, 2⟩ (List.replicate 513 0) stale =
      (.error (.requestTooLarge 513 512), stale) := by
    have long : ((PacketLink.link ScriptedPipe.pipe).limits stale).request <
        (List.replicate 513 (0 : UInt8)).length := by
      rw [List.length_replicate]
      decide
    rw [call_of_over long, List.length_replicate]
    rfl
  let asked : ScriptedPort :=
    { flushCount := 1, purgeCount := 1, written := [0, 0, 0, 0, 2, 0, 0, 0] }
  have sent : StreamLink.send ScriptedPort.port defaultTimeout [0, 0, 0, 0, 2, 0, 0, 0]
      { port.port with purgeCount := 1 } = (.ok (), { asked with input := [.ok [6, 0, 0, 0]] }) :=
    StreamLink.send_of_whole (by decide) rfl rfl defaultTimeout
  have exchanged : (StreamLink.link ScriptedPort.port).exchange ⟨⟨0, 0, 2⟩, 0⟩ [] port =
      (.ok ⟨6, []⟩, { port := asked }) := by
    refine (StreamLink.exchange_of_send (l := port) sent).trans ?_
    rw [StreamLink.receive_of_empty (r := ⟨6, []⟩) (by decide) rfl (by decide) rfl]
    rfl
  have busy : call (StreamLink.link ScriptedPort.port) ⟨0, 0, 2⟩ [] port =
      (.error (.device .busy), { port := asked }) :=
    (call_of_exchange (Nat.zero_le _) (Nat.zero_le _) exchanged).trans rfl
  exact ⟨((exit_codes_tell "echo" _ _).1 _ _ _ _ _ silent).1,
    ((exit_codes_tell "echo" _ _).1 _ _ _ _ _ refused).1,
    ((exit_codes_tell "echo" _ _).2 _ _ _ _ _ busy).2 ScriptedPort.readsWithin⟩

end Device

end PeripheralBridge
