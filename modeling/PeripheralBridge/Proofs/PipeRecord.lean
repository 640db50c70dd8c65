import PeripheralBridge.Link.Packet

/-!
# What an exchange asks of a pipe

A recorded pipe answers as the pipe does and keeps what it was asked, with each answer.
A transfer is described by its exits: six ways to fail, in the order in which they can
happen, and one to succeed. Whatever the pipe does, a transfer begins by writing the
whole message and never resets; an exchange resets a stale pipe before its transfer.
-/

namespace PeripheralBridge

inductive PipeEvent where
  | write (data : Bytes) (answer : Except IoFailure Nat)
  | read (capacity : Nat) (answer : Except IoFailure Bytes)
  | reset (answer : Except IoFailure Unit)

namespace PipeEvent

/-- The pipe was written to or read from. -/
def Moves : PipeEvent → Prop
  | write _ _ | read _ _ => True
  | reset _ => False

def written? : PipeEvent → Option Bytes
  | write data _ => some data
  | _ => none

/-- It was no write, or the write took all it was given. -/
def Whole : PipeEvent → Prop
  | write data answer => answer = .ok data.length
  | _ => True

end PipeEvent

namespace BulkPipe

variable {σ : Type}

def recorded (pipe : BulkPipe σ) : BulkPipe (σ × List PipeEvent) where
  packetSize s := pipe.packetSize s.1
  write data s := ((pipe.write data s.1).1, (pipe.write data s.1).2,
    s.2 ++ [.write data (pipe.write data s.1).1])
  read capacity s := ((pipe.read capacity s.1).1, (pipe.read capacity s.1).2,
    s.2 ++ [.read capacity (pipe.read capacity s.1).1])
  reset s := ((pipe.reset s.1).1, (pipe.reset s.1).2, s.2 ++ [.reset (pipe.reset s.1).1])

end BulkPipe

namespace PacketLink

variable {σ : Type} {pipe : BulkPipe σ} {config : LinkConfig} {buffer : Nat} {message : Bytes}
  {s s' : σ} {events : List PipeEvent} {r : Except LinkError Response}

/-- The link over the recorded pipe, after some events. -/
def noting (l : PacketLink σ) (log : List PipeEvent) : PacketLink (σ × List PipeEvent) where
  pipe := (l.pipe, log)
  config := l.config
  buffer := l.buffer
  stale := l.stale

def unrecorded (l : PacketLink (σ × List PipeEvent)) : PacketLink σ where
  pipe := l.pipe.1
  config := l.config
  buffer := l.buffer
  stale := l.stale

@[simp] theorem noting_pipe (l : PacketLink σ) (log : List PipeEvent) :
    (l.noting log).pipe = (l.pipe, log) := rfl

@[simp] theorem unrecorded_noting (l : PacketLink σ) (log : List PipeEvent) :
    (l.noting log).unrecorded = l := rfl

theorem noting_unrecorded (l : PacketLink (σ × List PipeEvent)) :
    l.unrecorded.noting l.pipe.2 = l := rfl

/-- A message went out whole, with an empty packet behind it where its length calls for one.
The size of packets is asked for once, after the message was written. -/
inductive Sent (pipe : BulkPipe σ) (message : Bytes) (s : σ) :
    List PipeEvent → σ → Prop where
  | alone {s₁ : σ} (written : pipe.write message s = (.ok message.length, s₁))
      (ends : needsEmptyPacket message.length (pipe.packetSize s₁) = false) :
      Sent pipe message s [.write message (.ok message.length)] s₁
  | ended {s₁ s₂ : σ} {n : Nat} (written : pipe.write message s = (.ok message.length, s₁))
      (full : needsEmptyPacket message.length (pipe.packetSize s₁) = true)
      (empty : pipe.write [] s₁ = (.ok n, s₂)) :
      Sent pipe message s [.write message (.ok message.length), .write [] (.ok n)] s₂

/-- A message did not go out whole. -/
inductive Unsent (pipe : BulkPipe σ) (timeout : Duration) (message : Bytes) (s : σ) :
    List PipeEvent → LinkError → σ → Prop where
  | writeFailed {e : IoFailure} {s₁ : σ} (failed : pipe.write message s = (.error e, s₁)) :
      Unsent pipe timeout message s [.write message (.error e)] (.ofIo .request timeout e) s₁
  | shortWrite {n : Nat} {s₁ : σ} (written : pipe.write message s = (.ok n, s₁))
      (short : n ≠ message.length) :
      Unsent pipe timeout message s [.write message (.ok n)] (.shortWrite n message.length) s₁
  | emptyPacketFailed {e : IoFailure} {s₁ s₂ : σ}
      (written : pipe.write message s = (.ok message.length, s₁))
      (full : needsEmptyPacket message.length (pipe.packetSize s₁) = true)
      (failed : pipe.write [] s₁ = (.error e, s₂)) :
      Unsent pipe timeout message s
        [.write message (.ok message.length), .write [] (.error e)]
        (.ofIo .zeroLengthPacket timeout e) s₂

/-- The ways in which a transfer can go: what is asked of the pipe, the result, and the
state the pipe is left in. -/
inductive Transfer (pipe : BulkPipe σ) (config : LinkConfig) (buffer : Nat) (message : Bytes)
    (s : σ) : List PipeEvent → Except LinkError Response → σ → Prop where
  | unsent {events : List PipeEvent} {e : LinkError} {s₁ : σ}
      (failed : Unsent pipe config.timeout message s events e s₁) :
      Transfer pipe config buffer message s events (.error e) s₁
  | readFailed {events : List PipeEvent} {e : IoFailure} {s₁ s₂ : σ}
      (sent : Sent pipe message s events s₁)
      (failed : pipe.read buffer s₁ = (.error e, s₂)) :
      Transfer pipe config buffer message s
        (events ++ [.read buffer (.error e)]) (.error (.ofIo .response config.timeout e)) s₂
  | malformed {events : List PipeEvent} {received : Bytes} {e : MessageError} {s₁ s₂ : σ}
      (sent : Sent pipe message s events s₁)
      (got : pipe.read buffer s₁ = (.ok received, s₂))
      (refused : Response.decode received config.limits.response = .error e) :
      Transfer pipe config buffer message s
        (events ++ [.read buffer (.ok received)]) (.error (.malformed e)) s₂
  | answered {events : List PipeEvent} {received : Bytes} {response : Response} {s₁ s₂ : σ}
      (sent : Sent pipe message s events s₁)
      (got : pipe.read buffer s₁ = (.ok received, s₂))
      (decoded : Response.decode received config.limits.response = .ok response) :
      Transfer pipe config buffer message s
        (events ++ [.read buffer (.ok received)]) (.ok response) s₂

theorem send_recorded (pipe : BulkPipe σ) (timeout : Duration) (message : Bytes) (s : σ) :
    (∃ events s₁, Sent pipe message s events s₁ ∧
      send pipe timeout message s = (.ok (), s₁) ∧
      ∀ log, send pipe.recorded timeout message (s, log) = (.ok (), s₁, log ++ events)) ∨
    ∃ events e s₁, Unsent pipe timeout message s events e s₁ ∧
      send pipe timeout message s = (.error e, s₁) ∧
      ∀ log, send pipe.recorded timeout message (s, log) = (.error e, s₁, log ++ events) := by
  rcases hw : pipe.write message s with ⟨answer, s₁⟩
  cases answer with
  | error e =>
    refine .inr ⟨_, _, _, .writeFailed hw, ?_⟩
    simp [send, Attempt.bind_apply, Attempt.mapError, BulkPipe.recorded, hw]
  | ok n =>
    by_cases short : n ≠ message.length
    · refine .inr ⟨_, _, _, .shortWrite hw short, ?_⟩
      simp [send, Attempt.bind_apply, Attempt.mapError, BulkPipe.recorded, hw, short]
    · have whole : n = message.length := Decidable.not_not.mp short
      subst whole
      cases full : needsEmptyPacket message.length (pipe.packetSize s₁) with
      | false =>
        refine .inl ⟨_, _, .alone hw full, ?_⟩
        simp [send, Attempt.bind_apply, Attempt.mapError, BulkPipe.recorded, hw, full]
      | true =>
        rcases he : pipe.write [] s₁ with ⟨answer, s₂⟩
        cases answer with
        | error e =>
          refine .inr ⟨_, _, _, .emptyPacketFailed hw full he, ?_⟩
          simp [send, Attempt.bind_apply, Attempt.mapError, BulkPipe.recorded, hw, full, he]
        | ok n =>
          refine .inl ⟨_, _, .ended hw full he, ?_⟩
          simp [send, Attempt.bind_apply, Attempt.mapError, BulkPipe.recorded, hw, full, he]

/-- A transfer goes in one of its ways, and the record of it is the only difference that
recording makes. -/
theorem transfer_recorded (pipe : BulkPipe σ) (config : LinkConfig) (buffer : Nat)
    (header : RequestHeader) (payload : Bytes) (s : σ) :
    ∃ events r s₁, Transfer pipe config buffer (header.bytes ++ payload) s events r s₁ ∧
      transfer pipe config buffer header payload s = (r, s₁) ∧
      ∀ log, transfer pipe.recorded config buffer header payload (s, log) =
        (r, s₁, log ++ events) := by
  rcases send_recorded pipe config.timeout (header.bytes ++ payload) s with
    ⟨events, s₁, sent, hp, hs⟩ | ⟨events, e, s₁, unsent, hp, hs⟩
  · rcases hr : pipe.read buffer s₁ with ⟨answer, s₂⟩
    have hrecorded : ∀ log, pipe.recorded.read buffer (s₁, log ++ events) =
        (answer, s₂, log ++ (events ++ [.read buffer answer])) := by
      simp [BulkPipe.recorded, hr]
    cases answer with
    | error e =>
      refine ⟨_, _, _, .readFailed sent hr, ?_, fun log => ?_⟩
      · rw [transfer, Attempt.bind_of_ok hp, receive_of_error hr]
      · rw [transfer, Attempt.bind_of_ok (hs log), receive_of_error (hrecorded log)]
    | ok received =>
      have hplain : transfer pipe config buffer header payload s =
          ((Response.decode received config.limits.response).mapError .malformed, s₂) := by
        rw [transfer, Attempt.bind_of_ok hp, receive_of_ok hr]
      have hlogged : ∀ log, transfer pipe.recorded config buffer header payload (s, log) =
          ((Response.decode received config.limits.response).mapError .malformed, s₂,
            log ++ (events ++ [.read buffer (.ok received)])) := by
        intro log
        rw [transfer, Attempt.bind_of_ok (hs log), receive_of_ok (hrecorded log)]
      cases decoded : Response.decode received config.limits.response with
      | error e =>
        rw [decoded] at hplain hlogged
        exact ⟨_, _, _, .malformed sent hr decoded, hplain, hlogged⟩
      | ok response =>
        rw [decoded] at hplain hlogged
        exact ⟨_, _, _, .answered sent hr decoded, hplain, hlogged⟩
  · refine ⟨events, _, s₁, .unsent unsent, ?_, fun log => ?_⟩
    · rw [transfer, Attempt.bind_of_error hp]
    · rw [transfer, Attempt.bind_of_error (hs log)]

theorem Sent.moves (h : Sent pipe message s events s') :
    ∀ e ∈ events, e.Moves := by
  cases h <;> simp [PipeEvent.Moves]

theorem Sent.begins (h : Sent pipe message s events s') :
    ∃ rest, events = .write message (.ok message.length) :: rest := by
  cases h with
  | alone => exact ⟨_, rfl⟩
  | ended => exact ⟨_, rfl⟩

/-- A message that went out whole is what was written, and an empty packet behind it. -/
theorem Sent.written (h : Sent pipe message s events s') :
    events.filterMap PipeEvent.written? =
      message :: if needsEmptyPacket message.length
        (pipe.packetSize (pipe.write message s).2) then [[]] else [] := by
  cases h with
  | alone written ends => simp [PipeEvent.written?, written, ends]
  | ended written full _ => simp [PipeEvent.written?, written, full]

theorem Unsent.not_whole {timeout : Duration} {e : LinkError}
    (h : Unsent pipe timeout message s events e s') : ∃ e ∈ events, ¬ e.Whole := by
  cases h with
  | writeFailed _ => exact ⟨_, List.mem_cons_self, by simp [PipeEvent.Whole]⟩
  | shortWrite _ short => exact ⟨_, List.mem_cons_self, by simpa [PipeEvent.Whole] using short⟩
  | emptyPacketFailed _ _ _ =>
    exact ⟨_, List.mem_cons_of_mem _ List.mem_cons_self, by simp [PipeEvent.Whole]⟩

/-- Where every write succeeds, a transfer writes its message, and an empty packet behind it
where the length of the message calls for one. -/
theorem Transfer.written (h : Transfer pipe config buffer message s events r s')
    (whole : ∀ e ∈ events, e.Whole) :
    events.filterMap PipeEvent.written? =
      message :: if needsEmptyPacket message.length
        (pipe.packetSize (pipe.write message s).2) then [[]] else [] := by
  cases h with
  | unsent failed =>
    obtain ⟨e, mem, partly⟩ := failed.not_whole
    exact False.elim (partly (whole e mem))
  | readFailed sent _ | malformed sent _ _ | answered sent _ _ =>
    rw [List.filterMap_append, sent.written]
    simp [PipeEvent.written?]

/-- A transfer writes and reads, and never resets. -/
theorem Transfer.moves (h : Transfer pipe config buffer message s events r s') :
    ∀ e ∈ events, e.Moves := by
  cases h with
  | unsent failed => cases failed <;> simp [PipeEvent.Moves]
  | readFailed sent _ | malformed sent _ _ | answered sent _ _ =>
    intro e he
    rcases List.mem_append.mp he with he | he
    · exact sent.moves e he
    · rw [List.mem_singleton.mp he]
      trivial

/-- A transfer begins by writing its message. -/
theorem Transfer.begins (h : Transfer pipe config buffer message s events r s') :
    ∃ answer rest, events = .write message answer :: rest := by
  cases h with
  | unsent failed => cases failed <;> exact ⟨_, _, rfl⟩
  | readFailed sent _ | malformed sent _ _ | answered sent _ _ =>
    obtain ⟨rest, hrest⟩ := sent.begins
    exact ⟨_, rest ++ _, by rw [hrest]; rfl⟩

/-- Whatever comes of it, a transfer moves something. -/
theorem Transfer.moved (h : Transfer pipe config buffer message s events r s') :
    ∃ e ∈ events, e.Moves := by
  obtain ⟨answer, rest, begins⟩ := h.begins
  exact ⟨.write message answer, by simp [begins], trivial⟩

/-- The result of a transfer marks the link. -/
def afterTransfer (l : PacketLink σ) (s : σ) (r : Except LinkError Response) : PacketLink σ :=
  { l with pipe := s, stale := !r.isOk }

/-- The ways in which an exchange can go: what is asked of the pipe, the result, and the link
that is left. -/
inductive Exchanged (pipe : BulkPipe σ) (l : PacketLink σ) (message : Bytes) :
    List PipeEvent → Except LinkError Response → PacketLink σ → Prop where
  | refused {e : IoFailure} {s : σ} (stale : l.stale = true)
      (failed : pipe.reset l.pipe = (.error e, s)) :
      Exchanged pipe l message [.reset (.error e)]
        (.error (.ofIo .reset l.config.timeout e)) { l with pipe := s }
  | recovered {events : List PipeEvent} {r : Except LinkError Response} {s s₁ : σ}
      (stale : l.stale = true) (reset : pipe.reset l.pipe = (.ok (), s))
      (transferred : Transfer pipe l.config l.buffer message s events r s₁) :
      Exchanged pipe l message (.reset (.ok ()) :: events) r (l.afterTransfer s₁ r)
  | straight {events : List PipeEvent} {r : Except LinkError Response} {s₁ : σ}
      (fresh : l.stale = false)
      (transferred : Transfer pipe l.config l.buffer message l.pipe events r s₁) :
      Exchanged pipe l message events r (l.afterTransfer s₁ r)

theorem exchange_recorded (pipe : BulkPipe σ) (l : PacketLink σ) (header : RequestHeader)
    (payload : Bytes) :
    ∃ events r l', Exchanged pipe l (header.bytes ++ payload) events r l' ∧
      exchange pipe header payload l = (r, l') ∧
      ∀ log, exchange pipe.recorded header payload (l.noting log) =
        (r, l'.noting (log ++ events)) := by
  cases stale : l.stale with
  | false =>
    obtain ⟨events, r, s₁, transferred, hp, ht⟩ :=
      transfer_recorded pipe l.config l.buffer header payload l.pipe
    refine ⟨events, r, _, .straight stale transferred, ?_⟩
    cases r <;>
      simp [exchange, recover, noting, stale, hp, ht, afterTransfer, Except.isOk, Except.toBool]
  | true =>
    rcases hr : pipe.reset l.pipe with ⟨answer, s⟩
    cases answer with
    | error e =>
      refine ⟨_, _, _, .refused stale hr, ?_⟩
      simp [exchange, recover, reset, noting, stale, BulkPipe.recorded, hr]
    | ok u =>
      obtain ⟨events, r, s₁, transferred, hp, ht⟩ :=
        transfer_recorded pipe l.config l.buffer header payload s
      refine ⟨_, r, _, .recovered stale hr transferred, ?_⟩
      simp only [BulkPipe.recorded] at ht
      cases r <;>
        simp [exchange, recover, reset, noting, stale, BulkPipe.recorded, hr, hp, ht, afterTransfer,
          Except.isOk, Except.toBool]

end PacketLink

end PeripheralBridge
