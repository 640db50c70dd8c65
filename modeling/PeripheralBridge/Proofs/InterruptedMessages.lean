import PeripheralBridge.Proofs.PacketStream
import PeripheralBridge.Scripted.Interface

/-!
# Messages that a read error interrupts

An interface that fails to read a packet gives up the message it was reading, and keeps nothing of
it. It does not know that more packets of that message are to come, so it reads them as a message
of their own. What it takes for a request is therefore always one message of the stream from some
packet on to its end. It is a whole message exactly as long as no error breaks off a message whose
remaining octets are a request by themselves.
-/

namespace PeripheralBridge

variable {size : Nat}

namespace ScriptedPacketPort

variable {s : ScriptedPacketPort} {room limit : Nat} {ds : List Delivery}

theorem read_arrives {p : Bytes} (next : s.reads = (Delivery.arrives p :: ds).map Delivery.read)
    (fits : p.length ≤ size) :
    port.read size s = some (.ok p, { s with reads := ds.map Delivery.read }) := by
  simp only [port, read, next, List.map_cons, Delivery.read, if_neg (Nat.not_lt.mpr fits)]

theorem read_failed {d : Delivery} {f : IoFailure} (failed : d.read = .error (.io f))
    (next : s.reads = (d :: ds).map Delivery.read) :
    port.read size s = some (.error (.io f), { s with reads := ds.map Delivery.read }) := by
  simp only [port, read, next, List.map_cons, failed]

theorem read_closed (done : s.reads = []) : port.read size s = some (.error .closed, s) := by
  simp only [port, read, done]

/-- Full packets are taken without an end. -/
theorem readMessage_full {full : List Bytes} (wholes : ∀ p ∈ full, p.length = size) (i : Intake)
    (next : s.reads = (full.map Delivery.arrives ++ ds).map Delivery.read) :
    port.readMessage size room i s =
      port.readMessage size room (i.addAll room full)
        { s with reads := ds.map Delivery.read } := by
  induction full generalizing s i with
  | nil =>
    rw [List.map_nil, List.nil_append] at next
    rw [← next]
    rfl
  | cons p full ih =>
    obtain ⟨whole, wholes⟩ := List.forall_mem_cons.mp wholes
    rw [PacketPort.readMessage_of_ok i (read_arrives next (Nat.le_of_eq whole)), if_neg (by omega)]
    exact ih (s := { s with reads := (full.map Delivery.arrives ++ ds).map Delivery.read }) wholes _
      rfl

theorem readMessage_ofMessage (hs : 0 < size) (room : Nat) (i : Intake) (message : Bytes)
    (next : s.reads = (Delivery.ofMessage size message ++ ds).map Delivery.read) :
    port.readMessage size room i s =
      some (.ok (i.addAll room (messagePackets size message)),
        { s with reads := ds.map Delivery.read }) := by
  obtain ⟨full, last, hpackets, wholes, short⟩ := messagePackets_ends hs message
  have next : s.reads =
      (full.map Delivery.arrives ++ (.arrives last :: ds)).map Delivery.read := by
    rw [next]
    simp [Delivery.ofMessage, hpackets]
  rw [readMessage_full wholes i next, hpackets,
    PacketPort.readMessage_of_ok _ (read_arrives rfl (Nat.le_of_lt short)), if_pos short,
    Intake.addAll, Intake.addAll, List.foldl_append]
  rfl

def interface (limits : PayloadLimits) : Interface ScriptedPacketPort :=
  PacketInterface.interface "usb" port limits

variable (limits : PayloadLimits)

/-- A message that arrives is taken as a whole. -/
theorem receive_ofMessage (hs : 0 < s.packetSize) (message : Bytes)
    (next : s.reads = (Delivery.ofMessage s.packetSize message ++ ds).map Delivery.read) :
    (interface limits).receive s =
      some (PacketInterface.verdict limits.request message,
        { s with reads := ds.map Delivery.read }) := by
  have taken := readMessage_ofMessage hs (PacketInterface.room limits.request) {} message next
  show PacketInterface.receive port limits.request s = _
  rw [PacketInterface.receive]
  simp only [port] at taken ⊢
  rw [taken]
  simp only [PacketInterface.accept_messagePackets hs]

theorem receive_of_error {s' : ScriptedPacketPort} {e : InterfaceError}
    (broken : port.readMessage s.packetSize (PacketInterface.room limits.request) {} s =
      some (.error e, s')) : (interface limits).receive s = some (.error e, s') := by
  show PacketInterface.receive port limits.request s = _
  rw [PacketInterface.receive]
  simp only [port] at broken ⊢
  rw [broken]

/-- A read that fails gives up the message before its end. -/
theorem receive_failed {full : List Bytes} {d : Delivery} {f : IoFailure}
    (wholes : ∀ p ∈ full, p.length = s.packetSize) (failed : d.read = .error (.io f))
    (next : s.reads = (full.map Delivery.arrives ++ d :: ds).map Delivery.read) :
    (interface limits).receive s =
      some (.error (.io f), { s with reads := ds.map Delivery.read }) := by
  refine receive_of_error limits ((readMessage_full wholes {} next).trans ?_)
  exact PacketPort.readMessage_of_error _ (read_failed failed rfl)

theorem receive_closed {full : List Bytes} (wholes : ∀ p ∈ full, p.length = s.packetSize)
    (next : s.reads = (full.map Delivery.arrives).map Delivery.read) :
    (interface limits).receive s = some (.error .closed, { s with reads := [] }) := by
  have next : s.reads = (full.map Delivery.arrives ++ []).map Delivery.read := by
    rw [next, List.append_nil]
  refine receive_of_error limits ((readMessage_full wholes {} next).trans ?_)
  exact PacketPort.readMessage_of_error _ (read_closed rfl)

/-- What one receive makes of what is to be read, and what it leaves. -/
inductive Received (size limit : Nat) (ds : List Delivery) :
    Except InterfaceError Request → List Delivery → Prop where
  | message {message : Bytes} {rest : List Delivery}
      (split : ds = Delivery.ofMessage size message ++ rest) :
      Received size limit ds (PacketInterface.verdict limit message) rest
  | failed {full : List Bytes} {d : Delivery} {rest : List Delivery} {f : IoFailure}
      (split : ds = full.map .arrives ++ d :: rest) (failed : d.read = .error (.io f)) :
      Received size limit ds (.error (.io f)) rest
  | closed {full : List Bytes} (split : ds = full.map .arrives) :
      Received size limit ds (.error .closed) []

theorem receive_received (hs : 0 < s.packetSize) (next : s.reads = ds.map Delivery.read)
    (fit : ∀ p ∈ ds.filterMap Delivery.packet?, p.length ≤ s.packetSize) :
    ∃ r rest, (interface limits).receive s =
        some (r, { s with reads := rest.map Delivery.read }) ∧
      Received s.packetSize limits.request ds r rest := by
  rcases deliveries_cases hs fit with ⟨message, rest, rfl⟩ | ⟨full, rest, rfl, wholes, ends⟩
  · exact ⟨_, rest, receive_ofMessage limits hs message next, .message rfl⟩
  cases rest with
  | nil =>
    rw [List.append_nil] at next ⊢
    exact ⟨_, [], receive_closed limits wholes next, .closed rfl⟩
  | cons d rest =>
    obtain ⟨f, failed⟩ := ends d rest rfl
    exact ⟨_, rest, receive_failed limits wholes failed next, .failed rfl failed⟩

theorem writeEach_reads (ps : List Bytes) (s : ScriptedPacketPort) :
    ∃ writes written, (port.writeEach ps s).2 = { s with writes, written } := by
  induction ps generalizing s with
  | nil => exact ⟨s.writes, s.written, rfl⟩
  | cons p rest ih =>
    rcases hw : port.write p s with ⟨r, s'⟩
    have hs' : s' = (port.write p s).2 := (congrArg Prod.snd hw).symm
    obtain ⟨writes, written, rfl⟩ : ∃ writes written, s' = { s with writes, written } := by
      simp only [hs', port, write]
      split <;> exact ⟨_, _, rfl⟩
    cases r with
    | error e =>
      rw [PacketPort.writeEach, Attempt.bind_of_error hw]
      exact ⟨writes, written, rfl⟩
    | ok u =>
      rw [PacketPort.writeEach, Attempt.bind_of_ok hw]
      exact ih _

/-- Sending changes nothing that is to be read. -/
theorem send_reads (response : Response) (s : ScriptedPacketPort) :
    ∃ writes written, ((interface limits).send response s).2 = { s with writes, written } := by
  show ∃ writes written, (PacketInterface.send port limits.response response s).2 = _
  rw [PacketInterface.send]
  by_cases long : limits.response < response.payload.length
  · exact ⟨s.writes, s.written, by simp [long, Attempt.bind_apply]⟩
  cases he : response.encode with
  | error e => exact ⟨s.writes, s.written, by simp [long, Attempt.bind_apply, Attempt.mapError]⟩
  | ok message =>
    obtain ⟨writes, written, sent⟩ := writeEach_reads (messagePackets s.packetSize message) s
    exact ⟨writes, written, by simpa [long, Attempt.bind_apply, Attempt.mapError, port] using sent⟩

variable {limits}

/-- The states in which the interface is asked for a request: at first, after each receive, and
after each response that is sent in between. -/
inductive Reached (limits : PayloadLimits) (start : ScriptedPacketPort) :
    ScriptedPacketPort → Prop where
  | start : Reached limits start start
  | received {s s' : ScriptedPacketPort} {r : Except InterfaceError Request}
      (before : Reached limits start s) (receive : (interface limits).receive s = some (r, s')) :
      Reached limits start s'
  | sent {s : ScriptedPacketPort} (before : Reached limits start s) (response : Response) :
      Reached limits start ((interface limits).send response s).2

/-- A request is asked for when some of what is to be read is gone and the rest is to come. -/
structure Asked (limits : PayloadLimits) (start : ScriptedPacketPort)
    (deliveries gone coming : List Delivery) (s : ScriptedPacketPort) : Prop where
  reached : Reached limits start s
  packetSize_eq : s.packetSize = start.packetSize
  split : deliveries = gone ++ coming
  reads_eq : s.reads = coming.map Delivery.read

/-- What comes next is taken for a request. -/
def Takes (limits : PayloadLimits) (start : ScriptedPacketPort)
    (deliveries gone taken : List Delivery) (r : Request) : Prop :=
  ∃ later s s', Asked limits start deliveries gone (taken ++ later) s ∧
    (interface limits).receive s = some (.ok r, s') ∧ s'.reads = later.map Delivery.read

/-- What was read last ended a receive. -/
def Ended (size : Nat) (gone : List Delivery) : Prop :=
  ∀ d ∈ gone.getLast?, d.Failed ∨ ∃ p, d = .arrives p ∧ p.length < size

theorem Received.of_ok {rest : List Delivery} {r : Except InterfaceError Request} {q : Request}
    (received : Received size limit ds r rest) (ok : r = .ok q) :
    ∃ message, ds = Delivery.ofMessage size message ++ rest ∧
      PacketInterface.verdict limit message = .ok q := by
  cases received with
  | message split => exact ⟨_, split, ok⟩
  | failed _ _ => cases ok
  | closed _ => cases ok

/-- A receive reads on to the end of a message or to a failure, or to the end of all. -/
theorem Received.ended {rest : List Delivery} {r : Except InterfaceError Request}
    (hs : 0 < size) (received : Received size limit ds r rest) :
    ∃ read, ds = read ++ rest ∧ (rest ≠ [] → ∀ gone, Ended size (gone ++ read)) := by
  cases received with
  | @message message _ split =>
    obtain ⟨full, last, hpackets, _, short⟩ := messagePackets_ends hs message
    refine ⟨Delivery.ofMessage size message, split, fun _ gone d hd => ?_⟩
    rw [Delivery.ofMessage, hpackets, List.map_append, ← List.append_assoc,
      List.map_singleton, List.getLast?_concat, Option.mem_some] at hd
    exact .inr ⟨last, hd.symm, short⟩
  | @failed full d _ f split failed =>
    refine ⟨full.map .arrives ++ [d], by simp [split], fun _ gone d' hd => ?_⟩
    rw [← List.append_assoc, List.getLast?_concat, Option.mem_some] at hd
    exact .inl ⟨f, hd ▸ failed⟩
  | closed _ => exact ⟨ds, (List.append_nil ds).symm, fun more => absurd rfl more⟩

/-- A receive reads no further than to the next failure. -/
theorem Received.before_failure {d : Delivery} {before after rest : List Delivery}
    {r : Except InterfaceError Request} (hs : 0 < size) (failed : d.Failed)
    (received : Received size limit (before ++ d :: after) r rest) :
    (rest = after) ∨
      ∃ read before', before = read ++ before' ∧ read ≠ [] ∧ rest = before' ++ d :: after := by
  cases received with
  | @message message _ split =>
    obtain ⟨before', hbefore, hrest⟩ := failed.behind_arrives split.symm
    exact .inr ⟨_, before', hbefore, by simp [messagePackets_ne_nil hs], hrest⟩
  | @failed full d' _ f split _ =>
    obtain ⟨before', hbefore, hrest⟩ := failed.behind_arrives split.symm
    cases before' with
    | nil => exact .inl (List.cons.inj hrest).2
    | cons b before' =>
      obtain ⟨rfl, later⟩ := List.cons.inj hrest
      exact .inr ⟨full.map .arrives ++ [d'], before', by simp [hbefore], by simp, later⟩
  | @closed full split =>
    have split : full.map .arrives ++ [] = before ++ d :: after := by
      rw [List.append_nil, split]
    obtain ⟨_, _, none⟩ := failed.behind_arrives split
    simp at none

section Run

variable {start : ScriptedPacketPort} {deliveries gone coming : List Delivery}
  (hs : 0 < start.packetSize)
  (fit : ∀ p ∈ deliveries.filterMap Delivery.packet?, p.length ≤ start.packetSize)
include hs fit

/-- What a receive leaves is what the next one is asked for. -/
theorem Asked.received (h : Asked limits start deliveries gone coming s) :
    ∃ r rest s', (interface limits).receive s = some (r, s') ∧
      Received start.packetSize limits.request coming r rest ∧
      ∀ read, coming = read ++ rest → Asked limits start deliveries (gone ++ read) rest s' := by
  have fits : ∀ p ∈ coming.filterMap Delivery.packet?, p.length ≤ s.packetSize := by
    intro p hp
    rw [h.packetSize_eq]
    refine fit p ?_
    rw [h.split, List.filterMap_append]
    exact List.mem_append_right _ hp
  obtain ⟨r, rest, received, spec⟩ :=
    receive_received limits (h.packetSize_eq ▸ hs) h.reads_eq fits
  refine ⟨r, rest, _, received, h.packetSize_eq ▸ spec, fun read hread => ?_⟩
  exact ⟨.received h.reached received, h.packetSize_eq, by rw [h.split, hread, List.append_assoc],
    rfl⟩

/-- Whenever a request is asked for and more is to come, what was read last has ended a receive. -/
theorem Reached.asked (script : start.reads = deliveries.map Delivery.read)
    (h : Reached limits start s) :
    ∃ gone coming, Asked limits start deliveries gone coming s ∧
      (coming ≠ [] → Ended start.packetSize gone) := by
  induction h with
  | start => exact ⟨[], deliveries, ⟨.start, rfl, rfl, script⟩, by simp [Ended]⟩
  | @received s s' r before receive ih =>
    obtain ⟨gone, coming, asked, _⟩ := ih
    obtain ⟨r', rest, s'', received, spec, next⟩ := asked.received hs fit
    cases receive.symm.trans received
    obtain ⟨read, hread, ended⟩ := spec.ended hs
    exact ⟨gone ++ read, rest, next read hread, fun more => ended more gone⟩
  | @sent s before response ih =>
    obtain ⟨gone, coming, asked, ended⟩ := ih
    have reached := Reached.sent before response
    obtain ⟨writes, written, hsend⟩ := send_reads limits response s
    rw [hsend] at reached ⊢
    exact ⟨gone, coming, ⟨reached, asked.packetSize_eq, asked.split, asked.reads_eq⟩, ended⟩

/-- Every read that fails ends a receive, so that a request is asked for right behind it. -/
theorem exists_asked_behind {d : Delivery} (failed : d.Failed) {before after : List Delivery}
    (h : Asked limits start deliveries gone (before ++ d :: after) s) :
    ∃ s', Asked limits start deliveries (gone ++ (before ++ [d])) after s' := by
  -- a receive reads some of what is before the failure, or up to it
  induction hn : before.length using Nat.strongRecOn generalizing before gone s with
  | ind n ih =>
    obtain ⟨r, rest, s', _, spec, next⟩ := h.received hs fit
    rcases spec.before_failure hs failed with rfl | ⟨read, before', rfl, some, rfl⟩
    · exact ⟨s', next _ (by simp)⟩
    · have fewer : before'.length < n := by
        have := List.length_pos_iff.mpr some
        rw [← hn, List.length_append]
        omega
      obtain ⟨s'', asked⟩ := ih _ fewer (next read (List.append_assoc _ _ _)) rfl
      exact ⟨s'', by simpa using asked⟩

/-- Where more is to come, what was read last has ended a receive. -/
theorem Asked.ended (script : start.reads = deliveries.map Delivery.read)
    (h : Asked limits start deliveries gone coming s) (more : coming ≠ []) :
    Ended start.packetSize gone := by
  obtain ⟨gone', coming', asked, ended⟩ := h.reached.asked hs fit script
  have length : coming.length = coming'.length := by
    simpa using congrArg List.length (h.reads_eq.symm.trans asked.reads_eq)
  obtain ⟨rfl, rfl⟩ := List.append_inj' (h.split.symm.trans asked.split) length
  exact ended more

end Run

/-- What is taken for a request is a whole message of the stream. -/
def Whole (size limit : Nat) (messages : List Bytes) (gone taken : List Delivery) (r : Request) :
    Prop :=
  ∃ message, ArrivedAt size messages (gone.filterMap Delivery.packet?) message 0 ∧
    taken = Delivery.ofMessage size message ∧ PacketInterface.verdict limit message = .ok r

/-- A read fails inside a message, and the rest of the message arrives. -/
def BrokenOff (size : Nat) (messages : List Bytes) (deliveries : List Delivery) (tail : Bytes) :
    Prop :=
  ∃ before d after message k, deliveries = before ++ d :: (Delivery.ofMessage size tail ++ after) ∧
    d.Failed ∧ ArrivedAt size messages ((before ++ [d]).filterMap Delivery.packet?) message k ∧
    0 < k ∧ tail = message.drop (k * size)

section Run

variable {start : ScriptedPacketPort} {deliveries gone taken : List Delivery}
  {messages : List Bytes} {r : Request} (hs : 0 < start.packetSize)
  (script : start.reads = deliveries.map Delivery.read)
  (sent : deliveries.filterMap Delivery.packet? <+:
    messages.flatMap (messagePackets start.packetSize))
include hs script sent

/-- What is taken for a request is a message of the stream from some packet on to its end, and it
is from the first unless a read failed right before. -/
theorem Takes.tail (h : Takes limits start deliveries gone taken r) :
    ∃ message k, ArrivedAt start.packetSize messages (gone.filterMap Delivery.packet?) message k ∧
      taken = Delivery.ofMessage start.packetSize (message.drop (k * start.packetSize)) ∧
      PacketInterface.verdict limits.request (message.drop (k * start.packetSize)) = .ok r ∧
      (0 < k → ∃ before d, gone = before ++ [d] ∧ d.Failed) := by
  obtain ⟨later, s, s', asked, receive, left⟩ := h
  have fit := fits_of_sent hs sent
  obtain ⟨r', rest, s'', received, spec, next⟩ := asked.received hs fit
  cases receive.symm.trans received
  obtain ⟨octets, split, verdict⟩ := spec.of_ok rfl
  have length : later.length = rest.length := by
    simpa using congrArg List.length (left.symm.trans (next _ split).reads_eq)
  obtain ⟨rfl, rfl⟩ := List.append_inj' split length
  have some := messagePackets_ne_nil hs octets
  have ended := asked.ended hs fit script (by simp [Delivery.ofMessage, some])
  obtain ⟨coming, stream⟩ := sent
  rw [asked.split, List.filterMap_append, List.filterMap_append, Delivery.filterMap_ofMessage,
    List.append_assoc, List.append_assoc] at stream
  obtain ⟨message, k, _, arrived, hback⟩ := exists_arrivedAt hs stream.symm (by simp [some])
  obtain ⟨rfl, _⟩ := messagePackets_append_inj hs hback
  refine ⟨message, k, arrived, rfl, verdict, fun inside => ?_⟩
  -- the packet in front is full, and so has not ended the receive before
  obtain ⟨init, p, hfront, full⟩ := arrived.full_of_pos hs inside
  rcases List.eq_nil_or_concat gone with rfl | ⟨before, d, hgone⟩
  · simp at hfront
  rw [List.concat_eq_append] at hgone
  subst hgone
  refine ⟨before, d, rfl, ?_⟩
  rcases ended d (by simp) with failed | ⟨q, rfl, short⟩
  · exact failed
  · rw [List.filterMap_append] at hfront
    cases (List.append_inj' hfront rfl).2
    omega

/-- Whatever a request is taken from, it is whole unless a read failed right before. Requests are
all whole as long as the rest of a message that is broken off is never one by itself. -/
theorem takes_whole_iff :
    (∀ gone taken r, Takes limits start deliveries gone taken r →
      Whole start.packetSize limits.request messages gone taken r) ↔
    ∀ tail r, BrokenOff start.packetSize messages deliveries tail →
      PacketInterface.verdict limits.request tail ≠ .ok r := by
  have fit := fits_of_sent hs sent
  constructor
  · rintro whole tail r ⟨before, d, after, message, k, split, failed, arrived, inside, _⟩ verdict
    have first : Asked limits start deliveries [] (before ++ d :: _) start :=
      ⟨.start, rfl, split, split ▸ script⟩
    obtain ⟨s, asked⟩ := exists_asked_behind hs fit failed first
    have receive := receive_ofMessage limits (asked.packetSize_eq ▸ hs) tail
      (asked.packetSize_eq ▸ asked.reads_eq)
    rw [verdict] at receive
    obtain ⟨start', begins, _⟩ := whole (before ++ [d]) _ r ⟨after, s, _, asked, receive, rfl⟩
    exact absurd (arrived.eq_zero hs begins) (Nat.ne_of_gt inside)
  · intro apart gone taken r takes
    obtain ⟨message, k, arrived, rfl, verdict, behind⟩ := takes.tail hs script sent
    rcases Nat.eq_zero_or_pos k with rfl | inside
    · rw [Nat.zero_mul, List.drop_zero] at verdict ⊢
      exact ⟨message, arrived, rfl, verdict⟩
    · obtain ⟨before, d, rfl, failed⟩ := behind inside
      obtain ⟨later, _, _, asked, _⟩ := takes
      refine absurd verdict (apart _ r ⟨before, d, later, message, k, ?_, failed, arrived, inside,
        rfl⟩)
      rw [asked.split]
      simp

end Run

/-- Whatever reads fail on a packet link, a request that is received is one message of the stream
from some packet on to its end, and it is the whole message unless a read failed right before.
Every request is a whole message exactly as long as no failure leaves the rest of a message that
is a request by itself. -/
theorem requests_whole_iff_unbroken {start : ScriptedPacketPort} (hs : 1 ≤ start.packetSize)
    (limits : PayloadLimits) {messages : List Bytes} {deliveries : List Delivery}
    (script : start.reads = deliveries.map Delivery.read)
    (sent : deliveries.filterMap Delivery.packet? <+:
      messages.flatMap (messagePackets start.packetSize)) :
    ((∀ gone taken r, Takes limits start deliveries gone taken r →
      Whole start.packetSize limits.request messages gone taken r) ↔
      ∀ tail r, BrokenOff start.packetSize messages deliveries tail →
        PacketInterface.verdict limits.request tail ≠ .ok r) ∧
    ∀ gone taken r, Takes limits start deliveries gone taken r → ∃ message k,
      ArrivedAt start.packetSize messages (gone.filterMap Delivery.packet?) message k ∧
      taken = Delivery.ofMessage start.packetSize (message.drop (k * start.packetSize)) ∧
      PacketInterface.verdict limits.request (message.drop (k * start.packetSize)) = .ok r ∧
      (0 < k → ∃ before d, gone = before ++ [d] ∧ d.Failed) :=
  ⟨takes_whole_iff hs script sent, fun _ _ _ takes => takes.tail hs script sent⟩

/-- The first read of a message of twelve octets, a read that fails, and the second; then a message
of nine octets. -/
def brokenOff : List Delivery :=
  [.arrives [0, 0, 0, 0, 2, 0, 4, 0], .fails .timedOut, .arrives [3, 0, 0, 0],
    .arrives [0, 0, 0, 0, 2, 0, 1, 0], .arrives [7]]

def brokenOffMessages : List Bytes :=
  [[0, 0, 0, 0, 2, 0, 4, 0, 3, 0, 0, 0], [0, 0, 0, 0, 2, 0, 1, 0, 7]]

def brokenOffPort : ScriptedPacketPort := { packetSize := 8, reads := brokenOff.map Delivery.read }

theorem messagePackets_brokenOff :
    messagePackets 8 [0, 0, 0, 0, 2, 0, 4, 0, 3, 0, 0, 0] =
        [[0, 0, 0, 0, 2, 0, 4, 0], [3, 0, 0, 0]] ∧
      messagePackets 8 [0, 0, 0, 0, 2, 0, 1, 0, 7] = [[0, 0, 0, 0, 2, 0, 1, 0], [7]] := by
  constructor
  · rw [messagePackets_of_le (by decide) (by decide), messagePackets_of_lt (by decide)]
    rfl
  · rw [messagePackets_of_le (by decide) (by decide), messagePackets_of_lt (by decide)]
    rfl

/-- Only the first message is broken off, behind its first packet, and its other four octets are no
request. -/
theorem brokenOff_apart {tail : Bytes} (broken : BrokenOff 8 brokenOffMessages brokenOff tail)
    (r : Request) : PacketInterface.verdict 512 tail ≠ .ok r := by
  obtain ⟨before, d, after, message, k, split, failed, arrived, inside, rfl⟩ := broken
  have split : ([[0, 0, 0, 0, 2, 0, 4, 0]] : List Bytes).map Delivery.arrives ++
      brokenOff.drop 1 = before ++ d :: _ := split
  obtain ⟨before, rfl, behind⟩ := failed.behind_arrives split
  cases before with
  | cons b before =>
    have rest : ([[3, 0, 0, 0], [0, 0, 0, 0, 2, 0, 1, 0], [7]] : List Bytes).map
        Delivery.arrives ++ [] = before ++ d :: _ := (List.cons.inj behind).2
    obtain ⟨_, _, none⟩ := failed.behind_arrives rest
    simp at none
  | nil =>
    cases (List.cons.inj behind).1
    obtain rfl := arrived.in_first (by rw [messagePackets_brokenOff.1]; decide)
    have one : k = 1 := by
      have : k * 8 ≤ 12 := arrived.within
      omega
    cases one
    have refused : PacketInterface.verdict 512 [3, 0, 0, 0] =
      .error (.malformed (.truncatedHeader 4 8)) := rfl
    exact fun taken => nomatch refused.symm.trans taken

/-- The second message is received, behind an error for each of the reads of the first. -/
theorem brokenOff_takes : Takes .protocolMinimum brokenOffPort brokenOff (brokenOff.take 3)
    (brokenOff.drop 3) ⟨⟨0, 0, 2⟩, [7]⟩ := by
  have hs : 0 < 8 := by decide
  have first : brokenOffPort.reads = (([[0, 0, 0, 0, 2, 0, 4, 0]] : List Bytes).map
      Delivery.arrives ++ .fails .timedOut :: brokenOff.drop 2).map Delivery.read := rfl
  have failed := receive_failed .protocolMinimum (d := .fails .timedOut) (by decide) rfl first
  have short : (brokenOff.drop 2).map Delivery.read =
      (Delivery.ofMessage 8 [3, 0, 0, 0] ++ brokenOff.drop 3).map Delivery.read := by
    rw [Delivery.ofMessage_of_lt (by decide)]
    rfl
  have refused := receive_ofMessage .protocolMinimum
    (s := { brokenOffPort with reads := (brokenOff.drop 2).map Delivery.read }) hs _ short
  have whole : Delivery.ofMessage 8 [0, 0, 0, 0, 2, 0, 1, 0, 7] = brokenOff.drop 3 := by
    rw [Delivery.ofMessage, messagePackets_brokenOff.2]
    rfl
  have last : (brokenOff.drop 3).map Delivery.read =
      (Delivery.ofMessage 8 [0, 0, 0, 0, 2, 0, 1, 0, 7] ++ []).map Delivery.read := by
    rw [whole]
    rfl
  have taken := receive_ofMessage .protocolMinimum
    (s := { brokenOffPort with reads := (brokenOff.drop 3).map Delivery.read }) hs _ last
  exact ⟨[], _, _, ⟨.received (.received .start failed) refused, rfl, rfl, rfl⟩, taken, rfl⟩

/-- All that is taken for a request there are whole messages, and one is. -/
theorem requests_whole_iff_unbroken_of_eights :
    (∀ gone taken r, Takes .protocolMinimum brokenOffPort brokenOff gone taken r →
      Whole 8 512 brokenOffMessages gone taken r) ∧
    Takes .protocolMinimum brokenOffPort brokenOff (brokenOff.take 3) (brokenOff.drop 3)
      ⟨⟨0, 0, 2⟩, [7]⟩ := by
  have sent : brokenOff.filterMap Delivery.packet? <+:
      brokenOffMessages.flatMap (messagePackets 8) := by
    simp only [brokenOffMessages, List.flatMap_cons, messagePackets_brokenOff]
    exact List.prefix_rfl
  have nonzero : 1 ≤ brokenOffPort.packetSize := by decide
  have script : brokenOffPort.reads = brokenOff.map Delivery.read := rfl
  exact ⟨(requests_whole_iff_unbroken nonzero .protocolMinimum script sent).1.mpr
    fun _ r broken => brokenOff_apart broken r, brokenOff_takes⟩

/-- One message of sixteen octets, with a read that fails in its middle. -/
def halved : List Delivery :=
  [.arrives [0, 0, 0, 0, 2, 0, 8, 0], .fails .timedOut, .arrives [3, 0, 0, 0, 1, 0, 0, 0],
    .arrives []]

/-- All that is sent is one request, with eight octets of payload for the function 2 of class 0.
The interface receives a request for the function 1 of class 3 instead, which nobody has sent. -/
theorem tail_taken_for_request :
    let start : ScriptedPacketPort := { packetSize := 8, reads := halved.map Delivery.read }
    let message : Bytes := [0, 0, 0, 0, 2, 0, 8, 0, 3, 0, 0, 0, 1, 0, 0, 0]
    halved.filterMap Delivery.packet? = [message].flatMap (messagePackets 8) ∧
    PacketInterface.verdict 512 message = .ok ⟨⟨0, 0, 2⟩, [3, 0, 0, 0, 1, 0, 0, 0]⟩ ∧
    ∃ s s', (interface .protocolMinimum).receive start = some (.error (.io .timedOut), s) ∧
      (interface .protocolMinimum).receive s = some (.ok ⟨⟨3, 0, 1⟩, []⟩, s') ∧ s'.reads = [] ∧
      ¬ Whole 8 512 [message] (halved.take 2) (halved.drop 2) ⟨⟨3, 0, 1⟩, []⟩ := by
  intro start message
  have hs : 0 < 8 := by decide
  have tail : messagePackets 8 [3, 0, 0, 0, 1, 0, 0, 0] = [[3, 0, 0, 0, 1, 0, 0, 0], []] := by
    rw [messagePackets_of_le hs (by decide), messagePackets_of_lt (by decide)]
    rfl
  have all : messagePackets 8 message =
      [[0, 0, 0, 0, 2, 0, 8, 0], [3, 0, 0, 0, 1, 0, 0, 0], []] :=
    tail ▸ messagePackets_append (p := [0, 0, 0, 0, 2, 0, 8, 0]) hs rfl _
  have broken : start.reads = (([[0, 0, 0, 0, 2, 0, 8, 0]] : List Bytes).map Delivery.arrives ++
      .fails .timedOut :: halved.drop 2).map Delivery.read := rfl
  have failed := receive_failed .protocolMinimum (d := .fails .timedOut) (by decide) rfl broken
  have rest : (halved.drop 2).map Delivery.read =
      (Delivery.ofMessage 8 [3, 0, 0, 0, 1, 0, 0, 0] ++ []).map Delivery.read := by
    rw [Delivery.ofMessage, tail]
    rfl
  have taken := receive_ofMessage .protocolMinimum
    (s := { start with reads := (halved.drop 2).map Delivery.read }) hs
    [3, 0, 0, 0, 1, 0, 0, 0] rest
  refine ⟨by simp only [List.flatMap_cons, all]; rfl, rfl, _, _, failed, taken, rfl, ?_⟩
  rintro ⟨start', begins, _, _⟩
  have inside : ArrivedAt 8 [message] ((halved.take 2).filterMap Delivery.packet?) message 1 :=
    ⟨[], [], rfl, by decide, by rw [all]; rfl⟩
  exact absurd (inside.eq_zero hs begins) (by decide)

end ScriptedPacketPort

end PeripheralBridge
