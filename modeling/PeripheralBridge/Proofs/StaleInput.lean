import PeripheralBridge.Proofs.StreamHearing
import PeripheralBridge.Proofs.StreamReturn

/-!
# Input from before an exchange

What waits to be read when an exchange begins has no part in its answer if the port can be
purged: the exchange comes to the same whatever was there. A purge that fails is passed over,
and a response that was there already is then taken for the answer.
-/

namespace PeripheralBridge

/-- An attempt comes to the same whatever waits to be read, and puts new input behind it. -/
def Blind {σ ε α : Type} (holding : List ReadResult → σ → σ) (x : Attempt σ ε α) (s : σ) : Prop :=
  ∃ new, ∀ input, x (holding input s) = ((x s).1, holding (input ++ new) (x s).2)

/-- The input of a port is a buffer apart from the rest of it. A purge empties the buffer, or
fails and leaves it. -/
structure BytePort.Buffered {σ : Type} (port : BytePort σ) (coming : σ → List ReadResult)
    (holding : List ReadResult → σ → σ) : Prop extends port.Plays coming where
  coming_holding : ∀ input s, coming (holding input s) = input
  holding_coming : ∀ s, holding (coming s) s = s
  holding_holding : ∀ input other s, holding input (holding other s) = holding input s
  write_blind : ∀ data s, Blind holding (port.write data) s
  flush_blind : ∀ s, Blind holding port.flush s
  purge_done : ∀ s s', port.purge s = (.ok (), s') →
    ∀ input, port.purge (holding input s) = (.ok (), s')
  purge_failed : ∀ s s' e, port.purge s = (.error e, s') →
    ∀ input, port.purge (holding input s) = (.error e, holding input s')

/-- What a purge leaves of the input that waits. -/
def leftBy : Except IoFailure Unit → List ReadResult → List ReadResult
  | .ok _, _ => []
  | .error _, waiting => waiting

namespace ScriptedPort

def holding (input : List ReadResult) (p : ScriptedPort) : ScriptedPort := { p with input }

theorem buffered : port.Buffered ScriptedPort.input holding where
  toPlays := plays
  coming_holding _ _ := rfl
  holding_coming _ := rfl
  holding_holding _ _ _ := rfl
  write_blind data p := by
    refine ⟨[], fun input => ?_⟩
    rw [List.append_nil]
    simp only [port, sink, write, holding]
    split <;> rfl
  flush_blind p := by
    simp only [port, sink, Blind, flush, holding]
    split
    · exact ⟨p.replies.headD [], fun input => rfl⟩
    · exact ⟨p.replies.headD [], fun input => rfl⟩
    · refine ⟨[], fun input => ?_⟩
      rw [List.append_nil]
  purge_done p p' h input := by
    simp only [port, purge] at h
    simp only [port, purge, holding]
    split at h
    · injection h with _ h
      rw [← h]
    · injection h with _ h
      rw [← h]
    · cases h
  purge_failed p p' e h input := by
    simp only [port, purge] at h
    simp only [port, purge, holding]
    split at h
    · cases h
    · cases h
    · injection h with he h
      rw [he, ← h]

end ScriptedPort

section Blind

variable {σ ε δ α β : Type} {holding : List ReadResult → σ → σ} {x : Attempt σ ε α} {s s' : σ}

theorem Blind.step (blind : Blind holding x s) {r : Except ε α} (h : x s = (r, s')) :
    ∃ new, ∀ input, x (holding input s) = (r, holding (input ++ new) s') := by
  rwa [Blind, h] at blind

theorem Blind.bind {f : α → Attempt σ ε β} (first : Blind holding x s)
    (next : ∀ a s', x s = (.ok a, s') → Blind holding (f a) s') : Blind holding (x >>= f) s := by
  rcases h : x s with ⟨r, s'⟩
  obtain ⟨new, hx⟩ := first.step h
  cases r with
  | error e =>
    refine ⟨new, fun input => ?_⟩
    rw [Attempt.bind_of_error (hx input), Attempt.bind_of_error h]
  | ok a =>
    obtain ⟨more, hf⟩ := next a s' h
    refine ⟨new ++ more, fun input => ?_⟩
    rw [Attempt.bind_of_ok (hx input), hf, Attempt.bind_of_ok h, List.append_assoc]

theorem Blind.mapError (blind : Blind holding x s) (rename : ε → δ) :
    Blind holding (x.mapError rename) s := by
  rcases h : x s with ⟨r, s'⟩
  obtain ⟨new, hx⟩ := blind.step h
  refine ⟨new, fun input => ?_⟩
  cases r with
  | error e => rw [Attempt.mapError_of_error (hx input), Attempt.mapError_of_error h]
  | ok a => rw [Attempt.mapError_of_ok (hx input), Attempt.mapError_of_ok h]

end Blind

section Exchange

variable {σ : Type} {port : BytePort σ} {coming : σ → List ReadResult}
  {holding : List ReadResult → σ → σ}

namespace BytePort.Buffered

variable (buffered : port.Buffered coming holding)

include buffered

theorem writeAll_blind (data : Bytes) (s : σ) : Blind holding (port.writeAll data) s := by
  induction data, s using ByteSink.writeAll.induct port.toByteSink with
  | case1 s =>
    refine ⟨[], fun input => ?_⟩
    rw [ByteSink.writeAll_nil, ByteSink.writeAll_nil, List.append_nil]
  | case2 data s hd s' hw =>
    obtain ⟨new, written⟩ := (buffered.write_blind data s).step hw
    refine ⟨new, fun input => ?_⟩
    rw [ByteSink.writeAll_of_ne_nil _ hd, written, ByteSink.writeAll_of_ne_nil _ hd, hw]
  | case3 data s hd n s' hw ih =>
    obtain ⟨new, written⟩ := (buffered.write_blind data s).step hw
    obtain ⟨more, next⟩ := ih
    refine ⟨new ++ more, fun input => ?_⟩
    rw [ByteSink.writeAll_of_ne_nil _ hd, written, ByteSink.writeAll_of_ne_nil _ hd, hw]
    simp only [next, List.append_assoc]
  | case4 data s hd e s' hw ht ih =>
    obtain ⟨new, written⟩ := (buffered.write_blind data s).step hw
    obtain ⟨more, next⟩ := ih
    refine ⟨new ++ more, fun input => ?_⟩
    rw [ByteSink.writeAll_of_ne_nil _ hd, written, ByteSink.writeAll_of_ne_nil _ hd, hw]
    simp only [if_pos ht, next, List.append_assoc]
  | case5 data s hd e s' hw ht =>
    obtain ⟨new, written⟩ := (buffered.write_blind data s).step hw
    refine ⟨new, fun input => ?_⟩
    rw [ByteSink.writeAll_of_ne_nil _ hd, written, ByteSink.writeAll_of_ne_nil _ hd, hw]
    simp only [if_neg ht]

theorem coming_purged (s : σ) : coming (port.purge s).2 = leftBy (port.purge s).1 (coming s) := by
  rcases h : port.purge s with ⟨opening, s'⟩
  cases opening with
  | ok _ => exact buffered.purged s s' h
  | error e =>
    have kept := buffered.purge_failed s s' e h (coming s)
    rw [buffered.holding_coming, h] at kept
    rw [(Prod.mk.inj kept).2, buffered.coming_holding]
    rfl

theorem send_blind (timeout : Duration) (message : Bytes) (s : σ) :
    Blind holding (StreamLink.send port timeout message) s := by
  refine ((buffered.writeAll_blind message s).bind ?_).mapError _
  intro _ s' _
  exact buffered.flush_blind s'

end BytePort.Buffered

namespace StreamLink

variable {header : RequestHeader} {payload : Bytes} {l : StreamLink σ} {r : Response}

theorem sent_of_answered (answered : (exchange port header payload l).1 = .ok r) :
    ∃ s, send port l.config.timeout (header.bytes ++ payload) (port.purge l.port).2 =
      (.ok (), s) := by
  rcases h : send port l.config.timeout (header.bytes ++ payload) (port.purge l.port).2 with
    ⟨result, s⟩
  cases result with
  | ok _ => exact ⟨s, rfl⟩
  | error e =>
    rw [exchange_eq, Attempt.bind_of_error h] at answered
    cases answered

variable (buffered : port.Buffered coming holding)

include buffered

/-- Once the port has been purged, it makes no difference what was there. -/
theorem exchange_of_purged {s : σ} (done : port.purge l.port = (.ok (), s))
    (input : List ReadResult) (header : RequestHeader) (payload : Bytes) :
    exchange port header payload { l with port := holding input l.port } =
      exchange port header payload l := by
  rw [exchange_eq, exchange_eq, done, buffered.purge_done _ _ done input]

/-- A response that waits behind a purge that fails is taken for the answer. -/
theorem answered_by_waiting {s : σ} {e : IoFailure} (failed : port.purge l.port = (.error e, s))
    (answered : (exchange port header payload l).1 = .ok r) (waiting : Response)
    (declarable : waiting.payload.length ≤ declarableMax)
    (fits : waiting.payload.length ≤ l.config.limits.response) :
    (exchange port header payload { l with port := holding [.ok waiting.octets] l.port }).1 =
      .ok waiting := by
  obtain ⟨s₁, sent⟩ := sent_of_answered answered
  rw [failed] at sent
  obtain ⟨new, hsend⟩ := (buffered.send_blind _ _ s).step sent
  have sent' : send port l.config.timeout (header.bytes ++ payload)
      (port.purge (holding [.ok waiting.octets] l.port)).2 =
        (.ok (), holding (.ok waiting.octets :: new) s₁) := by
    rw [buffered.purge_failed _ _ _ failed]
    exact hsend [.ok waiting.octets]
  obtain ⟨_, _, _, answer, _, _, heard, exchanged, _⟩ := exchange_heard buffered.toPlays
    (l := { l with port := holding [.ok waiting.octets] l.port }) sent'
  rw [exchanged]
  refine (heard.ok_iff waiting).mpr ⟨⟨_, Response.encode_octets declarable, ?_⟩, fits⟩
  rw [buffered.coming_holding, delivered_cons_ok waiting.octets_ne_nil]
  exact List.prefix_append _ _

/-- What sending a request brings to be read, whatever waits. -/
theorem coming_of_sent {s₀ s : σ} {timeout : Duration} {message : Bytes}
    (sent : send port timeout message s₀ = (.ok (), s)) :
    ∃ new, coming s = coming s₀ ++ new ∧
      ∀ input, coming (send port timeout message (holding input s₀)).2 = input ++ new := by
  obtain ⟨new, hsend⟩ := (buffered.send_blind timeout message s₀).step sent
  refine ⟨new, ?_, fun input => ?_⟩
  · have same := hsend (coming s₀)
    rw [buffered.holding_coming, sent] at same
    rw [(Prod.mk.inj same).2, buffered.coming_holding]
  · rw [hsend, buffered.coming_holding]

/-- An answer is the same whatever waited if and only if the port was purged. -/
theorem answer_apart_iff (answered : (exchange port header payload l).1 = .ok r) :
    (port.purge l.port).1 = .ok () ↔
      ∀ input, (exchange port header payload { l with port := holding input l.port }).1 =
        .ok r := by
  rcases h : port.purge l.port with ⟨opening, s⟩
  constructor
  · rintro rfl input
    rw [exchange_of_purged buffered h, answered]
  · intro same
    cases opening with
    | ok _ => rfl
    | error e =>
      -- Either of two responses could have waited.
      have zero := answered_by_waiting buffered h answered ⟨0, []⟩ (Nat.zero_le _) (Nat.zero_le _)
      have one := answered_by_waiting buffered h answered ⟨1, []⟩ (Nat.zero_le _) (Nat.zero_le _)
      rw [same] at zero one
      exact absurd (Except.ok.inj (zero.symm.trans one)) (by decide)

theorem answer_begins (answered : (exchange port header payload l).1 = .ok r) :
    ∃ octets new, r.encode = .ok octets ∧
      octets <+: delivered (leftBy (port.purge l.port).1 (coming l.port) ++ new) ∧
      ∀ input, coming (send port l.config.timeout (header.bytes ++ payload)
        (holding input (port.purge l.port).2)).2 = input ++ new := by
  obtain ⟨s, sent⟩ := sent_of_answered answered
  obtain ⟨_, _, _, answer, taken, _, heard, exchanged, _⟩ := exchange_heard buffered.toPlays sent
  rw [exchanged] at answered
  obtain ⟨⟨octets, encoded, begins⟩, _⟩ := (heard.ok_iff r).mp answered
  obtain ⟨new, hcoming, brought⟩ := coming_of_sent buffered sent
  rw [hcoming, buffered.coming_purged] at begins
  exact ⟨octets, new, encoded, begins, brought⟩

end StreamLink

end Exchange

/-- Input that comes when nothing was asked, and the request that is made then. -/
structure Occasion where
  late : List ReadResult
  header : RequestHeader
  payload : Bytes

def Occasion.request (o : Occasion) : RequestHeader × Bytes := (o.header, o.payload)

/-- What came of an exchange, and of the purge that begins it. -/
structure Hearing where
  opening : Except IoFailure Unit
  answer : Except LinkError Response

section Run

variable {σ : Type} {port : BytePort σ} {coming : σ → List ReadResult}
  {holding : List ReadResult → σ → σ}

namespace StreamLink

/-- Late input is behind what waits already. -/
def withLate (coming : σ → List ReadResult) (holding : List ReadResult → σ → σ)
    (late : List ReadResult) (l : StreamLink σ) : StreamLink σ :=
  { l with port := holding (coming l.port ++ late) l.port }

/-- Make an exchange on each occasion. -/
def exchangeEach (port : BytePort σ) (coming : σ → List ReadResult)
    (holding : List ReadResult → σ → σ) :
    List Occasion → StreamLink σ → List Hearing × StreamLink σ
  | [], l => ([], l)
  | o :: rest, l =>
    let l := l.withLate coming holding o.late
    let (answer, next) := exchange port o.header o.payload l
    let (others, last) := exchangeEach port coming holding rest next
    (⟨(port.purge l.port).1, answer⟩ :: others, last)

theorem exchangeEach_cons (o : Occasion) (rest : List Occasion) (l : StreamLink σ) :
    (exchangeEach port coming holding (o :: rest) l).1 =
      ⟨(port.purge (l.withLate coming holding o.late).port).1,
        (exchange port o.header o.payload (l.withLate coming holding o.late)).1⟩ ::
      (exchangeEach port coming holding rest
        (exchange port o.header o.payload (l.withLate coming holding o.late)).2).1 := rfl

variable (buffered : port.Buffered coming holding) {l : StreamLink σ}

include buffered

theorem withLate_of_held (late other input : List ReadResult) (l : StreamLink σ) :
    withLate coming holding other { l with port := holding input l.port } =
      { l.withLate coming holding late with
        port := holding (input ++ other) (l.withLate coming holding late).port } := by
  simp only [withLate, buffered.coming_holding, buffered.holding_holding]

/-- As long as the port is purged before each request, a run of exchanges comes to the same
whatever waits at first and whatever comes late. -/
theorem exchangeEach_of_purged {occasions others : List Occasion}
    (same : others.map Occasion.request = occasions.map Occasion.request)
    (done : ∀ x ∈ (exchangeEach port coming holding occasions l).1, x.opening = .ok ())
    (input : List ReadResult) :
    (exchangeEach port coming holding others { l with port := holding input l.port }).1 =
      (exchangeEach port coming holding occasions l).1 := by
  induction occasions generalizing others l input with
  | nil =>
    rw [List.map_nil, List.map_eq_nil_iff] at same
    rw [same]
    rfl
  | cons o rest ih =>
    obtain ⟨o', rest', rfl, hrequest, hrest⟩ := List.map_eq_cons_iff.mp same
    obtain ⟨hheader, hpayload⟩ := Prod.mk.inj hrequest
    rw [exchangeEach_cons] at done
    have opened := done _ List.mem_cons_self
    obtain ⟨s, purged⟩ : ∃ s, port.purge (l.withLate coming holding o.late).port = (.ok (), s) :=
      ⟨_, Prod.ext opened rfl⟩
    have step := exchange_of_purged buffered purged (input ++ o'.late) o.header o.payload
    have again := buffered.purge_done _ _ purged (input ++ o'.late)
    have next := ih hrest (fun x hx => done x (List.mem_cons_of_mem _ hx))
      (coming (exchange port o.header o.payload (l.withLate coming holding o.late)).2.port)
    rw [buffered.holding_coming] at next
    rw [exchangeEach_cons, exchangeEach_cons, withLate_of_held buffered o.late, hheader, hpayload,
      step, again, purged, next]

/-- In a run of exchanges, with input coming late before any of them, an answer is the same
whatever waited when its exchange began if and only if the port was purged then. It is read from
what the purge left and from what sending the request brought. If the port is purged every time,
the whole run comes to the same whatever waits at first and comes late. -/
theorem answers_apart_iff_purged (occasions : List Occasion) (l : StreamLink σ) :
    (∀ before o after, occasions = before ++ o :: after → ∀ begun r,
      begun = withLate coming holding o.late (exchangeEach port coming holding before l).2 →
      (exchange port o.header o.payload begun).1 = .ok r →
      ((port.purge begun.port).1 = .ok () ↔
        ∀ input, (exchange port o.header o.payload
          { begun with port := holding input begun.port }).1 = .ok r) ∧
      ∃ octets new, r.encode = .ok octets ∧
        octets <+: delivered (leftBy (port.purge begun.port).1 (coming begun.port) ++ new) ∧
        ∀ input, coming (send port begun.config.timeout (o.header.bytes ++ o.payload)
          (holding input (port.purge begun.port).2)).2 = input ++ new) ∧
    ((∀ x ∈ (exchangeEach port coming holding occasions l).1, x.opening = .ok ()) →
      ∀ others, others.map Occasion.request = occasions.map Occasion.request →
        ∀ input,
          (exchangeEach port coming holding others { l with port := holding input l.port }).1 =
            (exchangeEach port coming holding occasions l).1) := by
  constructor
  · intro before o after _ begun r _ answered
    exact ⟨answer_apart_iff buffered answered, answer_begins buffered answered⟩
  · intro done others same input
    exact exchangeEach_of_purged buffered same done input

end StreamLink

end Run

namespace ScriptedPort

/-- A port that takes a message as it is and then has the next reply behind what waits. -/
theorem send_at_once {p : ScriptedPort} (writes : p.writes = []) (flushes : p.flushes = [])
    {message : Bytes} (hm : message ≠ []) (timeout : Duration) :
    StreamLink.send port timeout message p =
      (.ok (), { p with
        input := p.input ++ p.replies.headD []
        replies := p.replies.tail
        flushCount := p.flushCount + 1
        written := p.written ++ message }) := by
  have taken : port.write message p =
      (.ok message.length, { p with written := p.written ++ message }) := by
    simp [port, sink, write, writes]
  refine StreamLink.send_of_whole hm taken ?_ timeout
  simp [port, sink, flush, flushes]

/-- A port that is silent after a first request and answers a second. -/
def silentAtFirst (purges : List (Except IoFailure Unit)) : ScriptedPort where
  purges
  replies := [[], [.ok [0, 0, 1, 0, 2]]]

def twoRequests (late : List ReadResult) : List Occasion :=
  [⟨[], ⟨⟨3, 0, 0⟩, 1⟩, [1]⟩, ⟨late, ⟨⟨3, 0, 0⟩, 1⟩, [2]⟩]

/-- The same port before the second request. -/
def beforeSecond (purges : List (Except IoFailure Unit)) : ScriptedPort where
  purges
  replies := [[.ok [0, 0, 1, 0, 2]]]
  flushCount := 1
  purgeCount := 2
  written := [3, 0, 0, 0, 0, 0, 1, 0, 1]

theorem exchange_first (purges : List (Except IoFailure Unit)) :
    StreamLink.exchange port ⟨⟨3, 0, 0⟩, 1⟩ [1]
        { port := silentAtFirst (.ok () :: .ok () :: purges) } =
      (.error (.timeout .responseHeader defaultTimeout), { port := beforeSecond purges }) := by
  have sent := send_at_once
    (p := { silentAtFirst (.ok () :: purges) with purgeCount := 1 }) rfl rfl
    (List.cons_ne_nil 3 [0, 0, 0, 0, 0, 1, 0, 1]) defaultTimeout
  refine (StreamLink.exchange_of_send
    (l := { port := silentAtFirst (.ok () :: .ok () :: purges) }) sent).trans ?_
  rw [StreamLink.receive_of_silence rfl]
  rfl

/-- The second request is answered by the response that can be read first. -/
theorem exchange_second {p s : ScriptedPort} (purged : (port.purge p).2 = s)
    (writes : s.writes = []) (flushes : s.flushes = []) {r : Response}
    (declarable : r.payload.length ≤ declarableMax) (fits : r.payload.length ≤ minimumPayload)
    {more : List ReadResult} (first : s.input ++ s.replies.headD [] = .ok r.octets :: more) :
    (StreamLink.exchange port ⟨⟨3, 0, 0⟩, 1⟩ [2] { port := p }).1 = .ok r := by
  have sent := send_at_once writes flushes (List.cons_ne_nil 3 [0, 0, 0, 0, 0, 1, 0, 2])
    defaultTimeout
  rw [first, ← purged] at sent
  obtain ⟨_, _, _, answer, _, _, heard, exchanged, _⟩ :=
    @StreamLink.exchange_heard _ port _ plays { port := p } ⟨⟨3, 0, 0⟩, 1⟩ [2] _ sent
  rw [exchanged]
  refine (heard.ok_iff r).mpr ⟨⟨r.octets, Response.encode_octets declarable, ?_⟩, fits⟩
  rw [delivered_cons_ok r.octets_ne_nil]
  exact List.prefix_append _ _

theorem exchangeEach_twoRequests (purges : List (Except IoFailure Unit))
    (late : List ReadResult) :
    (StreamLink.exchangeEach port ScriptedPort.input holding (twoRequests late)
        { port := silentAtFirst (.ok () :: .ok () :: purges) }).1 =
      [⟨.ok (), .error (.timeout .responseHeader defaultTimeout)⟩,
        ⟨(port.purge { beforeSecond purges with input := late }).1,
          (StreamLink.exchange port ⟨⟨3, 0, 0⟩, 1⟩ [2]
            { port := { beforeSecond purges with input := late } }).1⟩] := by
  have begun : StreamLink.withLate ScriptedPort.input holding []
      { port := silentAtFirst (.ok () :: .ok () :: purges) } =
        { port := silentAtFirst (.ok () :: .ok () :: purges) } := rfl
  rw [twoRequests, StreamLink.exchangeEach_cons, StreamLink.exchangeEach_cons, begun,
    exchange_first]
  rfl

/-- A late response to the first request has no part in the answer to the second, and nothing
else that waits has. -/
theorem answers_apart_purged :
    (∀ input, (StreamLink.exchange port ⟨⟨3, 0, 0⟩, 1⟩ [2]
      { port := { beforeSecond [.ok ()] with input } }).1 = .ok ⟨0, [2]⟩) ∧
    ∀ late input,
      (StreamLink.exchangeEach port ScriptedPort.input holding (twoRequests late)
        { port := holding input (silentAtFirst [.ok (), .ok (), .ok ()]) }).1 =
      [⟨.ok (), .error (.timeout .responseHeader defaultTimeout)⟩, ⟨.ok (), .ok ⟨0, [2]⟩⟩] := by
  obtain ⟨each, run⟩ := StreamLink.answers_apart_iff_purged buffered
    (twoRequests [.ok [0, 0, 1, 0, 1]]) { port := silentAtFirst [.ok (), .ok (), .ok ()] }
  have answered : (StreamLink.exchange port ⟨⟨3, 0, 0⟩, 1⟩ [2]
      { port := { beforeSecond [.ok ()] with input := [.ok [0, 0, 1, 0, 1]] } }).1 =
        .ok ⟨0, [2]⟩ :=
    exchange_second (r := ⟨0, [2]⟩) rfl rfl rfl (by decide) (by decide) rfl
  have begun : { port := { beforeSecond [.ok ()] with input := [.ok [0, 0, 1, 0, 1]] } } =
      StreamLink.withLate ScriptedPort.input holding [.ok [0, 0, 1, 0, 1]]
        (StreamLink.exchangeEach port ScriptedPort.input holding [⟨[], ⟨⟨3, 0, 0⟩, 1⟩, [1]⟩]
          { port := silentAtFirst [.ok (), .ok (), .ok ()] }).2 := by
    change _ = StreamLink.withLate _ _ _ (StreamLink.exchange port ⟨⟨3, 0, 0⟩, 1⟩ [1]
      { port := silentAtFirst [.ok (), .ok (), .ok ()] }).2
    rw [exchange_first]
    rfl
  constructor
  · obtain ⟨apart, _⟩ := each [⟨[], ⟨⟨3, 0, 0⟩, 1⟩, [1]⟩] _ [] rfl _ _ begun answered
    exact apart.mp rfl
  · intro late input
    rw [run ?_ (twoRequests late) rfl input, exchangeEach_twoRequests, answered]
    · rfl
    · rw [exchangeEach_twoRequests, answered]
      simp [port, purge, beforeSecond]

/-- A late response is taken for the answer to the next request if the port cannot be purged;
without it the answer would have been another. -/
theorem late_input_taken :
    (StreamLink.exchangeEach port ScriptedPort.input holding (twoRequests [.ok [0, 0, 1, 0, 1]])
        { port := silentAtFirst [.ok (), .ok (), .error ⟨.other, none⟩] }).1 =
      [⟨.ok (), .error (.timeout .responseHeader defaultTimeout)⟩,
        ⟨.error ⟨.other, none⟩, .ok ⟨0, [1]⟩⟩] ∧
    (StreamLink.exchangeEach port ScriptedPort.input holding (twoRequests [])
        { port := silentAtFirst [.ok (), .ok (), .error ⟨.other, none⟩] }).1 =
      [⟨.ok (), .error (.timeout .responseHeader defaultTimeout)⟩,
        ⟨.error ⟨.other, none⟩, .ok ⟨0, [2]⟩⟩] := by
  constructor
  · rw [exchangeEach_twoRequests, exchange_second (r := ⟨0, [1]⟩) rfl rfl rfl (by decide)
      (by decide) rfl]
    rfl
  · rw [exchangeEach_twoRequests, exchange_second (r := ⟨0, [2]⟩) rfl rfl rfl (by decide)
      (by decide) rfl]
    rfl

end ScriptedPort

end PeripheralBridge
