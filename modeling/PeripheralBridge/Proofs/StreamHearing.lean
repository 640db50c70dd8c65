import PeripheralBridge.Proofs.StreamInput
import PeripheralBridge.Proofs.Wire

/-!
# What an exchange hears on a byte stream

A response is taken octet by octet from what the line delivers, however it comes, and
nothing behind it is read. The octets that are delivered and the way the input ends decide
what an exchange comes to.
-/

namespace PeripheralBridge

/-- The line may still carry what an exchange with this result has not read. -/
def leavesInput : Except LinkError Response → Bool
  | .error (.timeout _ _) => true
  | .error (.malformed _) => true
  | _ => false

theorem leavesInput_error (stop : InputEnd) (stage : ExchangeStage) (timeout : Duration) :
    leavesInput (.error (stop.error stage timeout)) = (stop.error stage timeout).isTimeout := by
  cases stop with
  | closed => rfl
  | failed e =>
    rcases e with ⟨kind, detail⟩
    cases kind <;> rfl

/-- What an exchange makes of the octets a stream delivers before it ends, and the octets that it
reads to find out. -/
inductive Heard (limit : Nat) (timeout : Duration) (given : Bytes) (stop : InputEnd) :
    Except LinkError Response → Bytes → Prop where
  | short (few : given.length < responseHeaderSize) :
      Heard limit timeout given stop (.error (stop.error .responseHeader timeout)) given
  | tooLarge (head : responseHeaderSize ≤ given.length) (exceeds : limit < wordAt 2 given) :
      Heard limit timeout given stop
        (.error (.malformed (.payloadTooLarge (wordAt 2 given) limit)))
        (given.take responseHeaderSize)
  | cut (head : responseHeaderSize ≤ given.length) (fits : wordAt 2 given ≤ limit)
      (few : given.length < responseHeaderSize + wordAt 2 given) :
      Heard limit timeout given stop (.error (stop.error .responsePayload timeout)) given
  | answered (r : Response) (rest : Bytes) (declarable : r.payload.length ≤ declarableMax)
      (fits : r.payload.length ≤ limit) (begins : given = r.octets ++ rest) :
      Heard limit timeout given stop (.ok r) r.octets

namespace StreamLink

variable {σ : Type} {port : BytePort σ} {coming : σ → List ReadResult}

section Head

variable {config : LinkConfig} {h : ResponseHeader} {s s₁ s₂ : σ} {events more : List PortEvent}
  (first : Logged (port.readFull .responseHeader config.timeout responseHeaderSize)
    (port.recorded.readFull .responseHeader config.timeout responseHeaderSize) s events
    (.ok h.bytes) s₁)

theorem header_logged (h : ResponseHeader) (s : σ) :
    Logged ((Attempt.ofExcept (ResponseHeader.read h.bytes)).mapError LinkError.malformed)
      ((Attempt.ofExcept (ResponseHeader.read h.bytes)).mapError LinkError.malformed) s []
      (.ok (h, [])) s := by
  have hread := ResponseHeader.read_bytes_append h []
  rw [List.append_nil] at hread
  rw [hread]
  exact (Logged.of_except _ s).mapError_ok LinkError.malformed

include first

theorem receive_logged_over (exceeds : config.limits.response < h.payloadLength.toNat) :
    Logged (receive port config) (receive port.recorded config) s
      (events ++ [.purge (port.purge s₁).1])
      (.error (.malformed (.payloadTooLarge h.payloadLength.toNat config.limits.response)))
      (port.purge s₁).2 := by
  refine first.bind ((header_logged h s₁).bind (f := _) (g := _) ?_)
  simp only [checkPayload, if_pos exceeds]
  exact Logged.purged port _ s₁

theorem receive_logged_body (fits : h.payloadLength.toNat ≤ config.limits.response)
    {r : Except LinkError Bytes}
    (body : Logged (port.readFull .responsePayload config.timeout h.payloadLength.toNat)
      (port.recorded.readFull .responsePayload config.timeout h.payloadLength.toNat) s₁ more
      r s₂) :
    Logged (receive port config) (receive port.recorded config) s (events ++ more)
      (r.map fun payload => ⟨h.code, payload⟩) s₂ := by
  refine first.bind ((header_logged h s₁).bind (f := _) (g := _) ?_)
  simp only [checkPayload, if_neg (Nat.not_lt.mpr fits)]
  cases r with
  | error e => exact body.bind_error
  | ok payload =>
    have whole := body.bind (f := fun payload => pure (⟨h.code, payload⟩ : Response))
      (g := fun payload => pure ⟨h.code, payload⟩) (Logged.pure _ s₂)
    rwa [List.append_nil] at whole

end Head

/-- A receive that comes to `r` by some reads, and by a purge at the end if input may be left. -/
structure Hears (port : BytePort σ) (coming : σ → List ReadResult) (config : LinkConfig) (s : σ)
    (reads purges : List PortEvent) (r : Except LinkError Response) (taken : Bytes) (s' : σ) :
    Prop where
  heard : Heard config.limits.response config.timeout (delivered (coming s)) (inputEnd (coming s))
    r taken
  logged : Logged (receive port config) (receive port.recorded config) s (reads ++ purges) r s'
  all_read : ∀ e ∈ reads, e.IsRead
  given : reads.flatMap PortEvent.given = taken
  purged : PurgedIf port (leavesInput r) purges s'

/-- Behind a header, what it declares is too much, is there as a whole, or is cut short. -/
theorem hears_behind_header (plays : port.Plays coming) {config : LinkConfig} {h : ResponseHeader}
    {s s₁ : σ} {reads : List PortEvent}
    (first : Logged (port.readFull .responseHeader config.timeout responseHeaderSize)
      (port.recorded.readFull .responseHeader config.timeout responseHeaderSize) s reads
      (.ok h.bytes) s₁)
    (all : ∀ e ∈ reads, e.IsRead) (hgiven : reads.flatMap PortEvent.given = h.bytes)
    (split : delivered (coming s) = h.bytes ++ delivered (coming s₁))
    (same : inputEnd (coming s₁) = inputEnd (coming s)) :
    ∃ reads purges r taken s', Hears port coming config s reads purges r taken s' := by
  have declared : h.payloadLength.toNat = wordAt 2 (delivered (coming s)) := by
    rw [split]
    exact (Response.format.declared_last h _).symm
  have hlen : (delivered (coming s)).length =
      responseHeaderSize + (delivered (coming s₁)).length := by
    rw [split, List.length_append, ResponseHeader.length_bytes]
  have head : responseHeaderSize ≤ (delivered (coming s)).length := by omega
  by_cases exceeds : config.limits.response < h.payloadLength.toNat
  · have received := receive_logged_over first exceeds
    have htake : (delivered (coming s)).take responseHeaderSize = h.bytes := by
      rw [split, List.take_left' (ResponseHeader.length_bytes h)]
    rw [declared] at exceeds received
    exact ⟨reads, _, _, _, _, .tooLarge head exceeds, received, all, hgiven.trans htake.symm,
      .purged s₁⟩
  have fits := Nat.le_of_not_lt exceeds
  by_cases enough : h.payloadLength.toNat ≤ (delivered (coming s₁)).length
  · obtain ⟨more, s₂, body, allMore, hmore, _, _⟩ :=
      plays.readFull_enough .responsePayload config.timeout s₁ enough
    have whole := List.length_take_of_le enough
    have hoctets := Response.octets_of_header h whole
    have bound := h.payloadLength.toNat_lt
    refine ⟨reads ++ more, [], _, _, s₂, .answered
      ⟨h.code, (delivered (coming s₁)).take h.payloadLength.toNat⟩
      ((delivered (coming s₁)).drop h.payloadLength.toNat) ?_ ?_ ?_, ?_, ?_, ?_, .left s₂⟩
    · rw [declarableMax, whole]
      omega
    · rw [whole]
      exact fits
    · rw [hoctets, List.append_assoc, List.take_append_drop, split]
    · rw [List.append_nil]
      exact receive_logged_body first fits body
    · exact List.forall_mem_append.mpr ⟨all, allMore⟩
    · rw [List.flatMap_append, hgiven, hmore, hoctets]
  · obtain ⟨more, purges, s₂, body, allMore, hmore, purged⟩ :=
      plays.readFull_few .responsePayload config.timeout s₁ (Nat.lt_of_not_le enough)
    rw [same] at body purged
    rw [← leavesInput_error] at purged
    refine ⟨reads ++ more, purges, _, _, s₂, .cut head (declared ▸ fits) (by omega), ?_, ?_, ?_,
      purged⟩
    · rw [List.append_assoc]
      exact receive_logged_body first fits body
    · exact List.forall_mem_append.mpr ⟨all, allMore⟩
    · rw [List.flatMap_append, hgiven, hmore, split]

theorem receive_hears (plays : port.Plays coming) (config : LinkConfig) (s : σ) :
    ∃ reads purges r taken s', Hears port coming config s reads purges r taken s' := by
  by_cases head : responseHeaderSize ≤ (delivered (coming s)).length
  · obtain ⟨reads, s₁, first, all, hgiven, hleft, hend⟩ :=
      plays.readFull_enough .responseHeader config.timeout s head
    obtain ⟨h, behind, hr, _⟩ := Response.format.read_of_length_le head
    have split : delivered (coming s) = h.bytes ++ behind := ResponseHeader.eq_of_read hr
    rw [split, List.take_left' (ResponseHeader.length_bytes h)] at first hgiven
    rw [split, List.drop_left' (ResponseHeader.length_bytes h)] at hleft
    rw [← hleft] at split
    exact hears_behind_header plays first all hgiven split hend
  · have few := Nat.lt_of_not_le head
    obtain ⟨reads, purges, s', first, all, hgiven, purged⟩ :=
      plays.readFull_few .responseHeader config.timeout s few
    rw [← leavesInput_error] at purged
    exact ⟨reads, purges, _, _, s', .short few, first.bind_error, all, hgiven, purged⟩

def asked (port : BytePort σ) (header : RequestHeader) (payload : Bytes) (l : StreamLink σ) :
    List PortEvent :=
  (exchange port.recorded header payload ⟨(l.port, []), l.config⟩).2.port.2

/-- An exchange whose message goes out purges, writes, flushes, reads, and purges again if the
line may still carry what it has not read. -/
theorem exchange_heard (plays : port.Plays coming) {l : StreamLink σ} {header : RequestHeader}
    {payload : Bytes} {s : σ}
    (sent : send port l.config.timeout (header.bytes ++ payload) (port.purge l.port).2 =
      (.ok (), s)) :
    ∃ writes reads purges r taken s',
      Heard l.config.limits.response l.config.timeout (delivered (coming s)) (inputEnd (coming s))
        r taken ∧
      exchange port header payload l = (r, { l with port := s' }) ∧
      asked port header payload l =
        .purge (port.purge l.port).1 :: (writes ++ .flush (.ok ()) :: (reads ++ purges)) ∧
      (∀ e ∈ writes, e.IsWrite) ∧ writes.flatMap PortEvent.taken = header.bytes ++ payload ∧
      (∀ e ∈ reads, e.IsRead) ∧ reads.flatMap PortEvent.given = taken ∧
      PurgedIf port (leavesInput r) purges s' := by
  obtain ⟨writes, wrote, allWrites, htaken⟩ := send_logged sent
  obtain ⟨reads, purges, r, taken, s', heard, received, allReads, hgiven, purged⟩ :=
    receive_hears plays l.config s
  refine ⟨writes, reads, purges, r, taken, s', heard, ?_, ?_, allWrites, htaken, allReads, hgiven,
    purged⟩
  · rw [exchange_of_send sent, received.plain]
  · have logged := wrote.logged [.purge (port.purge l.port).1]
    rw [asked, exchange_of_send (l := ⟨(l.port, []), l.config⟩) logged, received.logged]
    simp

end StreamLink

namespace Heard

variable {limit : Nat} {timeout : Duration} {given taken : Bytes} {stop : InputEnd}
  {answer : Except LinkError Response}

theorem wordAt_octets {r : Response} (declarable : r.payload.length ≤ declarableMax)
    (rest : Bytes) : wordAt 2 (r.octets ++ rest) = r.payload.length := by
  have last := Response.format.declared_last ⟨r.code, UInt16.ofNat r.payload.length⟩
    (r.payload ++ rest)
  rw [Response.octets, List.append_assoc]
  exact last.trans (toNat_lengthField declarable)

/-- Octets that begin with two responses begin with one. -/
theorem octets_prefix_unique {r r' : Response} {rest rest' : Bytes}
    (declarable : r.payload.length ≤ declarableMax)
    (declarable' : r'.payload.length ≤ declarableMax)
    (same : r.octets ++ rest = r'.octets ++ rest') : r = r' := by
  have hlen : r.payload.length = r'.payload.length := by
    rw [← wordAt_octets declarable rest, same, wordAt_octets declarable']
  have hoctets : r.octets = r'.octets := by
    refine (List.append_inj same ?_).1
    rw [r.length_octets, r'.length_octets, hlen]
  have decoded := Response.decode_octets declarable r.payload.length
  rw [hoctets, Response.decode_octets declarable', Response.within, Response.within, ← hlen,
    if_neg (Nat.lt_irrefl _), if_neg (Nat.lt_irrefl _)] at decoded
  exact (Except.ok.inj decoded).symm

theorem ok_iff (heard : Heard limit timeout given stop answer taken) (r : Response) :
    answer = .ok r ↔
      (∃ octets, r.encode = .ok octets ∧ octets <+: given) ∧ r.payload.length ≤ limit := by
  constructor
  · rintro rfl
    cases heard with
    | answered r rest declarable fits begins =>
      exact ⟨⟨r.octets, Response.encode_octets declarable, rest, begins.symm⟩, fits⟩
  · rintro ⟨⟨octets, encoded, rest, hrest⟩, fits⟩
    obtain ⟨declarable, hoctets⟩ := Response.format.encode_eq_ok_iff.mp (r.encode_eq ▸ encoded)
    have begins : given = r.octets ++ rest := by
      rw [← hrest, ← hoctets]
      rfl
    have hword : wordAt 2 given = r.payload.length := begins ▸ wordAt_octets declarable rest
    have hlen : given.length = responseHeaderSize + r.payload.length + rest.length := by
      rw [begins, List.length_append, r.length_octets]
    have declarable : r.payload.length ≤ declarableMax := declarable
    cases heard with
    | short few => omega
    | tooLarge head exceeds => omega
    | cut head within few => omega
    | answered r' rest' declarable' fits' begins' =>
      have same := octets_prefix_unique declarable' declarable (begins'.symm.trans begins)
      rw [same]

theorem tooLarge_iff (heard : Heard limit timeout given stop answer taken) (size max : Nat) :
    answer = .error (.malformed (.payloadTooLarge size max)) ↔
      responseHeaderSize ≤ given.length ∧ limit < wordAt 2 given ∧ size = wordAt 2 given ∧
        max = limit := by
  cases heard with
  | short few =>
    refine iff_of_false (fun h => ?_) (fun h => absurd h.1 (Nat.not_le.mpr few))
    exact stop.error_ne_malformed _ _ _ (Except.error.inj h)
  | tooLarge head exceeds =>
    constructor
    · intro h
      cases h
      exact ⟨head, exceeds, rfl, rfl⟩
    · rintro ⟨-, -, rfl, rfl⟩
      rfl
  | cut head fits few =>
    refine iff_of_false (fun h => ?_) (fun h => absurd h.2.1 (Nat.not_lt.mpr fits))
    exact stop.error_ne_malformed _ _ _ (Except.error.inj h)
  | answered r rest declarable fits begins =>
    refine iff_of_false (fun h => by cases h) (fun h => ?_)
    rw [begins, wordAt_octets declarable rest] at h
    exact absurd h.2.1 (Nat.not_lt.mpr fits)

/-- What is neither a response nor too large is told from the end of the input, at the stage that
the octets have reached. -/
theorem otherwise (heard : Heard limit timeout given stop answer taken)
    (unanswered : ∀ r, answer ≠ .ok r)
    (within : ∀ size max, answer ≠ .error (.malformed (.payloadTooLarge size max))) :
    answer = .error (stop.error
      (if given.length < responseHeaderSize then .responseHeader else .responsePayload)
      timeout) := by
  cases heard with
  | short few => rw [if_pos few]
  | tooLarge head exceeds => exact absurd rfl (within _ _)
  | cut head fits few => rw [if_neg (Nat.not_lt.mpr head)]
  | answered r rest declarable fits begins => exact absurd rfl (unanswered r)

/-- An answer is the octets that were read. -/
theorem encode_taken {r : Response} (heard : Heard limit timeout given stop (.ok r) taken) :
    r.encode = .ok taken := by
  cases heard with
  | answered r rest declarable fits begins => exact Response.encode_octets declarable

end Heard

namespace StreamLink

variable {σ : Type} {port : BytePort σ} {coming : σ → List ReadResult}

/-- A request that goes out is the octets that the port takes. What comes of it is decided by the
octets that become readable before the input ends, and by how it ends: a response is taken if they
begin with it, and read to its last octet; a header that declares too much is refused; anything
else fails as the input ends, at the header or behind it. Input is purged before the request, and
again if what is left may be part of a response. -/
theorem exchange_unfragmented (plays : port.Plays coming) {l : StreamLink σ} {q : Request}
    {header : RequestHeader} (headed : q.header = .ok header) {s : σ}
    (sent : send port l.config.timeout (header.bytes ++ q.payload) (port.purge l.port).2 =
      (.ok (), s)) :
    ∃ writes reads purges answer s',
      exchange port header q.payload l = (answer, { l with port := s' }) ∧
      asked port header q.payload l =
        .purge (port.purge l.port).1 :: (writes ++ .flush (.ok ()) :: (reads ++ purges)) ∧
      (∀ e ∈ writes, e.IsWrite) ∧ q.encode = .ok (writes.flatMap PortEvent.taken) ∧
      (∀ e ∈ reads, e.IsRead) ∧
      (∀ r, answer = .ok r → r.encode = .ok (reads.flatMap PortEvent.given)) ∧
      (∀ r, answer = .ok r ↔
        (∃ octets, r.encode = .ok octets ∧ octets <+: delivered (coming s)) ∧
          r.payload.length ≤ l.config.limits.response) ∧
      (∀ size max, answer = .error (.malformed (.payloadTooLarge size max)) ↔
        responseHeaderSize ≤ (delivered (coming s)).length ∧
          l.config.limits.response < wordAt 2 (delivered (coming s)) ∧
          size = wordAt 2 (delivered (coming s)) ∧ max = l.config.limits.response) ∧
      ((∀ r, answer ≠ .ok r) →
        (∀ size max, answer ≠ .error (.malformed (.payloadTooLarge size max))) →
        answer = .error ((inputEnd (coming s)).error
          (if (delivered (coming s)).length < responseHeaderSize then .responseHeader
            else .responsePayload) l.config.timeout)) ∧
      (leavesInput answer = true →
        ∃ result, purges = [.purge result] ∧ (result = .ok () → coming s' = [])) ∧
      (leavesInput answer = false → purges = []) := by
  obtain ⟨writes, reads, purges, answer, taken, s', heard, hexchange, hasked, allWrites, htaken,
    allReads, hgiven, purged⟩ := exchange_heard plays sent
  refine ⟨writes, reads, purges, answer, s', hexchange, hasked, allWrites, ?_, allReads, ?_,
    heard.ok_iff, heard.tooLarge_iff, heard.otherwise, ?_, ?_⟩
  · rw [htaken, Request.encode, headed]
    rfl
  · rintro r rfl
    rw [hgiven]
    exact heard.encode_taken
  · intro leaves
    rw [leaves] at purged
    cases purged with
    | purged s₁ =>
      refine ⟨_, rfl, ?_⟩
      intro done
      exact plays.purged s₁ _ (Prod.ext done rfl)
  · intro leaves
    rw [leaves] at purged
    cases purged with
    | left s₁ => rfl

/-- A port that takes a request in two pieces and gives its response in two, each time with an
interruption between them, and with one octet before the response and one behind. -/
def inPieces : ScriptedPort where
  writes := [.ok (some 3), .error ⟨.interrupted, none⟩]
  input := [.ok [9]]
  replies := [[.ok [0], .error ⟨.interrupted, none⟩, .ok [0, 1, 0, 7, 9]]]

theorem send_inPieces :
    send ScriptedPort.port defaultTimeout [3, 0, 0, 0, 2, 0, 1, 0, 5]
        (ScriptedPort.port.purge inPieces).2 =
      (.ok (), { inPieces with
        writes := []
        input := [.ok [0], .error ⟨.interrupted, none⟩, .ok [0, 1, 0, 7, 9]]
        replies := []
        flushCount := 1
        purgeCount := 1
        written := [3, 0, 0, 0, 2, 0, 1, 0, 5] }) := by
  have written : ScriptedPort.sink.writeAll [3, 0, 0, 0, 2, 0, 1, 0, 5]
      (ScriptedPort.port.purge inPieces).2 =
        (.ok (), { inPieces with
          writes := []
          input := []
          purgeCount := 1
          written := [3, 0, 0, 0, 2, 0, 1, 0, 5] }) := by
    rw [ByteSink.writeAll_of_ne_nil _ (by simp)]
    change ScriptedPort.sink.writeAll _ _ = _
    rw [ByteSink.writeAll_of_ne_nil _ (by simp)]
    change ScriptedPort.sink.writeAll _ _ = _
    rw [ByteSink.writeAll_of_ne_nil _ (by simp)]
    exact ByteSink.writeAll_nil _ _
  exact Attempt.mapError_of_ok ((Attempt.bind_of_ok written _).trans rfl) _

theorem exchange_unfragmented_pieces :
    ∃ writes reads s',
      exchange ScriptedPort.port ⟨⟨3, 0, 2⟩, 1⟩ [5] { port := inPieces } =
        (.ok ⟨0, [7]⟩, { port := s' }) ∧
      asked ScriptedPort.port ⟨⟨3, 0, 2⟩, 1⟩ [5] { port := inPieces } =
        .purge (.ok ()) :: (writes ++ .flush (.ok ()) :: reads) ∧
      writes.flatMap PortEvent.taken = [3, 0, 0, 0, 2, 0, 1, 0, 5] ∧
      reads.flatMap PortEvent.given = [0, 0, 1, 0, 7] := by
  obtain ⟨writes, reads, purges, answer, s', exchanged, asked, -, encoded, -, whole, taken, -, -, -,
    left⟩ := exchange_unfragmented (l := { port := inPieces }) (q := ⟨⟨3, 0, 2⟩, [5]⟩)
      ScriptedPort.plays rfl send_inPieces
  have answered : answer = .ok ⟨0, [7]⟩ := (taken _).mpr ⟨⟨_, rfl, [9], rfl⟩, by decide⟩
  subst answered
  rw [left rfl, List.append_nil] at asked
  exact ⟨writes, reads, s', exchanged, asked, (Except.ok.inj encoded).symm,
    (Except.ok.inj (whole _ rfl)).symm⟩

end StreamLink

end PeripheralBridge
