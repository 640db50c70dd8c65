import PeripheralBridge.Proofs.Wire
import PeripheralBridge.Simulated.Uart

/-!
# Requests in a receive queue

What waits in a receive queue is some requests and a tail that begins with none, in one way
only. The requests are taken one by one. The tail is given up as a whole, for a length over
the limit or for silence in the middle of a request, and nothing of it is left for the
requests that arrive after it.
-/

namespace PeripheralBridge

/-- A header can declare the payload of the request, and an interface takes it. -/
structure Request.Acceptable (limit : Nat) (r : Request) : Prop where
  fits : r.payload.length ≤ limit
  declarable : r.payload.length ≤ declarableMax

def Request.stream (requests : List Request) : Bytes := requests.flatMap octets

/-- The payload length that a header at the front of some octets declares. -/
def Request.declared (bytes : Bytes) : Nat := wordAt (requestHeaderSize - 2) bytes

/-- Some octets begin with a request that an interface takes. -/
def StartsRequest (limit : Nat) (bytes : Bytes) : Prop :=
  ∃ (r : Request) (rest : Bytes), r.Acceptable limit ∧ bytes = r.octets ++ rest

/-- Octets are some requests that an interface takes, and a tail that begins with none. -/
structure SplitsInto (limit : Nat) (bytes : Bytes) (requests : List Request) (tail : Bytes) :
    Prop where
  bytes_eq : bytes = Request.stream requests ++ tail
  acceptable : ∀ r ∈ requests, r.Acceptable limit
  other : ¬ StartsRequest limit tail

namespace Request

variable {limit : Nat}

theorem stream_cons (r : Request) (rest : List Request) :
    stream (r :: rest) = r.octets ++ stream rest := List.flatMap_cons

theorem stream_append (before after : List Request) :
    stream (before ++ after) = stream before ++ stream after := List.flatMap_append

/-- Octets that begin with two requests begin with one. -/
theorem octets_prefix_unique {r r' : Request} {rest rest' : Bytes}
    (declarable : r.payload.length ≤ declarableMax)
    (declarable' : r'.payload.length ≤ declarableMax)
    (same : r.octets ++ rest = r'.octets ++ rest') : r = r' ∧ rest = rest' := by
  have head := RequestHeader.read_bytes_append ⟨r.toAddress, UInt16.ofNat r.payload.length⟩
    (r.payload ++ rest)
  have head' := RequestHeader.read_bytes_append ⟨r'.toAddress, UInt16.ofNat r'.payload.length⟩
    (r'.payload ++ rest')
  rw [← List.append_assoc] at head head'
  have both := Except.ok.inj (head.symm.trans ((congrArg RequestHeader.read same).trans head'))
  obtain ⟨hheader, hbody⟩ := Prod.mk.inj both
  obtain ⟨haddress, hlength⟩ := RequestHeader.mk.inj hheader
  have hlength := congrArg UInt16.toNat hlength
  rw [toNat_lengthField declarable, toNat_lengthField declarable'] at hlength
  obtain ⟨hpayload, hrest⟩ := List.append_inj hbody hlength
  constructor
  · obtain ⟨address, payload⟩ := r
    obtain ⟨address', payload'⟩ := r'
    cases haddress
    cases hpayload
    rfl
  · exact hrest

end Request

namespace StreamInterface

variable {limit : Nat} {timeout : Duration} {q q' : RxQueue} {r : Request} {rest : Bytes}

/-- What is made of a request that waits whole: it is taken, or given up with everything
behind it. -/
theorem takeRequest_octets (limit : Nat) (timeout : Duration)
    (declarable : r.payload.length ≤ declarableMax) (waiting : q.bytes = r.octets ++ rest) :
    takeRequest limit timeout q =
      some ((r.within limit).mapError .malformed,
        { q with bytes := if limit < r.payload.length then [] else rest }) := by
  have hne : q.bytes ≠ [] := by
    rw [waiting]
    exact List.append_ne_nil_of_left_ne_nil r.octets_ne_nil rest
  rw [takeRequest, if_neg hne, waiting, Request.octets, List.append_assoc,
    RequestHeader.read_bytes_append]
  simp only [toNat_lengthField declarable, checkPayload, Request.within]
  by_cases exceeds : limit < r.payload.length
  · simp only [if_pos exceeds]
    rfl
  · simp only [if_neg exceeds]
    rw [if_neg (by simp)]
    simp only [List.take_left, List.drop_left]
    rfl

theorem takeRequest_of_acceptable (timeout : Duration) (acceptable : r.Acceptable limit)
    (waiting : q.bytes = r.octets ++ rest) :
    takeRequest limit timeout q = some (.ok r, { q with bytes := rest }) := by
  have fits := Nat.not_lt.mpr acceptable.fits
  have taken := takeRequest_octets limit timeout acceptable.declarable waiting
  rw [Request.within, if_neg fits, if_neg fits] at taken
  exact taken

/-- Why a queue is given up that does not begin with an acceptable request: its header declares
too much, or the rest of the request does not come. -/
def refusal (limit : Nat) (timeout : Duration) (q : RxQueue) : InterfaceError :=
  if requestHeaderSize ≤ q.bytes.length ∧ limit < Request.declared q.bytes then
    .malformed (.payloadTooLarge (Request.declared q.bytes) limit)
  else q.silence timeout

theorem takeRequest_of_other (hne : q.bytes ≠ []) (other : ¬ StartsRequest limit q.bytes) :
    takeRequest limit timeout q =
      some (.error (refusal limit timeout q), { q with bytes := [] }) := by
  rw [takeRequest, if_neg hne]
  by_cases short : q.bytes.length < requestHeaderSize
  · have notLong : ¬ (requestHeaderSize ≤ q.bytes.length ∧
        limit < Request.declared q.bytes) :=
      fun h => absurd h.1 (Nat.not_le.mpr short)
    rw [RequestHeader.read_of_length_lt short, refusal, if_neg notLong]
  · have long := Nat.le_of_not_lt short
    obtain ⟨h, payload, hread, hdeclared, hlength⟩ := Request.format.read_of_length_le long
    have hread : RequestHeader.read q.bytes = .ok (h, payload) := hread
    have hdeclared : h.payloadLength.toNat = Request.declared q.bytes := hdeclared
    rw [hread, refusal, ← hdeclared]
    by_cases exceeds : limit < h.payloadLength.toNat
    · simp only [checkPayload, if_pos exceeds, if_pos (And.intro long exceeds)]
    · have cut : payload.length < h.payloadLength.toNat := by
        refine Nat.lt_of_not_le fun whole => ?_
        have hwhole := List.length_take_of_le whole
        have bound := h.payloadLength.toNat_lt
        have hoctets := Request.octets_of_header h hwhole
        refine other ⟨⟨h.toAddress, payload.take h.payloadLength.toNat⟩,
          payload.drop h.payloadLength.toNat, ⟨?_, ?_⟩, ?_⟩
        · rw [hwhole]
          exact Nat.le_of_not_lt exceeds
        · rw [hwhole, declarableMax]
          omega
        · rw [hoctets, List.append_assoc, List.take_append_drop]
          exact RequestHeader.eq_of_read hread
      simp only [checkPayload, if_neg exceeds, if_neg (fun h => exceeds (And.right h)), if_pos cut]

/-- Everything that can come of taking a request from a queue in which something waits. -/
theorem takeRequest_cases (limit : Nat) (timeout : Duration) (hne : q.bytes ≠ []) :
    (∃ r rest, r.Acceptable limit ∧ q.bytes = r.octets ++ rest ∧
      takeRequest limit timeout q = some (.ok r, { q with bytes := rest })) ∨
    (¬ StartsRequest limit q.bytes ∧ takeRequest limit timeout q =
      some (.error (refusal limit timeout q), { q with bytes := [] })) := by
  by_cases starts : StartsRequest limit q.bytes
  · obtain ⟨r, rest, acceptable, waiting⟩ := starts
    exact .inl ⟨r, rest, acceptable, waiting, takeRequest_of_acceptable timeout acceptable waiting⟩
  · exact .inr ⟨starts, takeRequest_of_other hne starts⟩

/-- A request that is taken was at the front of the queue. -/
theorem front_of_takeRequest (taken : takeRequest limit timeout q = some (.ok r, q')) :
    r.Acceptable limit ∧ q.bytes = r.octets ++ q'.bytes ∧
      q' = { q with bytes := q'.bytes } := by
  by_cases hq : q.bytes = []
  · rw [takeRequest, if_pos hq] at taken
    split at taken <;> cases taken
  · rcases takeRequest_cases limit timeout hq with
      ⟨r', rest, acceptable, waiting, htake⟩ | ⟨_, htake⟩
    · cases htake.symm.trans taken
      exact ⟨acceptable, waiting, rfl⟩
    · cases htake.symm.trans taken

/-- A failure leaves nothing in the queue. -/
theorem emptied_of_takeRequest {e : InterfaceError}
    (failed : takeRequest limit timeout q = some (.error e, q')) : q' = { q with bytes := [] } := by
  by_cases hq : q.bytes = []
  · rw [takeRequest, if_pos hq] at failed
    split at failed
    · cases failed
      rw [← hq]
    · cases failed
  · rcases takeRequest_cases limit timeout hq with ⟨_, _, _, _, htake⟩ | ⟨_, htake⟩
    · cases htake.symm.trans failed
    · cases htake.symm.trans failed
      rfl

end StreamInterface

namespace SplitsInto

variable {limit : Nat} {bytes tail tail' : Bytes} {requests requests' : List Request}

theorem exists_split (limit : Nat) (bytes : Bytes) :
    ∃ requests tail, SplitsInto limit bytes requests tail := by
  induction h : bytes.length using Nat.strongRecOn generalizing bytes with
  | ind n ih =>
    by_cases starts : StartsRequest limit bytes
    · obtain ⟨r, rest, acceptable, rfl⟩ := starts
      have shorter : rest.length < n := by
        rw [← h, List.length_append, r.length_octets, requestHeaderSize]
        omega
      obtain ⟨requests, tail, split⟩ := ih rest.length shorter rest rfl
      refine ⟨r :: requests, tail, ⟨?_, ?_, split.other⟩⟩
      · rw [Request.stream_cons, List.append_assoc, ← split.bytes_eq]
      · exact List.forall_mem_cons.mpr ⟨acceptable, split.acceptable⟩
    · exact ⟨[], bytes, rfl, by simp, starts⟩

/-- Octets split in one way: as long as one split goes on with a request, so does the other, and
with the same one. -/
theorem unique (split : SplitsInto limit bytes requests tail)
    (split' : SplitsInto limit bytes requests' tail') : requests = requests' ∧ tail = tail' := by
  induction requests generalizing bytes requests' with
  | nil =>
    have htail : bytes = tail := split.bytes_eq
    cases requests' with
    | nil => exact ⟨rfl, htail.symm.trans split'.bytes_eq⟩
    | cons r' rest' =>
      refine False.elim (split.other ⟨r', Request.stream rest' ++ tail', ?_, ?_⟩)
      · exact split'.acceptable r' List.mem_cons_self
      · rw [← htail, split'.bytes_eq, Request.stream_cons, List.append_assoc]
  | cons r rest ih =>
    have hr := split.acceptable r List.mem_cons_self
    have hbytes := split.bytes_eq
    rw [Request.stream_cons, List.append_assoc] at hbytes
    cases requests' with
    | nil =>
      have htail : bytes = tail' := split'.bytes_eq
      exact False.elim (split'.other ⟨r, _, hr, htail.symm.trans hbytes⟩)
    | cons r' rest' =>
      have hr' := split'.acceptable r' List.mem_cons_self
      have hbytes' := split'.bytes_eq
      rw [Request.stream_cons, List.append_assoc] at hbytes'
      obtain ⟨rfl, hrest⟩ := Request.octets_prefix_unique hr.declarable hr'.declarable
        (hbytes.symm.trans hbytes')
      have next : SplitsInto limit (Request.stream rest ++ tail) rest tail :=
        ⟨rfl, fun q hq => split.acceptable q (List.mem_cons_of_mem _ hq), split.other⟩
      have next' : SplitsInto limit (Request.stream rest ++ tail) rest' tail' :=
        ⟨hrest, fun q hq => split'.acceptable q (List.mem_cons_of_mem _ hq), split'.other⟩
      obtain ⟨rfl, rfl⟩ := ih next next'
      exact ⟨rfl, rfl⟩

end SplitsInto

/-- Chunks that fit a queue together are queued one behind the other. -/
theorem RxQueue.pushAll_of_fits {chunks : List Bytes} {q : RxQueue}
    (fits : q.bytes.length + chunks.flatten.length ≤ q.capacity) :
    q.pushAll chunks = { q with bytes := q.bytes ++ chunks.flatten } := by
  induction chunks generalizing q with
  | nil => simp [pushAll]
  | cons chunk rest ih =>
    simp only [List.flatten_cons, List.length_append] at fits
    have room : chunk.length ≤ q.free := by
      rw [free]
      omega
    have hrest := ih (q := { q with bytes := q.bytes ++ chunk }) (by
      simp only [List.length_append]
      omega)
    rw [pushAll, List.foldl_cons, push_of_le room]
    rw [pushAll] at hrest
    rw [hrest]
    simp

def Interface.receiveEach {σ : Type} (i : Interface σ) :
    Nat → σ → List (Except InterfaceError Request) × σ
  | 0, s => ([], s)
  | n + 1, s =>
    match i.receive s with
    | none => ([], s)
    | some (r, s) =>
      let (rs, s) := receiveEach i n s
      (r :: rs, s)

/-- The same end with other octets in its queue. -/
def StreamEnd.holding {σ : Type} (bytes : Bytes) (e : StreamEnd σ) : StreamEnd σ :=
  { e with queue := { e.queue with bytes } }

namespace StreamInterface

variable {σ : Type} {name : String} {sink : ByteSink σ} {limits : PayloadLimits}
  {timeout : Duration} {e : StreamEnd σ} {requests : List Request} {rest : Bytes}

theorem receive_of_take {r : Except InterfaceError Request} {q : RxQueue}
    (taken : takeRequest limits.request timeout e.queue = some (r, q)) :
    (interface name sink limits timeout).receive e = some (r, { e with queue := q }) := by
  simp only [interface, receive, taken]

theorem receiveEach_stream (acceptable : ∀ r ∈ requests, r.Acceptable limits.request)
    (waiting : e.queue.bytes = Request.stream requests ++ rest) :
    (interface name sink limits timeout).receiveEach requests.length e =
      (requests.map .ok, e.holding rest) := by
  induction requests generalizing e with
  | nil =>
    have hrest : e.queue.bytes = rest := waiting
    rw [← hrest]
    rfl
  | cons r others ih =>
    rw [Request.stream_cons, List.append_assoc] at waiting
    have taken := takeRequest_of_acceptable timeout (acceptable r List.mem_cons_self) waiting
    have later := ih (e := e.holding (Request.stream others ++ rest))
      (fun q hq => acceptable q (List.mem_cons_of_mem _ hq)) rfl
    rw [List.length_cons, Interface.receiveEach, receive_of_take taken]
    exact congrArg (fun p => (Except.ok r :: p.1, p.2)) later

/-- What a queue holds splits into requests and a tail in one way. The requests are received in
order, each of them leaving what is behind it, and what is left of the tail when it is given up
is nothing. After any failure, whatever it was that failed, requests that fit the queue are
received as they are. -/
theorem received_apart_from_tail (name : String) (sink : ByteSink σ) (limits : PayloadLimits)
    (timeout : Duration) (e : StreamEnd σ) :
    (∃ requests tail, SplitsInto limits.request e.queue.bytes requests tail ∧
      ∀ requests' tail', SplitsInto limits.request e.queue.bytes requests' tail' →
        requests' = requests ∧ tail' = tail) ∧
    (∀ requests tail, SplitsInto limits.request e.queue.bytes requests tail →
      (∀ before after, requests = before ++ after →
        (interface name sink limits timeout).receiveEach before.length e =
          (before.map .ok, e.holding (Request.stream after ++ tail))) ∧
      (tail ≠ [] → (interface name sink limits timeout).receive (e.holding tail) =
        some (.error
          (if requestHeaderSize ≤ tail.length ∧ limits.request < Request.declared tail then
            .malformed (.payloadTooLarge (Request.declared tail) limits.request)
          else if e.queue.closed then .closed
          else .timeout timeout), e.holding []))) ∧
    (∀ error e', (interface name sink limits timeout).receive e = some (.error error, e') →
      e'.queue.bytes = [] ∧
      ∀ chunks requests, (∀ r ∈ requests, r.Acceptable limits.request) →
        chunks.flatten = Request.stream requests →
        (Request.stream requests).length ≤ e'.queue.capacity →
        (interface name sink limits timeout).receiveEach requests.length
            { e' with queue := e'.queue.pushAll chunks } = (requests.map .ok, e')) := by
  refine ⟨?_, ?_, ?_⟩
  · obtain ⟨requests, tail, split⟩ := SplitsInto.exists_split limits.request e.queue.bytes
    exact ⟨requests, tail, split, fun _ _ split' => split'.unique split⟩
  · intro requests tail split
    constructor
    · rintro before after rfl
      have waiting := split.bytes_eq
      rw [Request.stream_append, List.append_assoc] at waiting
      exact receiveEach_stream
        (fun r hr => split.acceptable r (List.mem_append_left after hr)) waiting
    · intro hne
      exact receive_of_take (takeRequest_of_other (q := (e.holding tail).queue) hne split.other)
  · intro error e' failed
    have empty : e'.queue.bytes = [] := by
      simp only [interface, receive] at failed
      split at failed
      · cases failed
      · rename_i htake
        cases failed
        rw [emptied_of_takeRequest htake]
    refine ⟨empty, ?_⟩
    intro chunks requests acceptable hchunks fits
    have room : e'.queue.bytes.length + chunks.flatten.length ≤ e'.queue.capacity := by
      rw [hchunks, empty]
      simpa using fits
    have pushed := RxQueue.pushAll_of_fits room
    have waiting : (e'.queue.pushAll chunks).bytes = Request.stream requests ++ [] := by
      rw [pushed, empty, hchunks, List.nil_append, List.append_nil]
    refine (receiveEach_stream acceptable waiting).trans ?_
    rw [pushed, StreamEnd.holding, ← empty]

/-- A failure says that the queue did not begin with an acceptable request. -/
theorem not_startsRequest {limit : Nat} {q q' : RxQueue} {error : InterfaceError}
    (failed : takeRequest limit timeout q = some (.error error, q')) :
    ¬ StartsRequest limit q.bytes := by
  rintro ⟨r, rest, acceptable, waiting⟩
  cases failed.symm.trans (takeRequest_of_acceptable timeout acceptable waiting)

/-- A request to read pin 2, a header that declares one octet too many and two octets behind it:
the request is received, the rest is given up, and two requests that arrive in three chunks are
received then. -/
theorem received_apart_from_tail_oversized :
    let read : Request := ⟨⟨3, 2, 0⟩, []⟩
    let write : Request := ⟨⟨3, 2, 1⟩, [1]⟩
    let junk : Bytes := [0, 0, 0, 0, 2, 0, 1, 2, 238, 238]
    let line : StreamEnd ReturnLine := ⟨{ capacity := 520, bytes := read.octets ++ junk }, {}⟩
    let uart := interface "uart-sim" ReturnLine.sink .protocolMinimum (.ofMilliseconds 10)
    SplitsInto 512 line.queue.bytes [read] junk ∧
      uart.receiveEach 1 line = ([.ok read], line.holding junk) ∧
      uart.receive (line.holding junk) =
        some (.error (.malformed (.payloadTooLarge 513 512)), line.holding []) ∧
      uart.receiveEach 2 { line.holding [] with
          queue := (line.holding []).queue.pushAll
            [write.octets, read.octets.take 3, read.octets.drop 3] } =
        ([.ok write, .ok read], line.holding []) := by
  intro read write junk line uart
  have acceptable : ∀ r ∈ [write, read], r.Acceptable 512 := by
    intro r hr
    rcases List.mem_cons.mp hr with rfl | hr
    · exact ⟨by decide, by decide⟩
    · cases List.mem_singleton.mp hr
      exact ⟨by decide, by decide⟩
  have failed : takeRequest 512 (.ofMilliseconds 10) (line.holding junk).queue =
      some (.error (.malformed (.payloadTooLarge 513 512)), (line.holding []).queue) := rfl
  have other : ¬ StartsRequest 512 junk := not_startsRequest failed
  have split : SplitsInto 512 line.queue.bytes [read] junk :=
    ⟨rfl, fun r hr => acceptable r (List.mem_cons_of_mem _ hr), other⟩
  obtain ⟨_, taken, _⟩ := received_apart_from_tail "uart-sim" ReturnLine.sink .protocolMinimum
    (.ofMilliseconds 10) line
  obtain ⟨each, given_up⟩ := taken [read] junk split
  have refused := given_up (List.cons_ne_nil _ _)
  have declares : Request.declared junk = 513 := by decide
  have tooMuch : requestHeaderSize ≤ junk.length ∧ PayloadLimits.protocolMinimum.request < 513 := by
    decide
  rw [declares, if_pos tooMuch] at refused
  obtain ⟨_, _, again⟩ := received_apart_from_tail "uart-sim" ReturnLine.sink .protocolMinimum
    (.ofMilliseconds 10) (line.holding junk)
  obtain ⟨_, next⟩ := again _ _ refused
  exact ⟨split, each [read] [] rfl, refused, next _ [write, read] acceptable rfl (by decide)⟩

end StreamInterface

end PeripheralBridge
