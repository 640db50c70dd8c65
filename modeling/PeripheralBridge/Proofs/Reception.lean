import PeripheralBridge.Proofs.RequestGathering

/-!
# The device end of a byte stream

A stream of requests is queued chunk by chunk while requests are asked for. A request is read octet
by octet, and chunks may come between two of its octets. What waits is always one piece of the
stream, up to the last octet that arrived, so what is read of a request goes on where it left off,
unless the queue was emptied meanwhile: such a loss tears the request. A request that is asked for
and read without a break comes to what is taken from the queue at once.
-/

namespace PeripheralBridge

/-- What happens at the device end of a byte stream. -/
inductive ReceiveStep where
  /-- A chunk is read from the source and queued. -/
  | push (chunk : Bytes)
  /-- The source has come to its end. -/
  | finish
  /-- A request is asked for, and nothing else happens until there is an answer. -/
  | ask
  /-- The next octet of a request is taken, if one waits. -/
  | take
  /-- A request that has begun has waited too long for its next octet. -/
  | expire
  deriving DecidableEq

def ReceiveStep.octets : ReceiveStep → Bytes
  | push chunk => chunk
  | _ => []

/-- What a step came to. Places are counted in octets from the start of the stream. -/
inductive Receipt where
  /-- The queue was emptied, and the stream goes on at this place. The loss is torn if a request
  that has begun goes on there, too. -/
  | lost (place : Nat) (torn : Bool := false)
  /-- The octets at these places were taken for a request. -/
  | taken (places : List Nat) (request : Request)
  deriving DecidableEq

def Receipt.request? : Receipt → Option Request
  | lost _ _ => none
  | taken _ r => some r

/-- A receive queue, and how many octets of the stream have come to it. -/
structure Reception where
  queue : RxQueue
  arrived : Nat := 0
  /-- The octets that have been read of a request, with their places. -/
  begun : List (Nat × UInt8) := []

namespace Reception

/-- Where in the stream the queue begins. -/
def place (s : Reception) : Nat := s.arrived - s.queue.bytes.length

/-- The octet at the front of the queue is read. -/
def read (b : UInt8) (queue : RxQueue) (s : Reception) : Reception :=
  { s with queue, begun := s.begun ++ [(s.place, b)] }

/-- The request that is being read fails, and an empty queue is left. -/
def giveUp (queue : RxQueue) (s : Reception) : Option Receipt × Reception :=
  (some (.lost s.arrived), { s with queue, begun := [] })

/-- The request that is being read is answered, once its octets are enough. -/
def answer (limit : Nat) (s : Reception) : Option Receipt × Reception :=
  match StreamInterface.gathered limit (s.begun.map Prod.snd) with
  | none => (none, s)
  | some (.ok r) => (some (.taken (s.begun.map Prod.fst) r), { s with begun := [] })
  | some (.error _) => s.giveUp s.queue.purge.2

def step (limit : Nat) (timeout : Duration) (s : Reception) :
    ReceiveStep → Option Receipt × Reception
  | .push chunk =>
    let (accepted, queue) := s.queue.push chunk
    let arrived := s.arrived + chunk.length
    (if accepted < chunk.length then some (.lost arrived (!s.begun.isEmpty)) else none,
      { s with queue, arrived })
  | .finish => (none, { s with queue := s.queue.close })
  | .ask =>
    if s.begun = [] then
      match StreamInterface.takeRequest limit timeout s.queue with
      | none => (none, s)
      | some (.ok r, queue) =>
        let places := List.range' s.place (s.queue.bytes.length - queue.bytes.length)
        (some (.taken places r), { s with queue })
      | some (.error _, queue) => s.giveUp queue
    else (none, s)
  | .take =>
    match s.queue.receive with
    | none => (none, s)
    | some (.ok b, queue) => (s.read b queue).answer limit
    | some (.error _, queue) => s.giveUp queue
  | .expire =>
    if s.begun = [] then (none, s)
    else
      match s.queue.receiveWithin timeout with
      | (.ok _, _) => (none, s)
      | (.error _, queue) => s.giveUp queue

def receipts (limit : Nat) (timeout : Duration) : List ReceiveStep → Reception → List Receipt
  | [], _ => []
  | x :: rest, s =>
    let (receipt, s) := s.step limit timeout x
    receipt.toList ++ receipts limit timeout rest s

/-- What some steps come to that find an empty queue. -/
def history (limit capacity : Nat) (timeout : Duration) (steps : List ReceiveStep) :
    List Receipt := receipts limit timeout steps { queue := .empty capacity }

/-- The queue holds a piece of the stream, and all that comes behind it is still to come. -/
def Holds (stream coming : Bytes) (s : Reception) : Prop :=
  ∃ gone, stream = gone ++ (s.queue.bytes ++ coming) ∧
    s.arrived = gone.length + s.queue.bytes.length

/-- What has begun was read from the stream in order, ahead of what waits. -/
structure Reads (stream : Bytes) (s : Reception) : Prop where
  octets : ∀ x ∈ s.begun, stream[x.1]? = some x.2
  ordered : (s.begun.map Prod.fst ++ [s.place]).Pairwise (· < ·)

/-- The place at which the stream went on last, and whether a request that had begun went on there
with it. -/
inductive Resumed (s : Reception) : Nat → Bool → Prop where
  | whole {start : Nat} (places : s.begun.map Prod.fst = List.range' start s.begun.length)
      (next : start + s.begun.length = s.place) : Resumed s start false
  | torn {place : Nat} (before : ∃ x ∈ s.begun, x.1 + 1 < place)
      (gap : ∀ x ∈ s.begun, x.1 + 1 ≠ place) (onward : place ≤ s.place)
      (reached : place < s.place → ∃ x ∈ s.begun, x.1 = place) : Resumed s place true

/-- What holds between two steps. -/
structure Follows (limit : Nat) (stream coming : Bytes) (place : Nat) (torn : Bool)
    (s : Reception) : Prop where
  holds : s.Holds stream coming
  reads : s.Reads stream
  resumed : s.Resumed place torn
  unfinished : StreamInterface.gathered limit (s.begun.map Prod.snd) = none

variable {limit : Nat} {timeout : Duration} {stream coming : Bytes} {s s' : Reception}
  {x : ReceiveStep} {receipt : Option Receipt} {place : Nat} {torn : Bool}

theorem Holds.place_eq {gone : Bytes} (h : s.arrived = gone.length + s.queue.bytes.length) :
    s.place = gone.length := by
  rw [Reception.place, h]
  omega

theorem Holds.drop (h : s.Holds stream coming) :
    stream.drop s.place = s.queue.bytes ++ coming := by
  obtain ⟨gone, hstream, harrived⟩ := h
  rw [place_eq harrived, hstream, List.drop_left]

theorem Resumed.le_place (h : s.Resumed place torn) : place ≤ s.place := by
  cases h with
  | whole _ next => omega
  | torn _ _ onward _ => exact onward

theorem Resumed.le_arrived (h : s.Resumed place torn) : place ≤ s.arrived :=
  Nat.le_trans h.le_place (Nat.sub_le _ _)

theorem Holds.le_arrived (h : s.Holds stream coming) : s.queue.bytes.length ≤ s.arrived := by
  obtain ⟨gone, -, harrived⟩ := h
  exact harrived ▸ Nat.le_add_left _ _

/-- Nothing has begun, and the queue holds a piece of the stream. -/
theorem Follows.idle (holds : s.Holds stream coming) (idle : s.begun = []) :
    s.Follows limit stream coming s.place false where
  holds := holds
  reads := ⟨by simp [idle], by simp [idle]⟩
  resumed := .whole (by simp [idle]) (by simp [idle])
  unfinished := by rw [idle]; rfl

/-- The same has begun, with no octet read since. -/
theorem Reads.mono (h : s.Reads stream) (same : s'.begun = s.begun) (onward : s.place ≤ s'.place) :
    s'.Reads stream where
  octets := same ▸ h.octets
  ordered := by
    obtain ⟨ordered, -, below⟩ := List.pairwise_append.mp h.ordered
    rw [same]
    refine List.pairwise_append.mpr ⟨ordered, List.pairwise_singleton _ _, ?_⟩
    intro p hp q hq
    rw [List.mem_singleton.mp hq]
    exact Nat.lt_of_lt_of_le (below p hp s.place (List.mem_singleton_self _)) onward

theorem Reads.lt_place (h : s.Reads stream) {x : Nat × UInt8} (hx : x ∈ s.begun) :
    x.1 < s.place :=
  (List.pairwise_append.mp h.ordered).2.2 x.1 (List.mem_map_of_mem hx) _
    (List.mem_singleton_self _)

/-- What a step can come to, and where the stream went on last then, given how much has arrived. -/
inductive Stepped (stream : Bytes) (place : Nat) (torn : Bool) (arrived : Nat) :
    Option Receipt → Nat → Bool → Prop where
  | quiet : Stepped stream place torn arrived none place torn
  | lost (onward : place ≤ arrived) (torn' : Bool) :
      Stepped stream place torn arrived (some (.lost arrived torn')) arrived torn'
  | taken {r : Request} (whole : torn = false) (declarable : r.payload.length ≤ declarableMax)
      (read : r.octets <+: stream.drop place) :
      Stepped stream place torn arrived
        (some (.taken (List.range' place r.octets.length) r)) (place + r.octets.length) false
  | mixed {places : List Nat} {r : Request} {next : Nat} (tear : torn = true)
      (broken : ∀ start count, places ≠ List.range' start count) (across : place ∈ places)
      (read : places.map (stream[·]?) = r.octets.map some) (ordered : places.Pairwise (· < ·)) :
      Stepped stream place torn arrived (some (.taken places r)) next false

/-- A step that reads nothing and loses nothing leaves it at that. -/
theorem Follows.same {coming' : Bytes} (h : s.Follows limit stream coming place torn)
    (holds : s'.Holds stream coming') (begun : s'.begun = s.begun) (stays : s'.place = s.place) :
    s'.Follows limit stream coming' place torn where
  holds := holds
  reads := h.reads.mono begun (Nat.le_of_eq stays.symm)
  resumed := by
    cases h.resumed with
    | whole places next => exact .whole (begun ▸ places) (by rw [begun, stays, next])
    | torn before gap onward reached =>
      exact .torn (begun ▸ before) (begun ▸ gap) (stays ▸ onward) (begun ▸ stays ▸ reached)
  unfinished := by rw [begun]; exact h.unfinished

/-- Once a chunk is dropped with the queue, the stream goes on behind both of them. -/
theorem Follows.overflow {chunk : Bytes} (h : s.Follows limit stream (chunk ++ coming) place torn)
    (filled : 0 < chunk.length) :
    let s₁ : Reception := ⟨{ s.queue with bytes := [] }, s.arrived + chunk.length, s.begun⟩
    s₁.Follows limit stream coming s₁.arrived (!s.begun.isEmpty) := by
  intro s₁
  have behind : s.place ≤ s₁.place :=
    Nat.le_trans (Nat.sub_le _ _) (Nat.le_add_right _ _)
  have holds : s₁.Holds stream coming := by
    obtain ⟨gone, hstream, harrived⟩ := h.holds
    refine ⟨gone ++ s.queue.bytes ++ chunk, by simp [s₁, hstream], ?_⟩
    simp only [s₁, List.length_append, List.length_nil, harrived]
    omega
  by_cases idle : s.begun = []
  · rw [idle]
    exact .idle holds idle
  · obtain ⟨first, others, hbegun⟩ := List.exists_cons_of_ne_nil idle
    have first_begun : first ∈ s.begun := hbegun ▸ List.mem_cons_self
    -- the octet in front of the new place is one that was dropped
    have below : ∀ x ∈ s.begun, x.1 + 1 < s₁.arrived := by
      intro x hx
      have read_before : x.1 < s.place := h.reads.lt_place hx
      have place_le : s.place ≤ s.arrived := Nat.sub_le _ _
      simp only [s₁]
      omega
    rw [List.isEmpty_eq_false_iff.mpr idle]
    refine ⟨holds, h.reads.mono rfl behind, ?_, h.unfinished⟩
    exact .torn ⟨first, first_begun, below first first_begun⟩
      (fun x hx => Nat.ne_of_lt (below x hx)) (Nat.le_refl _)
      (fun past => absurd past (Nat.lt_irrefl _))

theorem push_stepped {chunk : Bytes} (h : s.Follows limit stream (chunk ++ coming) place torn)
    (hx : s.step limit timeout (.push chunk) = (receipt, s')) :
    s'.arrived = s.arrived + chunk.length ∧ ∃ place' torn',
      s'.Follows limit stream coming place' torn' ∧
        Stepped stream place torn s'.arrived receipt place' torn' := by
  by_cases fits : chunk.length ≤ s.queue.free
  · obtain ⟨gone, hstream, harrived⟩ := h.holds
    simp only [step, RxQueue.push_of_le fits, Nat.lt_irrefl, if_false] at hx
    cases hx
    have arrived : s.arrived + chunk.length =
        gone.length + (s.queue.bytes ++ chunk).length := by
      rw [harrived, List.length_append]
      omega
    refine ⟨rfl, place, torn, h.same ⟨gone, ?_, arrived⟩ rfl ?_, .quiet⟩
    · rw [hstream, List.append_assoc]
    · rw [Holds.place_eq arrived, Holds.place_eq harrived]
  · have exceeds := Nat.lt_of_not_le fits
    simp only [step, RxQueue.push_of_lt exceeds, if_pos exceeds] at hx
    cases hx
    have lost : place ≤ s.arrived + chunk.length :=
      Nat.le_trans h.resumed.le_arrived (Nat.le_add_right _ _)
    exact ⟨rfl, _, _, h.overflow (Nat.zero_lt_of_lt exceeds), .lost lost _⟩

theorem giveUp_stepped {queue : RxQueue} (holds : s.Holds stream coming)
    (resumed : s.Resumed place torn) (empty : queue.bytes = [])
    (hx : s.giveUp queue = (receipt, s')) :
    s'.arrived = s.arrived ∧ ∃ place' torn', s'.Follows limit stream coming place' torn' ∧
      Stepped stream place torn s'.arrived receipt place' torn' := by
  cases hx
  obtain ⟨gone, hstream, harrived⟩ := holds
  have holds : Holds stream coming { s with queue, begun := [] } := by
    refine ⟨gone ++ s.queue.bytes, by simp [hstream, empty], ?_⟩
    simp [harrived, empty]
  have onward : ({ s with queue, begun := [] } : Reception).place = s.arrived := by
    rw [Reception.place, empty]
    rfl
  refine ⟨rfl, _, _, .idle holds rfl, ?_⟩
  rw [onward]
  exact .lost resumed.le_arrived _

theorem ask_stepped (h : s.Follows limit stream coming place torn)
    (hx : s.step limit timeout .ask = (receipt, s')) :
    s'.arrived = s.arrived ∧ ∃ place' torn', s'.Follows limit stream coming place' torn' ∧
      Stepped stream place torn s'.arrived receipt place' torn' := by
  by_cases idle : s.begun = []
  · simp only [step, if_pos idle] at hx
    split at hx
    · cases hx
      exact ⟨rfl, _, _, h, .quiet⟩
    · rename_i r queue taken
      cases hx
      obtain ⟨acceptable, front, _⟩ := StreamInterface.front_of_takeRequest taken
      have hdrop := h.holds.drop
      obtain ⟨gone, hstream, harrived⟩ := h.holds
      have count : s.queue.bytes.length - queue.bytes.length = r.octets.length := by
        rw [front, List.length_append]
        omega
      have arrived : s.arrived = (gone ++ r.octets).length + queue.bytes.length := by
        rw [harrived, front]
        simp only [List.length_append]
        omega
      have holds : Holds stream coming { s with queue } :=
        ⟨gone ++ r.octets, by rw [hstream, front]; simp, arrived⟩
      have hplace : ({ s with queue } : Reception).place = s.place + r.octets.length := by
        rw [Holds.place_eq arrived, Holds.place_eq harrived, List.length_append]
      obtain ⟨rfl, rfl⟩ : place = s.place ∧ torn = false := by
        cases h.resumed with
        | whole _ next => exact ⟨by simpa [idle] using next, rfl⟩
        | torn before =>
          obtain ⟨x, hx, _⟩ := before
          rw [idle] at hx
          cases hx
      refine ⟨rfl, _, _, .idle holds idle, ?_⟩
      rw [count, hplace]
      refine .taken rfl acceptable.declarable ?_
      rw [hdrop, front, List.append_assoc]
      exact List.prefix_append _ _
    · rename_i e queue failed
      have emptied := StreamInterface.emptied_of_takeRequest failed
      exact giveUp_stepped h.holds h.resumed (by rw [emptied]) hx
  · simp only [step, if_neg idle] at hx
    cases hx
    exact ⟨rfl, _, _, h, .quiet⟩

/-- Octets with the places of a piece of the stream are at its front. -/
theorem prefix_of_places {begun : List (Nat × UInt8)} {start : Nat}
    (octets : ∀ x ∈ begun, stream[x.1]? = some x.2)
    (places : begun.map Prod.fst = List.range' start begun.length) :
    begun.map Prod.snd <+: stream.drop start := by
  induction begun generalizing start with
  | nil => exact List.nil_prefix
  | cons x rest ih =>
    rw [List.map_cons, List.length_cons, List.range'_succ] at places
    injection places with first others
    have next := ih (fun y hy => octets y (List.mem_cons_of_mem _ hy)) others
    have here := octets x List.mem_cons_self
    rw [first] at here
    obtain ⟨inside, value⟩ := List.getElem?_eq_some_iff.mp here
    rw [List.map_cons, List.drop_eq_getElem_cons inside, value]
    exact (List.cons_prefix_cons).mpr ⟨rfl, next⟩

theorem place_read {b : UInt8} {rest : Bytes} (arrived : s.queue.bytes.length ≤ s.arrived)
    (waiting : s.queue.bytes = b :: rest) :
    (s.read b { s.queue with bytes := rest }).place = s.place + 1 := by
  rw [waiting, List.length_cons] at arrived
  simp only [Reception.place, read, waiting, List.length_cons]
  omega

theorem step_take {b : UInt8} {rest : Bytes} (waiting : s.queue.bytes = b :: rest) :
    s.step limit timeout .take = (s.read b { s.queue with bytes := rest }).answer limit := by
  simp only [step, RxQueue.receive, waiting]

theorem step_expire_of_idle (idle : s.begun = []) :
    s.step limit timeout .expire = (none, s) := if_pos idle

theorem step_expire_of_empty (begun : s.begun ≠ []) (empty : s.queue.bytes = []) :
    s.step limit timeout .expire = s.giveUp s.queue := by
  simp only [step, if_neg begun, RxQueue.receiveWithin, empty]

/-- An octet is read behind those that were read before. -/
theorem read_follows {b : UInt8} {rest : Bytes} (h : s.Follows limit stream coming place torn)
    (waiting : s.queue.bytes = b :: rest) :
    let s₁ := s.read b { s.queue with bytes := rest }
    s₁.Holds stream coming ∧ s₁.Reads stream ∧ s₁.Resumed place torn := by
  intro s₁
  have hdrop := h.holds.drop
  have within := h.holds.le_arrived
  obtain ⟨gone, hstream, harrived⟩ := h.holds
  have arrived : s₁.arrived = (gone ++ [b]).length + s₁.queue.bytes.length := by
    simp only [s₁, read, harrived, waiting, List.length_append, List.length_cons, List.length_nil]
    omega
  have next : s₁.place = s.place + 1 := place_read within waiting
  have here : stream[s.place]? = some b := by
    rw [← List.head?_drop, hdrop, waiting]
    rfl
  refine ⟨⟨gone ++ [b], by simp [hstream, waiting, s₁, read], arrived⟩, ⟨?_, ?_⟩, ?_⟩
  · intro x hx
    rcases List.mem_append.mp hx with hx | hx
    · exact h.reads.octets x hx
    · rw [List.mem_singleton.mp hx]
      exact here
  · rw [next]
    simp only [s₁, read, List.map_append, List.map_cons, List.map_nil]
    refine List.pairwise_append.mpr ⟨h.reads.ordered, List.pairwise_singleton _ _, ?_⟩
    intro p hp q hq
    rw [List.mem_singleton.mp hq]
    rcases List.mem_append.mp hp with hp | hp
    · obtain ⟨x, hx, rfl⟩ := List.mem_map.mp hp
      exact Nat.lt_succ_of_lt (h.reads.lt_place hx)
    · rw [List.mem_singleton.mp hp]
      exact Nat.lt_succ_self _
  · have last : (s.place, b) ∈ s₁.begun := List.mem_append_right _ (List.mem_singleton_self _)
    have first : ∀ x ∈ s.begun, x ∈ s₁.begun := fun x hx => List.mem_append_left _ hx
    cases h.resumed with
    | whole places follows =>
      refine .whole ?_ ?_
      · simp only [s₁, read, List.map_append, List.map_cons, List.map_nil, List.length_append,
          List.length_singleton, List.range'_concat, places, Nat.one_mul, follows]
      · simp only [s₁, read, List.length_append, List.length_singleton] at next ⊢
        omega
    | torn before gap onward reached =>
      obtain ⟨x, hx, below⟩ := before
      refine .torn ⟨x, first x hx, below⟩ ?_ (by omega) ?_
      · intro y hy
        rcases List.mem_append.mp hy with hy | hy
        · exact gap y hy
        · rw [List.mem_singleton.mp hy]
          dsimp only
          omega
      · intro _
        rcases Nat.lt_or_eq_of_le onward with past | here
        · obtain ⟨y, hy, at_place⟩ := reached past
          exact ⟨y, first y hy, at_place⟩
        · exact ⟨_, last, here.symm⟩

/-- A request that is answered was read as it stands in the stream, or across a loss. -/
theorem answer_stepped {front : List (Nat × UInt8)} {b : UInt8} {p : Nat}
    (holds : s.Holds stream coming) (reads : s.Reads stream) (resumed : s.Resumed place torn)
    (last : s.begun = front ++ [(p, b)]) (next : s.place = p + 1)
    (more : StreamInterface.gathered limit (front.map Prod.snd) = none)
    (hx : s.answer limit = (receipt, s')) :
    s'.arrived = s.arrived ∧ ∃ place' torn', s'.Follows limit stream coming place' torn' ∧
      Stepped stream place torn s'.arrived receipt place' torn' := by
  simp only [answer] at hx
  split at hx
  · rename_i unfinished
    cases hx
    exact ⟨rfl, _, _, ⟨holds, reads, resumed, unfinished⟩, .quiet⟩
  · rename_i r whole
    cases hx
    obtain ⟨acceptable, octets⟩ : r.Acceptable limit ∧ r.octets = s.begun.map Prod.snd := by
      rw [last, List.map_append] at whole ⊢
      exact StreamInterface.octets_of_gathered more whole
    have count : r.octets.length = s.begun.length := by rw [octets, List.length_map]
    refine ⟨rfl, _, _, .idle (s := { s with begun := [] }) holds rfl, ?_⟩
    cases resumed with
    | whole places follows =>
      have onward : ({ s with begun := [] } : Reception).place = place + r.octets.length := by
        rw [count, follows]
        rfl
      rw [onward, places, ← count]
      exact .taken rfl acceptable.declarable (octets ▸ prefix_of_places reads.octets places)
    | torn before gap onward reached =>
      have final : (p, b) ∈ s.begun := last ▸ List.mem_append_right _ (List.mem_singleton_self _)
      have behind : place ≤ p := by
        have := gap _ final
        dsimp only at this
        omega
      refine .mixed rfl ?_ ?_ ?_ (List.pairwise_append.mp reads.ordered).1
      · intro start n same
        have at_place : ∀ q, q ∈ s.begun.map Prod.fst ↔ start ≤ q ∧ q < start + n := by
          intro q
          rw [same, List.mem_range'_1]
        obtain ⟨x, hx, below⟩ := before
        have low := (at_place x.1).mp (List.mem_map_of_mem hx)
        have high := (at_place p).mp (List.mem_map_of_mem final)
        obtain ⟨y, hy, between⟩ := List.mem_map.mp ((at_place (place - 1)).mpr (by omega))
        exact gap y hy (by omega)
      · obtain ⟨x, hx, at_place⟩ := reached (by omega)
        exact List.mem_map.mpr ⟨x, hx, at_place⟩
      · rw [octets, List.map_map, List.map_map]
        exact List.map_congr_left reads.octets
  · exact giveUp_stepped holds resumed rfl hx

theorem take_stepped (h : s.Follows limit stream coming place torn)
    (hx : s.step limit timeout .take = (receipt, s')) :
    s'.arrived = s.arrived ∧ ∃ place' torn', s'.Follows limit stream coming place' torn' ∧
      Stepped stream place torn s'.arrived receipt place' torn' := by
  rcases hq : s.queue.bytes with _ | ⟨b, rest⟩
  · simp only [step, RxQueue.receive, hq] at hx
    split at hx
    · cases hx
      exact ⟨rfl, _, _, h, .quiet⟩
    · rename_i given
      split at given <;> cases given
    · rename_i given
      split at given <;> cases given
      exact giveUp_stepped h.holds h.resumed hq hx
  · rw [step_take hq] at hx
    obtain ⟨holds, reads, resumed⟩ := read_follows h hq
    have answered := answer_stepped holds reads resumed rfl (place_read h.holds.le_arrived hq)
      h.unfinished hx
    exact answered

theorem expire_stepped (h : s.Follows limit stream coming place torn)
    (hx : s.step limit timeout .expire = (receipt, s')) :
    s'.arrived = s.arrived ∧ ∃ place' torn', s'.Follows limit stream coming place' torn' ∧
      Stepped stream place torn s'.arrived receipt place' torn' := by
  by_cases idle : s.begun = []
  · rw [step_expire_of_idle idle] at hx
    cases hx
    exact ⟨rfl, _, _, h, .quiet⟩
  · rcases hq : s.queue.bytes with _ | ⟨b, rest⟩
    · rw [step_expire_of_empty idle hq] at hx
      exact giveUp_stepped h.holds h.resumed hq hx
    · simp only [step, if_neg idle, RxQueue.receiveWithin, hq] at hx
      cases hx
      exact ⟨rfl, _, _, h, .quiet⟩

/-- Whatever the step, what waits stays a piece of the stream, and so does what was read, up to a
loss. -/
theorem step_stepped (h : s.Follows limit stream (x.octets ++ coming) place torn)
    (hx : s.step limit timeout x = (receipt, s')) :
    s'.arrived = s.arrived + x.octets.length ∧ ∃ place' torn',
      s'.Follows limit stream coming place' torn' ∧
        Stepped stream place torn s'.arrived receipt place' torn' := by
  cases x with
  | push chunk => exact push_stepped h hx
  | finish =>
    cases hx
    exact ⟨rfl, _, _, h.same h.holds rfl rfl, .quiet⟩
  | ask => exact ask_stepped h hx
  | take => exact take_stepped h hx
  | expire => exact expire_stepped h hx

/-- A step by which nothing is read octet by octet tears nothing. -/
theorem step_untorn (idle : s.begun = []) (whole : x ≠ .take)
    (hx : s.step limit timeout x = (receipt, s')) :
    s'.begun = [] ∧ ∀ place, receipt ≠ some (.lost place true) := by
  cases x with
  | push chunk =>
    cases hx
    refine ⟨idle, fun place => ?_⟩
    rw [idle]
    split <;> simp
  | finish =>
    cases hx
    exact ⟨idle, nofun⟩
  | ask =>
    simp only [step, if_pos idle] at hx
    split at hx <;> cases hx
    · exact ⟨idle, nofun⟩
    · exact ⟨idle, nofun⟩
    · exact ⟨rfl, by simp⟩
  | take => exact absurd rfl whole
  | expire =>
    simp only [step, if_pos idle] at hx
    cases hx
    exact ⟨idle, nofun⟩

theorem receipts_of_step (hx : s.step limit timeout x = (receipt, s')) (steps : List ReceiveStep) :
    receipts limit timeout (x :: steps) s =
      receipt.toList ++ receipts limit timeout steps s' := by
  simp only [receipts, hx]

/-- Octets that are not enough for a request are read one by one, and nothing comes of it yet. -/
theorem receipts_takes {front rest : Bytes} (arrived : s.queue.bytes.length ≤ s.arrived)
    (waiting : s.queue.bytes = front ++ rest)
    (more : StreamInterface.gathered limit (s.begun.map Prod.snd ++ front) = none)
    (steps : List ReceiveStep) :
    receipts limit timeout (List.replicate front.length .take ++ steps) s =
      receipts limit timeout steps { s with
        queue := { s.queue with bytes := rest }
        begun := s.begun ++ (List.range' s.place front.length).zip front } := by
  induction front generalizing s with
  | nil =>
    rw [← show s.queue.bytes = rest from waiting]
    simp
  | cons b front ih =>
    rw [List.append_cons] at more
    rw [List.cons_append] at waiting
    have read_one : s.step limit timeout .take =
        (none, s.read b { s.queue with bytes := front ++ rest }) := by
      have unfinished := StreamInterface.gathered_of_append more
      rw [step_take waiting, answer]
      simp only [read, List.map_append, List.map_cons, List.map_nil, unfinished]
    have others := ih (s := s.read b { s.queue with bytes := front ++ rest })
      (by rw [waiting] at arrived
          exact Nat.le_of_succ_le arrived)
      rfl (by simpa [read] using more)
    rw [List.length_cons, List.replicate_succ, List.cons_append, receipts_of_step read_one, others,
      place_read arrived waiting]
    simp [read, List.range'_succ]

/-- A request that is asked for is read octet by octet, as long as octets wait, and given up if
they are too few. -/
theorem receipts_ask (arrived : s.queue.bytes.length ≤ s.arrived) (idle : s.begun = []) :
    ∃ count, ∀ steps,
      receipts limit timeout (List.replicate count .take ++ .expire :: steps) s =
        receipts limit timeout (.ask :: steps) s := by
  rcases StreamInterface.gathered_cases limit s.queue.bytes with
    more | ⟨front, b, rest, result, waiting, more, enough⟩
  · by_cases empty : s.queue.bytes = []
    · by_cases closed : s.queue.closed
      · have asked : s.step limit timeout .ask = s.giveUp s.queue := by
          simp [step, idle, StreamInterface.takeRequest, empty, closed]
        have taken : s.step limit timeout .take = s.giveUp s.queue := by
          simp [step, RxQueue.receive, empty, closed]
        refine ⟨1, fun steps => ?_⟩
        rw [List.replicate_one, List.singleton_append, receipts_of_step taken,
          receipts_of_step (step_expire_of_idle rfl), receipts_of_step asked]
        rfl
      · have asked : s.step limit timeout .ask = (none, s) := by
          simp [step, idle, StreamInterface.takeRequest, empty, closed]
        refine ⟨0, fun steps => ?_⟩
        rw [List.replicate_zero, List.nil_append, receipts_of_step (step_expire_of_idle idle),
          receipts_of_step asked]
    · have asked : s.step limit timeout .ask = s.giveUp { s.queue with bytes := [] } := by
        simp only [step, if_pos idle, StreamInterface.takeRequest_of_unfinished timeout empty more]
      have some : s.begun ++ (List.range' s.place s.queue.bytes.length).zip s.queue.bytes ≠ [] := by
        simp [idle, List.zip_eq_nil_iff, empty]
      refine ⟨s.queue.bytes.length, fun steps => ?_⟩
      rw [receipts_takes arrived (List.append_nil _).symm (by simpa [idle] using more),
        receipts_of_step (step_expire_of_empty some rfl), receipts_of_step asked]
  · refine ⟨front.length + 1, fun steps => ?_⟩
    let s₁ : Reception := { s with
      queue := { s.queue with bytes := b :: rest }
      begun := s.begun ++ (List.range' s.place front.length).zip front }
    have taken : s₁.step limit timeout .take =
        (s₁.read b { s₁.queue with bytes := rest }).answer limit := step_take rfl
    have begun : (s₁.read b { s₁.queue with bytes := rest }).begun.map Prod.snd = front ++ [b] := by
      simp [s₁, read, idle, List.map_snd_zip]
    rw [List.replicate_succ', List.append_assoc, List.singleton_append,
      receipts_takes arrived waiting (by simpa [idle] using more)]
    rw [answer, begun, enough] at taken
    cases result with
    | ok r =>
      obtain ⟨acceptable, octets⟩ := StreamInterface.octets_of_gathered more enough
      have waiting' : s.queue.bytes = r.octets ++ rest := by rw [octets, waiting]; simp
      have asked : s.step limit timeout .ask =
          (some (.taken (List.range' s.place r.octets.length) r),
            { s with queue := { s.queue with bytes := rest } }) := by
        simp only [step, if_pos idle,
          StreamInterface.takeRequest_of_acceptable timeout acceptable waiting', waiting',
          List.length_append, Nat.add_sub_cancel]
      have places : (s₁.read b { s₁.queue with bytes := rest }).begun.map Prod.fst =
          List.range' s.place r.octets.length := by
        have onward : s₁.place = s.place + front.length := by
          rw [waiting, List.length_append, List.length_cons] at arrived
          simp only [Reception.place, s₁, waiting, List.length_append, List.length_cons]
          omega
        have front_places : s₁.begun.map Prod.fst = List.range' s.place front.length := by
          simp [s₁, idle, List.map_fst_zip]
        rw [read, List.map_append, front_places, octets, List.length_append,
          List.length_singleton, List.range'_concat, Nat.one_mul, ← onward]
        rfl
      rw [receipts_of_step taken, receipts_of_step (step_expire_of_idle rfl),
        receipts_of_step asked, places]
      simp [s₁, read, idle]
    | error e =>
      have waiting' : s.queue.bytes = front ++ [b] ++ rest := by rw [waiting]; simp
      have asked : s.step limit timeout .ask = s.giveUp { s.queue with bytes := [] } := by
        simp only [step, if_pos idle,
          StreamInterface.takeRequest_of_oversized timeout enough waiting']
      rw [receipts_of_step taken, receipts_of_step (step_expire_of_idle rfl),
        receipts_of_step asked]
      rfl

end Reception

end PeripheralBridge
