import Mathlib.Data.List.Chain
import PeripheralBridge.Proofs.Reception

/-!
# Overflow of a receive queue

A request that is read without a loss is one of the stream if it begins where one begins, and an
overflow drops the rest of a chunk, wherever that ends. A request that a loss tears while it is
read was never sent as one. The requests that are taken are therefore those of the stream exactly
as far as each loss leaves off between two requests, in the stream and for the one who reads them.
-/

namespace PeripheralBridge

/-- A request of the stream begins at this place, or the last one ends there. -/
def Boundary (requests : List Request) (place : Nat) : Prop :=
  ∃ before after, requests = before ++ after ∧ place = (Request.stream before).length

/-- The request is one of the stream, and these are the places of its octets. -/
def Genuine (requests : List Request) (places : List Nat) (r : Request) : Prop :=
  ∃ before after, requests = before ++ r :: after ∧
    places = List.range' (Request.stream before).length r.octets.length

variable {requests : List Request} {place : Nat} {torn : Bool} {places : List Nat} {r : Request}

/-- What is read where a request begins is that request. -/
theorem genuine_iff_boundary (declarable : ∀ q ∈ requests, q.payload.length ≤ declarableMax)
    (short : r.payload.length ≤ declarableMax)
    (read : r.octets <+: (Request.stream requests).drop place) :
    Genuine requests (List.range' place r.octets.length) r ↔ Boundary requests place := by
  constructor
  · rintro ⟨before, after, hrequests, hplaces⟩
    refine ⟨before, r :: after, hrequests, ?_⟩
    rcases (List.range'_inj.mp hplaces).2 with none | same
    · exact absurd (List.length_eq_zero_iff.mp none) r.octets_ne_nil
    · exact same
  · rintro ⟨before, after, rfl, rfl⟩
    rw [Request.stream_append, List.drop_left] at read
    obtain ⟨rest, hrest⟩ := read
    cases after with
    | nil => exact absurd (List.append_eq_nil_iff.mp hrest).1 r.octets_ne_nil
    | cons q after =>
      rw [Request.stream_cons] at hrest
      have hq := declarable q (List.mem_append_right _ List.mem_cons_self)
      obtain ⟨rfl, _⟩ := Request.octets_prefix_unique short hq hrest
      exact ⟨before, after, rfl, rfl⟩

theorem Boundary.next (h : Genuine requests (List.range' place r.octets.length) r) :
    Boundary requests (place + r.octets.length) := by
  obtain ⟨before, after, rfl, hplaces⟩ := h
  refine ⟨before ++ [r], after, by simp, ?_⟩
  rcases (List.range'_inj.mp hplaces).2 with none | rfl
  · exact absurd (List.length_eq_zero_iff.mp none) r.octets_ne_nil
  · simp [Request.stream]

/-- The octets of a request stand at these places of the stream, in order. -/
def Picked (stream : Bytes) (places : List Nat) (r : Request) : Prop :=
  places.map (stream[·]?) = r.octets.map some ∧ places.Pairwise (· < ·)

theorem picked_of_read {stream : Bytes} (read : r.octets <+: stream.drop place) :
    Picked stream (List.range' place r.octets.length) r := by
  refine ⟨List.ext_getElem (by simp) fun i hi _ => ?_, List.pairwise_lt_range'⟩
  have inside : i < r.octets.length := by simpa using hi
  rw [List.getElem_map, List.getElem_map, List.getElem_range', Nat.one_mul,
    ← List.getElem?_drop, List.prefix_iff_getElem?.mp read i inside]

/-- A loss behind which a request is taken leaves off where a request begins, for the stream and
for the one who reads. -/
def Resumes (requests : List Request) : Receipt → Receipt → Prop
  | .lost place torn, .taken _ _ => torn = false ∧ Boundary requests place
  | _, _ => True

def AllGenuine (requests : List Request) (receipts : List Receipt) : Prop :=
  ∀ places r, .taken places r ∈ receipts → Genuine requests places r

theorem allGenuine_cons_taken {rest : List Receipt} :
    AllGenuine requests (.taken places r :: rest) ↔
      Genuine requests places r ∧ AllGenuine requests rest := by
  constructor
  · intro h
    exact ⟨h _ _ List.mem_cons_self, fun p q hq => h p q (List.mem_cons_of_mem _ hq)⟩
  · rintro ⟨first, later⟩ p q hq
    rcases List.mem_cons.mp hq with hq | hq
    · cases hq
      exact first
    · exact later p q hq

theorem allGenuine_cons_lost {rest : List Receipt} :
    AllGenuine requests (.lost place torn :: rest) ↔ AllGenuine requests rest := by
  constructor
  · intro h p q hq
    exact h p q (List.mem_cons_of_mem _ hq)
  · intro h p q hq
    rcases List.mem_cons.mp hq with hq | hq
    · cases hq
    · exact h p q hq

/-- Where the stream goes on between two requests, it makes no difference to have lost
something. -/
theorem isChain_lost_of_boundary (h : Boundary requests place) (rest : List Receipt) :
    (Receipt.lost place :: rest).IsChain (Resumes requests) ↔ rest.IsChain (Resumes requests) := by
  cases rest with
  | nil => simp
  | cons receipt rest =>
    rw [List.isChain_cons_cons]
    cases receipt with
    | lost _ _ => exact and_iff_right trivial
    | taken _ _ => exact and_iff_right ⟨rfl, h⟩

theorem isChain_taken (rest : List Receipt) :
    (Receipt.taken places r :: rest).IsChain (Resumes requests) ↔
      rest.IsChain (Resumes requests) := by
  cases rest with
  | nil => simp
  | cons receipt rest =>
    rw [List.isChain_cons_cons]
    exact and_iff_right trivial

/-- A run that loses octets between two requests only goes on between two requests. -/
theorem isChain_of_boundaries {receipts : List Receipt}
    (h : ∀ place torn, .lost place torn ∈ receipts → torn = false ∧ Boundary requests place) :
    receipts.IsChain (Resumes requests) := by
  induction receipts with
  | nil => exact .nil
  | cons receipt rest ih =>
    have later := ih fun place torn hp => h place torn (List.mem_cons_of_mem _ hp)
    cases receipt with
    | lost place torn =>
      obtain ⟨rfl, boundary⟩ := h place torn List.mem_cons_self
      exact (isChain_lost_of_boundary boundary rest).mpr later
    | taken _ _ => exact (isChain_taken rest).mpr later

/-- Requests of the stream that begin no earlier than `before` ends are among those behind it. -/
theorem Genuine.behind {before after : List Request}
    (h : Genuine (before ++ after) (List.range' place r.octets.length) r)
    (onward : (Request.stream before).length ≤ place) :
    ∃ skipped rest, after = skipped ++ r :: rest ∧
      (Request.stream (before ++ skipped)).length = place := by
  obtain ⟨front, rest, split, hplaces⟩ := h
  obtain rfl : place = (Request.stream front).length := by
    rcases (List.range'_inj.mp hplaces).2 with none | same
    · exact absurd (List.length_eq_zero_iff.mp none) r.octets_ne_nil
    · exact same
  rcases List.append_eq_append_iff.mp split with ⟨skipped, rfl, rfl⟩ | ⟨others, rfl, hothers⟩
  · exact ⟨skipped, rest, rfl, rfl⟩
  · cases others with
    | nil => exact ⟨[], rest, hothers.symm, by simp⟩
    | cons q others =>
      rw [Request.stream_append, Request.stream_cons] at onward
      simp only [List.length_append, q.length_octets, requestHeaderSize] at onward
      omega

namespace Reception

variable {limit : Nat} {timeout : Duration} {steps : List ReceiveStep} {coming : Bytes}
  {s : Reception}

/-- From any point of a run: all that is taken from then on is genuine if and only if the run goes
on between two requests, now and after each loss behind which a request is taken. -/
theorem receipts_genuine_iff (declarable : ∀ q ∈ requests, q.payload.length ≤ declarableMax)
    (h : s.Follows limit (Request.stream requests) (steps.flatMap ReceiveStep.octets ++ coming)
      place torn) :
    AllGenuine requests (receipts limit timeout steps s) ↔
      (Receipt.lost place torn :: receipts limit timeout steps s).IsChain (Resumes requests) := by
  -- where the stream went on last counts as a loss, so that the next request is judged by it
  induction steps generalizing s place torn with
  | nil => simp [receipts, AllGenuine]
  | cons x rest ih =>
    rw [List.flatMap_cons, List.append_assoc] at h
    rcases hx : s.step limit timeout x with ⟨receipt, s'⟩
    obtain ⟨-, place', torn', h', stepped⟩ := step_stepped h hx
    have later := ih h'
    simp only [receipts, hx]
    cases stepped with
    | quiet => exact later
    | lost onward =>
      rw [Option.toList_some, List.singleton_append, allGenuine_cons_lost, later,
        List.isChain_cons_cons]
      exact (and_iff_right trivial).symm
    | taken whole short read =>
      subst whole
      rw [Option.toList_some, List.singleton_append, allGenuine_cons_taken,
        List.isChain_cons_cons, isChain_taken]
      have first := genuine_iff_boundary declarable short read
      constructor
      · rintro ⟨genuine, others⟩
        exact ⟨⟨rfl, first.mp genuine⟩,
          (isChain_lost_of_boundary (.next genuine) _).mp (later.mp others)⟩
      · rintro ⟨⟨-, boundary⟩, others⟩
        have genuine := first.mpr boundary
        exact ⟨genuine, later.mpr ((isChain_lost_of_boundary (.next genuine) _).mpr others)⟩
    | mixed tear broken =>
      subst tear
      rw [Option.toList_some, List.singleton_append, allGenuine_cons_taken,
        List.isChain_cons_cons]
      refine iff_of_false ?_ (fun chain => absurd chain.1.1 (by decide))
      rintro ⟨⟨before, after, -, contiguous⟩, -⟩
      exact broken _ _ contiguous

/-- Every loss leaves off where a chunk ends. -/
theorem lost_of_receipts
    (h : s.Follows limit (Request.stream requests) (steps.flatMap ReceiveStep.octets ++ coming)
      place torn) {p : Nat} {torn' : Bool}
    (lost : .lost p torn' ∈ receipts limit timeout steps s) :
    ∃ before after, steps = before ++ after ∧
      p = s.arrived + (before.flatMap ReceiveStep.octets).length := by
  induction steps generalizing s place torn with
  | nil => cases lost
  | cons x rest ih =>
    rw [List.flatMap_cons, List.append_assoc] at h
    rcases hx : s.step limit timeout x with ⟨receipt, s'⟩
    obtain ⟨arrived, _, _, h', stepped⟩ := step_stepped h hx
    simp only [receipts, hx] at lost
    rcases List.mem_append.mp lost with lost | lost
    · cases stepped with
      | quiet => cases lost
      | lost _ =>
        cases List.mem_singleton.mp lost
        exact ⟨[x], rest, rfl, by simp [arrived]⟩
      | taken _ _ _ | mixed _ _ _ _ _ => cases List.mem_singleton.mp lost
    · obtain ⟨before, after, rfl, rfl⟩ := ih h' lost
      refine ⟨x :: before, after, rfl, ?_⟩
      rw [arrived, List.flatMap_cons, List.length_append]
      omega

/-- A request that is taken was read from the stream in order, and from one piece of it unless a
loss tore it. -/
theorem picked_of_receipts
    (h : s.Follows limit (Request.stream requests) (steps.flatMap ReceiveStep.octets ++ coming)
      place torn)
    (taken : .taken places r ∈ receipts limit timeout steps s) :
    Picked (Request.stream requests) places r ∧
      ((∃ start, places = List.range' start r.octets.length) ∨
        ∃ p ∈ places,
          .lost p true ∈ Receipt.lost place torn :: receipts limit timeout steps s) := by
  induction steps generalizing s place torn with
  | nil => cases taken
  | cons x rest ih =>
    rw [List.flatMap_cons, List.append_assoc] at h
    rcases hx : s.step limit timeout x with ⟨receipt, s'⟩
    obtain ⟨-, place', torn', h', stepped⟩ := step_stepped h hx
    simp only [receipts, hx] at taken ⊢
    rcases List.mem_append.mp taken with taken | taken
    · cases stepped with
      | quiet => cases taken
      | lost _ => cases List.mem_singleton.mp taken
      | taken _ _ read =>
        cases List.mem_singleton.mp taken
        exact ⟨picked_of_read read, .inl ⟨place, rfl⟩⟩
      | mixed tear _ across read ordered =>
        cases List.mem_singleton.mp taken
        exact ⟨⟨read, ordered⟩, .inr ⟨place, across, tear ▸ List.mem_cons_self⟩⟩
    · obtain ⟨picked, whole | ⟨p, hp, tear⟩⟩ := ih h' taken
      · exact ⟨picked, .inl whole⟩
      · refine ⟨picked, .inr ⟨p, hp, ?_⟩⟩
        cases stepped with
        | quiet => exact tear
        | lost _ _ => exact List.mem_cons_of_mem _ tear
        | taken _ _ _ | mixed _ _ _ _ _ =>
          have later := (List.mem_cons.mp tear).resolve_left (by simp)
          exact List.mem_cons_of_mem _ (List.mem_append_right _ later)

/-- As long as nothing is read octet by octet, no loss tears a request. -/
theorem untorn_of_receipts (idle : s.begun = []) (whole : .take ∉ steps) :
    ∀ p, .lost p true ∉ receipts limit timeout steps s := by
  induction steps generalizing s with
  | nil => exact fun p lost => nomatch lost
  | cons x rest ih =>
    intro p lost
    rw [List.mem_cons, not_or] at whole
    obtain ⟨here, later⟩ := whole
    rcases hx : s.step limit timeout x with ⟨receipt, s'⟩
    obtain ⟨idle', untorn⟩ := step_untorn idle (Ne.symm here) hx
    simp only [receipts, hx] at lost
    rcases List.mem_append.mp lost with lost | lost
    · exact untorn p (Option.mem_toList.mp lost)
    · exact ih idle' later p lost

/-- What is taken and genuine is in the order of the stream. -/
theorem receipts_sublist {before after : List Request}
    (h : s.Follows limit (Request.stream (before ++ after))
      (steps.flatMap ReceiveStep.octets ++ coming) place torn)
    (genuine : AllGenuine (before ++ after) (receipts limit timeout steps s))
    (onward : (Request.stream before).length ≤ place) :
    ((receipts limit timeout steps s).filterMap Receipt.request?).Sublist after := by
  induction steps generalizing s before after place torn with
  | nil => simp [receipts]
  | cons x rest ih =>
    rw [List.flatMap_cons, List.append_assoc] at h
    rcases hx : s.step limit timeout x with ⟨receipt, s'⟩
    obtain ⟨-, place', torn', h', stepped⟩ := step_stepped h hx
    simp only [receipts, hx] at genuine ⊢
    cases stepped with
    | quiet => exact ih h' genuine onward
    | lost beyond _ =>
      rw [Option.toList_some, List.singleton_append] at genuine ⊢
      exact ih h' (allGenuine_cons_lost.mp genuine) (Nat.le_trans onward beyond)
    | @taken r _ _ _ =>
      rw [Option.toList_some, List.singleton_append] at genuine ⊢
      obtain ⟨first, others⟩ := allGenuine_cons_taken.mp genuine
      obtain ⟨skipped, behind, rfl, hplace⟩ := first.behind onward
      have split : before ++ (skipped ++ r :: behind) = (before ++ skipped ++ [r]) ++ behind := by
        simp
      rw [split] at h' others
      have next : (Request.stream (before ++ skipped ++ [r])).length ≤
          place + r.octets.length := by
        rw [Request.stream_append, List.length_append, hplace]
        simp [Request.stream]
      have later := ih h' others next
      exact (later.cons_cons r).trans (List.sublist_append_right _ _)
    | mixed _ broken =>
      rw [Option.toList_some, List.singleton_append] at genuine
      obtain ⟨⟨_, _, _, contiguous⟩, _⟩ := allGenuine_cons_taken.mp genuine
      exact absurd contiguous (broken _ _)

end Reception

/-- Whatever is lost, and wherever chunks come between the octets of a request that is read, the
requests that are taken are those of the stream, read where they begin, as long as each loss behind
which a request is taken leaves off where a request begins and leaves none half read, and only so
long. They are then taken in order. It is so, wherever the queue overflows, if every chunk ends
where a request ends and no loss tears a request; none does where each request is read without a
break. In any case what is taken was read from the stream in order, and in one piece unless a loss
tore it. -/
theorem taken_genuine_iff_resumed (limit capacity : Nat) (timeout : Duration)
    (requests : List Request) (steps : List ReceiveStep)
    (declarable : ∀ q ∈ requests, q.payload.length ≤ declarableMax)
    (pushed : steps.flatMap ReceiveStep.octets <+: Request.stream requests) :
    (AllGenuine requests (Reception.history limit capacity timeout steps) ↔
      (Reception.history limit capacity timeout steps).IsChain (Resumes requests)) ∧
    ((Reception.history limit capacity timeout steps).IsChain (Resumes requests) →
      ((Reception.history limit capacity timeout steps).filterMap
        Receipt.request?).Sublist requests) ∧
    ((∀ before after, steps = before ++ after →
        Boundary requests (before.flatMap ReceiveStep.octets).length) →
      (∀ place, .lost place true ∉ Reception.history limit capacity timeout steps) →
      (Reception.history limit capacity timeout steps).IsChain (Resumes requests)) ∧
    (.take ∉ steps →
      ∀ place, .lost place true ∉ Reception.history limit capacity timeout steps) ∧
    (∀ places r, .taken places r ∈ Reception.history limit capacity timeout steps →
      Picked (Request.stream requests) places r ∧
        ((∃ start, places = List.range' start r.octets.length) ∨
          ∃ place ∈ places,
            .lost place true ∈ Reception.history limit capacity timeout steps)) := by
  obtain ⟨coming, hstream⟩ := pushed
  have holds : (⟨.empty capacity, 0, []⟩ : Reception).Holds (Request.stream requests)
      (steps.flatMap ReceiveStep.octets ++ coming) := ⟨[], hstream.symm, rfl⟩
  have start : Reception.Follows limit _ _ 0 false ⟨.empty capacity, 0, []⟩ := .idle holds rfl
  have boundary : Boundary requests 0 := ⟨[], requests, rfl, rfl⟩
  have exact_iff : AllGenuine requests (Reception.history limit capacity timeout steps) ↔ _ :=
    (Reception.receipts_genuine_iff declarable start).trans (isChain_lost_of_boundary boundary _)
  refine ⟨exact_iff, ?_, ?_, Reception.untorn_of_receipts rfl, ?_⟩
  · intro resumed
    have genuine := exact_iff.mpr resumed
    rw [← List.nil_append requests] at start genuine
    exact Reception.receipts_sublist start genuine (Nat.le_refl _)
  · intro chunks untorn
    refine isChain_of_boundaries fun place torn hp => ?_
    obtain ⟨before, after, hsteps, hplace⟩ := Reception.lost_of_receipts start hp
    constructor
    · cases torn with
      | false => rfl
      | true => exact absurd hp (untorn place)
    · rw [hplace, Nat.zero_add]
      exact chunks before after hsteps
  · intro places r taken
    obtain ⟨picked, whole | ⟨place, across, tear⟩⟩ := Reception.picked_of_receipts start taken
    · exact ⟨picked, .inl whole⟩
    · have later := (List.mem_cons.mp tear).resolve_left (by simp)
      exact ⟨picked, .inr ⟨place, across, later⟩⟩

/-- A queue with room for one request overflows with the second. The third is taken, as itself,
although the source ends while it is being read. -/
theorem taken_genuine_iff_resumed_behind_overflow :
    let requests : List Request := [⟨⟨3, 0, 0⟩, []⟩, ⟨⟨3, 0, 1⟩, []⟩, ⟨⟨3, 0, 2⟩, []⟩]
    let steps := requests.map (fun r => ReceiveStep.push r.octets) ++
      [.take, .take, .finish, .expire] ++ List.replicate 6 .take
    let receipts := Reception.history 512 8 (.ofMilliseconds 10) steps
    receipts = [.lost 16, .taken (List.range' 16 8) ⟨⟨3, 0, 2⟩, []⟩] ∧
      receipts.IsChain (Resumes requests) ∧ AllGenuine requests receipts ∧
      (receipts.filterMap Receipt.request?).Sublist requests := by
  intro requests steps receipts
  have ran : receipts = [.lost 16, .taken (List.range' 16 8) ⟨⟨3, 0, 2⟩, []⟩] := by decide
  have pushed : steps.flatMap ReceiveStep.octets <+: Request.stream requests := ⟨[], by decide⟩
  obtain ⟨genuine_iff, inOrder, between, _, _⟩ := taken_genuine_iff_resumed 512 8
    (.ofMilliseconds 10) requests steps (by decide) pushed
  have untorn : ∀ place, .lost place true ∉ receipts := by
    intro place
    rw [ran]
    simp
  have ends : ∀ n < 14, ((steps.take n).flatMap ReceiveStep.octets).length =
      (Request.stream (requests.take n)).length := by decide
  have resumed : receipts.IsChain (Resumes requests) := by
    refine between (fun before after split => ?_) untorn
    have front : steps.take before.length = before := by rw [split, List.take_left]
    have short : before.length < 14 := by
      have total : 13 = (before ++ after).length := congrArg List.length split
      rw [List.length_append] at total
      omega
    refine ⟨requests.take before.length, requests.drop before.length,
      (List.take_append_drop _ _).symm, ?_⟩
    rw [← ends before.length short, front]
  exact ⟨ran, resumed, genuine_iff.mpr resumed, inOrder resumed⟩

/-- Requests that come in chunks of their own are torn, too, where the queue overflows while one
of them is read: six octets of the first and five of the third are taken for a request. -/
example :
    let requests : List Request := [⟨⟨3, 0, 0⟩, []⟩, ⟨⟨3, 0, 1⟩, []⟩, ⟨⟨3, 0, 2⟩, []⟩]
    let pushes := requests.map fun r => ReceiveStep.push r.octets
    Reception.history 512 8 (.ofMilliseconds 10)
        (pushes.take 1 ++ List.replicate 6 .take ++ pushes.drop 1 ++ List.replicate 5 .take) =
      [.lost 16 true, .taken (List.range 6 ++ List.range' 16 5) ⟨⟨3, 0, 0⟩, [0, 0, 2]⟩] := by
  decide

/-- Two requests are read in chunks of at most `pumpChunk` octets into a queue that has room for
either of them. The first chunk fills the queue behind the header of the second request, the first
octet of its payload overflows it, and the rest of the payload, which comes in a chunk of its own,
is taken for a request that nobody sent. -/
theorem request_invented :
    let sent : List Request := [⟨⟨0, 0, 2⟩, [0]⟩, ⟨⟨0, 0, 2⟩, [0, 3, 0, 0, 0, 1, 0, 0, 0]⟩]
    let stream := Request.stream sent
    let chunks := [stream.take 17, (stream.drop 17).take 1, stream.drop 18]
    let invented : Request := ⟨⟨3, 0, 1⟩, []⟩
    (∀ r ∈ sent, r.Acceptable 512 ∧ r.octets.length ≤ 17) ∧
      chunks.flatten = stream ∧ (∀ chunk ∈ chunks, chunk.length ≤ RxQueue.pumpChunk) ∧
      StreamInterface.takeRequest 512 (.ofMilliseconds 10)
          (RxQueue.pump (chunks.map .ok) (.empty 17)) =
        some (.ok invented, { RxQueue.empty 17 with closed := true }) ∧
      Reception.history 512 17 (.ofMilliseconds 10) (chunks.map .push ++ [.finish, .ask]) =
        [.lost 18, .taken (List.range' 18 8) invented] ∧
      invented ∉ sent := by
  intro sent stream chunks invented
  have acceptable : ∀ r ∈ sent, r.Acceptable 512 ∧ r.octets.length ≤ 17 := by
    intro r hr
    rcases List.mem_cons.mp hr with rfl | hr
    · exact ⟨⟨by decide, by decide⟩, by decide⟩
    · cases List.mem_singleton.mp hr
      exact ⟨⟨by decide, by decide⟩, by decide⟩
  refine ⟨acceptable, ?_, ?_, ?_, ?_, ?_⟩
  · decide
  · decide
  · rfl
  · decide
  · decide

end PeripheralBridge
