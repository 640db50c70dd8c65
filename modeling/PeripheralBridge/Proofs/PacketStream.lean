import PeripheralBridge.Proofs.PacketResponses

/-!
# Streams of messages on a packet link

The packets of messages that follow each other tell where each of them ends. Wherever such a stream
has come to, what comes next is the rest of one of its messages, and it is a whole one unless the
packet in front is full.
-/

namespace PeripheralBridge

variable {size : Nat}

/-- A full packet and the packets of a message carry a longer message. -/
theorem messagePackets_append (hs : 0 < size) {p : Bytes} (full : p.length = size)
    (message : Bytes) :
    messagePackets size (p ++ message) = p :: messagePackets size message := by
  rw [messagePackets_of_le hs (by simp [full]), List.take_left' full, List.drop_left' full]

theorem messagePackets_ne_nil (hs : 0 < size) (message : Bytes) :
    messagePackets size message ≠ [] := by
  obtain ⟨full, last, hpackets, _⟩ := messagePackets_ends hs message
  simp [hpackets]

/-- A stream of packets tells where its first message ends. -/
theorem messagePackets_append_inj (hs : 0 < size) {a b : Bytes} {x y : List Bytes}
    (same : messagePackets size a ++ x = messagePackets size b ++ y) : a = b ∧ x = y := by
  have ha := UsbLink.gather_unfilled hs a x (Nat.lt_succ_of_le (Nat.le_add_right a.length b.length))
  have hb := UsbLink.gather_unfilled hs b y (Nat.lt_succ_of_le (Nat.le_add_left b.length a.length))
  rw [same, hb] at ha
  simpa [eq_comm] using ha

/-- What is left of the packets of a message carries the octets that are left of it. -/
theorem messagePackets_split (hs : 0 < size) {front back : List Bytes} {message : Bytes}
    (split : messagePackets size message = front ++ back) (more : back ≠ []) :
    front.length * size ≤ message.length ∧
      back = messagePackets size (message.drop (front.length * size)) := by
  induction front generalizing message with
  | nil => simpa using split.symm
  | cons p front ih =>
    rcases Nat.lt_or_ge message.length size with short | long
    · rw [messagePackets_of_lt short] at split
      simp [more] at split
    · rw [messagePackets_of_le hs long, List.cons_append, List.cons.injEq] at split
      obtain ⟨within, rest⟩ := ih split.2
      rw [List.length_drop] at within
      rw [List.drop_drop] at rest
      have next : (p :: front).length * size = size + front.length * size := by
        rw [List.length_cons, Nat.succ_mul, Nat.add_comm]
      rw [next]
      exact ⟨by omega, rest⟩

/-- The packets in front of a place inside a message are full. -/
theorem take_messagePackets (hs : 0 < size) {message : Bytes} {k : Nat}
    (within : k * size ≤ message.length) :
    ((messagePackets size message).take k).length = k ∧
      ∀ p ∈ (messagePackets size message).take k, p.length = size := by
  induction k generalizing message with
  | zero => simp
  | succ k ih =>
    rw [Nat.succ_mul] at within
    have long : size ≤ message.length := by omega
    have behind : k * size ≤ (message.drop size).length := by
      rw [List.length_drop]
      omega
    obtain ⟨length, full⟩ := ih behind
    rw [messagePackets_of_le hs long, List.take_succ_cons]
    exact ⟨congrArg (· + 1) length, List.forall_mem_cons.mpr ⟨List.length_take_of_le long, full⟩⟩

/-- A stream of messages has come to the packet number `k` of one of them. -/
def ArrivedAt (size : Nat) (messages front : List Bytes) (message : Bytes) (k : Nat) : Prop :=
  ∃ before after, messages = before ++ message :: after ∧ k * size ≤ message.length ∧
    front = before.flatMap (messagePackets size) ++ (messagePackets size message).take k

variable {messages front back : List Bytes} {message : Bytes} {k : Nat}

theorem ArrivedAt.behind (h : ArrivedAt size messages front message k) (m : Bytes) :
    ArrivedAt size (m :: messages) (messagePackets size m ++ front) message k := by
  obtain ⟨before, after, rfl, within, rfl⟩ := h
  exact ⟨m :: before, after, rfl, within, by simp⟩

theorem ArrivedAt.within (h : ArrivedAt size messages front message k) :
    k * size ≤ message.length := by
  obtain ⟨_, _, _, within, _⟩ := h
  exact within

/-- A place before the end of the first message is in the first message. -/
theorem ArrivedAt.in_first {m : Bytes} (h : ArrivedAt size (m :: messages) front message k)
    (early : front.length < (messagePackets size m).length) : message = m := by
  obtain ⟨before, _, hmessages, _, rfl⟩ := h
  cases before with
  | nil => exact (List.cons.inj hmessages).1.symm
  | cons b before =>
    cases (List.cons.inj hmessages).1
    rw [List.flatMap_cons, List.length_append, List.length_append] at early
    omega

/-- Wherever a stream has come to, the rest of some message comes next. -/
theorem exists_arrivedAt (hs : 0 < size)
    (split : messages.flatMap (messagePackets size) = front ++ back) (more : back ≠ []) :
    ∃ message k later, ArrivedAt size messages front message k ∧
      back = messagePackets size (message.drop (k * size)) ++ later := by
  induction messages generalizing front with
  | nil =>
    rw [List.flatMap_nil] at split
    exact absurd (List.append_eq_nil_iff.mp split.symm).2 more
  | cons m rest ih =>
    rw [List.flatMap_cons] at split
    rcases List.append_eq_append_iff.mp split with ⟨front', rfl, hrest⟩ | ⟨left, hm, hback⟩
    · obtain ⟨message, k, later, arrived, hback⟩ := ih hrest
      exact ⟨message, k, later, arrived.behind m, hback⟩
    -- the front ends with this message, or inside it
    by_cases ended : left = []
    · rw [ended, List.append_nil] at hm
      rw [ended, List.nil_append] at hback
      have next : rest.flatMap (messagePackets size) = [] ++ back := hback.symm
      obtain ⟨message, k, later, arrived, hlater⟩ := ih next
      have behind := arrived.behind m
      rw [List.append_nil, hm] at behind
      exact ⟨message, k, later, behind, hlater⟩
    · obtain ⟨within, hleft⟩ := messagePackets_split hs hm ended
      refine ⟨m, front.length, _, ⟨[], rest, rfl, within, ?_⟩, hleft ▸ hback⟩
      rw [hm, List.take_left]
      rfl

/-- A packet that is not full is never in front of a place inside a message. -/
theorem ArrivedAt.full_of_pos (hs : 0 < size) (h : ArrivedAt size messages front message k)
    (inside : 0 < k) : ∃ init p, front = init ++ [p] ∧ p.length = size := by
  obtain ⟨before, _, _, within, rfl⟩ := h
  obtain ⟨length, full⟩ := take_messagePackets hs within
  rcases List.eq_nil_or_concat ((messagePackets size message).take k) with none | ⟨init, p, last⟩
  · rw [none] at length
    exact absurd length (Nat.ne_of_lt inside)
  · rw [last] at full ⊢
    refine ⟨before.flatMap (messagePackets size) ++ init, p, ?_, full p (by simp)⟩
    rw [List.concat_eq_append, List.append_assoc]

/-- Behind whole messages there is no packet, or the last of them is not full. -/
theorem flatMap_messagePackets_ends (hs : 0 < size) (messages : List Bytes) :
    messages.flatMap (messagePackets size) = [] ∨
      ∃ init p, messages.flatMap (messagePackets size) = init ++ [p] ∧ p.length < size := by
  rcases List.eq_nil_or_concat messages with rfl | ⟨before, message, rfl⟩
  · exact .inl rfl
  · obtain ⟨full, last, hpackets, _, short⟩ := messagePackets_ends hs message
    refine .inr ⟨before.flatMap (messagePackets size) ++ full, last, ?_, short⟩
    simp [hpackets]

/-- A place where a message begins is inside no message. -/
theorem ArrivedAt.eq_zero (hs : 0 < size) (h : ArrivedAt size messages front message k)
    {start : Bytes} (begins : ArrivedAt size messages front start 0) : k = 0 := by
  rcases Nat.eq_zero_or_pos k with zero | inside
  · exact zero
  obtain ⟨init, p, rfl, full⟩ := h.full_of_pos hs inside
  obtain ⟨before, _, _, _, hfront⟩ := begins
  rw [List.take_zero, List.append_nil] at hfront
  rcases flatMap_messagePackets_ends hs before with none | ⟨init', q, last, short⟩
  · rw [none] at hfront
    simp at hfront
  · rw [last] at hfront
    obtain ⟨_, same⟩ := List.append_inj' hfront rfl
    cases same
    omega

/-- How a read of the next packet goes. -/
inductive Delivery where
  | arrives (p : Bytes)
  /-- The read fails, and the packet is still to come. -/
  | fails (f : IoFailure)
  /-- The read fails, and the packet is lost. -/
  | lost (p : Bytes) (f : IoFailure)

namespace Delivery

def packet? : Delivery → Option Bytes
  | arrives p | lost p _ => some p
  | fails _ => none

def read : Delivery → Except InterfaceError Bytes
  | arrives p => .ok p
  | fails f | lost _ f => .error (.io f)

def Failed (d : Delivery) : Prop := ∃ f, d.read = .error (.io f)

/-- All of a message arrives. -/
def ofMessage (size : Nat) (message : Bytes) : List Delivery :=
  (messagePackets size message).map arrives

theorem filterMap_ofMessage (size : Nat) (message : Bytes) :
    (ofMessage size message).filterMap packet? = messagePackets size message := by
  simp [ofMessage, packet?, Function.comp_def]

theorem ofMessage_of_lt {message : Bytes} (short : message.length < size) :
    ofMessage size message = [arrives message] := by
  rw [ofMessage, messagePackets_of_lt short]
  rfl

theorem ofMessage_append (hs : 0 < size) {p : Bytes} (full : p.length = size) (message : Bytes) :
    ofMessage size (p ++ message) = arrives p :: ofMessage size message := by
  rw [ofMessage, messagePackets_append hs full]
  rfl

/-- A read that fails is behind the packets that arrive. -/
theorem Failed.behind_arrives {d : Delivery} (failed : d.Failed) {ps : List Bytes}
    {rest before after : List Delivery}
    (split : ps.map arrives ++ rest = before ++ d :: after) :
    ∃ before', before = ps.map arrives ++ before' ∧ rest = before' ++ d :: after := by
  induction ps generalizing before with
  | nil => exact ⟨before, rfl, split⟩
  | cons p ps ih =>
    cases before with
    | nil =>
      obtain ⟨f, hf⟩ := failed
      cases (List.cons.inj split).1
      cases hf
    | cons b before =>
      obtain ⟨rfl, later⟩ := List.cons.inj split
      obtain ⟨before', rfl, hrest⟩ := ih later
      exact ⟨before', rfl, hrest⟩

end Delivery

/-- A message comes next, unless a read fails or nothing more comes before it is over. -/
theorem deliveries_cases (hs : 0 < size) {ds : List Delivery}
    (fit : ∀ p ∈ ds.filterMap Delivery.packet?, p.length ≤ size) :
    (∃ message rest, ds = Delivery.ofMessage size message ++ rest) ∨
    ∃ (full : List Bytes) (rest : List Delivery), ds = full.map .arrives ++ rest ∧
      (∀ p ∈ full, p.length = size) ∧ ∀ d rest', rest = d :: rest' → d.Failed := by
  induction ds with
  | nil => exact .inr ⟨[], [], rfl, by simp, by simp⟩
  | cons d ds ih =>
    cases d with
    | fails f => exact .inr ⟨[], .fails f :: ds, rfl, by simp, by rintro _ _ ⟨⟩; exact ⟨f, rfl⟩⟩
    | lost p f => exact .inr ⟨[], .lost p f :: ds, rfl, by simp, by rintro _ _ ⟨⟩; exact ⟨f, rfl⟩⟩
    | arrives p =>
      have hp := fit p (List.mem_filterMap.mpr ⟨_, List.mem_cons_self, rfl⟩)
      have fit := fun q hq => fit q (List.mem_cons_of_mem p hq)
      rcases Nat.lt_or_eq_of_le hp with short | whole
      · exact .inl ⟨p, ds, by rw [Delivery.ofMessage_of_lt short]; rfl⟩
      rcases ih fit with ⟨message, rest, rfl⟩ | ⟨full, rest, rfl, wholes, ends⟩
      · exact .inl ⟨p ++ message, rest, by rw [Delivery.ofMessage_append hs whole]; rfl⟩
      · exact .inr ⟨p :: full, rest, rfl, List.forall_mem_cons.mpr ⟨whole, wholes⟩, ends⟩

/-- No packet of a stream of messages is longer than full. -/
theorem fits_of_sent {deliveries : List Delivery} {messages : List Bytes} (hs : 0 < size)
    (sent : deliveries.filterMap Delivery.packet? <+: messages.flatMap (messagePackets size)) :
    ∀ p ∈ deliveries.filterMap Delivery.packet?, p.length ≤ size := by
  intro p hp
  obtain ⟨message, _, hp⟩ := List.mem_flatMap.mp (sent.mem hp)
  obtain ⟨full, last, hpackets, wholes, short⟩ := messagePackets_ends hs message
  rw [hpackets] at hp
  rcases List.mem_append.mp hp with hp | hp
  · exact Nat.le_of_eq (wholes p hp)
  · exact List.mem_singleton.mp hp ▸ Nat.le_of_lt short

end PeripheralBridge
