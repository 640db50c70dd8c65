import Mathlib.Data.Finset.Card
import Mathlib.Data.Finset.Dedup
import Mathlib.Data.List.Pairwise
import Std.Data.HashMap.Lemmas
import PeripheralBridge.Peripheral.Dispatch

/-!
# One lock for each device

Locks are issued while the instances of a registry are gone through. What has been issued at any
point accounts for the instances met so far: every lock has its instance, controllers that are
known are those that were named, and two instances have one lock exactly when they name one
controller. So a finished table stands for the physical devices of the registry, and a request
that has a handler has a lock.
-/

namespace PeripheralBridge

namespace Registry

variable {ω : Type}

/-- There is such an instance, with this controller or none behind it. -/
def Has (r : Registry ω) (classId index : UInt16) (x : Option ControllerId) : Prop :=
  ∃ p, r.get? classId = some p ∧ index < p.instances ∧ p.controller index = x

/-- Two instances are one physical device: they are the same, or name the same controller. -/
def SameDevice (r : Registry ω) (c i c' i' : UInt16) : Prop :=
  (c, i) = (c', i') ∨ ∃ id, r.Has c i (some id) ∧ r.Has c' i' (some id)

end Registry

namespace LockTable

/-- An instance that was given a lock. -/
structure Entry where
  controller : Option ControllerId
  lock : Nat

/-- Two entries have one lock exactly when they name one controller. -/
def Entry.Matches (a b : Entry) : Prop :=
  a.lock = b.lock ↔ ∃ c, a.controller = some c ∧ b.controller = some c

instance : Std.Symm Entry.Matches where
  symm a b h := by
    constructor
    · intro same
      obtain ⟨c, ha, hb⟩ := h.mp same.symm
      exact ⟨c, hb, ha⟩
    · rintro ⟨c, hb, ha⟩
      exact (h.mpr ⟨c, ha, hb⟩).symm

namespace Issued

/-- What has been issued are the locks of some entries: each lock is that of an entry, and two
entries have one lock exactly when they name one controller. -/
structure Accounts (t : Issued) (given : List Entry) : Prop where
  known_iff : ∀ c k, t.known[c]? = some k ↔ ⟨some c, k⟩ ∈ given
  lock_lt : ∀ e ∈ given, e.lock < t.size
  used : ∀ k < t.size, ∃ e ∈ given, e.lock = k
  matched : given.Pairwise Entry.Matches
  size_eq : t.size = (given.filterMap Entry.controller).toFinset.card +
    given.countP fun e => e.controller.isNone

variable {t t' : Issued} {given : List Entry} {x : Option ControllerId} {c : ControllerId} {k : Nat}

theorem accounts_nil : ({} : Issued).Accounts [] :=
  ⟨by simp, by simp, by simp, .nil, rfl⟩

/-- An entry that names a controller already met is given the lock of that controller. -/
theorem Accounts.snoc_known (h : t.Accounts given) (known : t.known[c]? = some k) :
    t.Accounts (given ++ [⟨some c, k⟩]) := by
  have met := (h.known_iff c k).mp known
  refine ⟨?_, ?_, ?_, ?_, ?_⟩
  · intro c' k'
    rw [h.known_iff, List.mem_append, List.mem_singleton]
    constructor
    · exact .inl
    · rintro (old | new)
      · exact old
      · rwa [new]
  · intro e he
    rcases List.mem_append.mp he with old | new
    · exact h.lock_lt e old
    · rw [List.mem_singleton.mp new]
      exact h.lock_lt _ met
  · intro k' hk'
    obtain ⟨e, he, same⟩ := h.used k' hk'
    exact ⟨e, List.mem_append_left _ he, same⟩
  · refine List.pairwise_append.mpr ⟨h.matched, List.pairwise_singleton _ _, ?_⟩
    intro e he new hnew
    obtain rfl := List.mem_singleton.mp hnew
    by_cases same : e = ⟨some c, k⟩
    · subst same
      exact ⟨fun _ => ⟨c, rfl, rfl⟩, fun _ => rfl⟩
    · exact h.matched.forall he met same
  · have again : c ∈ (given.filterMap Entry.controller).toFinset :=
      List.mem_toFinset.mpr (List.mem_filterMap.mpr ⟨_, met, rfl⟩)
    simpa [List.filterMap_append, List.toFinset_append, again] using h.size_eq

/-- An entry that names no controller, or one that has not been met, is given the next lock. -/
theorem Accounts.snoc_new (h : t.Accounts given) (size : t'.size = t.size + 1)
    (known : ∀ c k, t'.known[c]? = some k ↔ t.known[c]? = some k ∨ x = some c ∧ k = t.size)
    (unmet : ∀ c, x = some c → t.known[c]? = none) :
    t'.Accounts (given ++ [⟨x, t.size⟩]) := by
  have absent : ∀ c, x = some c → ∀ e ∈ given, e.controller ≠ some c := by
    rintro c hx ⟨_, k⟩ he rfl
    cases ((h.known_iff c k).mpr he).symm.trans (unmet c hx)
  refine ⟨?_, ?_, ?_, ?_, ?_⟩
  · intro c k
    rw [known, h.known_iff, List.mem_append, List.mem_singleton, Entry.mk.injEq, eq_comm (a := x)]
  · intro e he
    rw [size]
    rcases List.mem_append.mp he with old | new
    · exact Nat.lt_succ_of_lt (h.lock_lt e old)
    · rw [List.mem_singleton.mp new]
      exact Nat.lt_succ_self _
  · intro k hk
    rcases Nat.lt_succ_iff_lt_or_eq.mp (size ▸ hk) with old | rfl
    · obtain ⟨e, he, same⟩ := h.used k old
      exact ⟨e, List.mem_append_left _ he, same⟩
    · exact ⟨_, List.mem_append_right _ (List.mem_singleton_self _), rfl⟩
  · refine List.pairwise_append.mpr ⟨h.matched, List.pairwise_singleton _ _, ?_⟩
    intro e he new hnew
    obtain rfl := List.mem_singleton.mp hnew
    constructor
    · intro same
      exact absurd same (Nat.ne_of_lt (h.lock_lt e he))
    · rintro ⟨c, hc, hx⟩
      exact absurd hc (absent c hx e he)
  · have size_eq := h.size_eq
    rw [size, List.filterMap_append, List.countP_append]
    cases x with
    | none => simp [size_eq, Nat.add_assoc]
    | some c =>
      have fresh : c ∉ (given.filterMap Entry.controller).toFinset := by
        intro hc
        obtain ⟨e, he, names⟩ := List.mem_filterMap.mp (List.mem_toFinset.mp hc)
        exact absent c rfl e he names
      have one : [(⟨some c, t.size⟩ : Entry)].filterMap Entry.controller = [c] := rfl
      rw [one, List.toFinset_append, List.toFinset_cons, List.toFinset_nil, insert_empty_eq,
        Finset.union_singleton, Finset.card_insert_of_notMem fresh]
      simp
      omega

/-- A lock that is known was given before, so it is never taken for the next one. -/
theorem Accounts.forInstance_some (h : t.Accounts given) (c : ControllerId) :
    t.forInstance (some c) = match t.known[c]? with
      | some lock => (lock, t)
      | none => (t.size, ⟨t.size + 1, t.known.insert c t.size⟩) := by
  cases known : t.known[c]? with
  | none => simp [Issued.forInstance, knownOr, known]
  | some lock =>
    have earlier : lock < t.size := h.lock_lt _ ((h.known_iff c lock).mp known)
    simp [Issued.forInstance, knownOr, known, Nat.ne_of_lt earlier]

/-- The lock of one more instance. -/
theorem Accounts.forInstance (h : t.Accounts given) (x : Option ControllerId) :
    (t.forInstance x).2.Accounts (given ++ [⟨x, (t.forInstance x).1⟩]) := by
  cases x with
  | none =>
    have next : t.forInstance none = (t.size, { t with size := t.size + 1 }) := if_pos rfl
    rw [next]
    exact h.snoc_new rfl (by simp) (by simp)
  | some c =>
    rw [h.forInstance_some]
    cases known : t.known[c]? with
    | some k => exact h.snoc_known known
    | none =>
      refine h.snoc_new rfl ?_ ?_
      · intro c' k
        simp only [Std.HashMap.getElem?_insert, beq_iff_eq, Option.some.injEq]
        by_cases same : c = c'
        · subst same
          simp [known, eq_comm]
        · simp [same]
      · rintro _ ⟨⟩
        exact known

/-- The locks of some instances, in order. -/
theorem Accounts.forAll (h : t.Accounts given) (xs : List (Option ControllerId)) :
    ∃ more : List Entry, more.map Entry.controller = xs ∧
      (t.forAll xs).1 = more.map Entry.lock ∧ (t.forAll xs).2.Accounts (given ++ more) := by
  induction xs generalizing t given with
  | nil => exact ⟨[], rfl, rfl, (List.append_nil given).symm ▸ h⟩
  | cons x rest ih =>
    obtain ⟨more, controllers, locks, accounts⟩ := ih (h.forInstance x)
    refine ⟨⟨x, (t.forInstance x).1⟩ :: more, ?_, ?_, ?_⟩
    · rw [List.map_cons, controllers]
    · simp only [Issued.forAll, List.map_cons, locks]
    · rwa [List.append_cons]

/-- The locks of whole classes, in order. -/
theorem Accounts.forClasses (h : t.Accounts given) (classes : List (List (Option ControllerId))) :
    ∃ rows : List (List Entry), rows.map (·.map Entry.controller) = classes ∧
      (t.forClasses classes).1 = rows.map (·.map Entry.lock) ∧
      (t.forClasses classes).2.Accounts (given ++ rows.flatten) := by
  induction classes generalizing t given with
  | nil => exact ⟨[], rfl, rfl, (List.append_nil given).symm ▸ h⟩
  | cons c rest ih =>
    obtain ⟨more, controllers, locks, accounts⟩ := h.forAll c
    obtain ⟨rows, controllers', locks', accounts'⟩ := ih accounts
    refine ⟨more :: rows, ?_, ?_, ?_⟩
    · rw [List.map_cons, controllers, controllers']
    · simp only [Issued.forClasses, List.map_cons, locks, locks']
    · rwa [List.flatten_cons, ← List.append_assoc]

end Issued

variable {ω : Type} {r : Registry ω} {rows : List (List Entry)} {classId index : UInt16}
  {x : Option ControllerId} {k : Nat}

/-- The entries of all instances of a registry, by class and index. -/
structure Lists (r : Registry ω) (rows : List (List Entry)) : Prop where
  controllers : rows.map (·.map Entry.controller) = controllers r
  locks : (build r).slots = rows.map (·.map Entry.lock)

theorem exists_lists (r : Registry ω) :
    ∃ rows, Lists r rows ∧ ∃ t : Issued, t.size = (build r).size ∧ t.Accounts rows.flatten := by
  obtain ⟨rows, controllers, locks, accounts⟩ := Issued.accounts_nil.forClasses (controllers r)
  exact ⟨rows, ⟨controllers, locks⟩, _, rfl, accounts⟩

def at? (rows : List (List Entry)) (c i : Nat) : Option Entry := rows[c]? >>= (·[i]?)

theorem at?_map {α : Type} (f : Entry → α) (rows : List (List Entry)) (c i : Nat) :
    ((rows.map (·.map f))[c]? >>= (·[i]?)) = (at? rows c i).map f := by
  rw [at?, List.getElem?_map]
  cases rows[c]? with
  | none => rfl
  | some row => exact List.getElem?_map

/-- Entries of different instances match. -/
theorem matches_of_at? (matched : rows.flatten.Pairwise Entry.Matches) {c i c' i' : Nat}
    {a b : Entry} (ha : at? rows c i = some a) (hb : at? rows c' i' = some b)
    (distinct : (c, i) ≠ (c', i')) : a.Matches b := by
  obtain ⟨within, across⟩ := List.pairwise_flatten.mp matched
  obtain ⟨row, hrow, ha⟩ := Option.bind_eq_some_iff.mp ha
  obtain ⟨row', hrow', hb⟩ := Option.bind_eq_some_iff.mp hb
  obtain ⟨hc, rfl⟩ := List.getElem?_eq_some_iff.mp hrow
  obtain ⟨hc', rfl⟩ := List.getElem?_eq_some_iff.mp hrow'
  obtain ⟨hi, rfl⟩ := List.getElem?_eq_some_iff.mp ha
  obtain ⟨hi', rfl⟩ := List.getElem?_eq_some_iff.mp hb
  rcases Nat.lt_trichotomy c c' with before | rfl | behind
  · exact List.pairwise_iff_getElem.mp across c c' hc hc' before _ (List.getElem_mem hi) _
      (List.getElem_mem hi')
  · have one := List.pairwise_iff_getElem.mp (within _ (List.getElem_mem hc))
    rcases Nat.lt_trichotomy i i' with before | rfl | behind
    · exact one i i' hi hi' before
    · exact absurd rfl distinct
    · exact symm (one i' i hi' hi behind)
  · exact symm (List.pairwise_iff_getElem.mp across c' c hc' hc behind _ (List.getElem_mem hi') _
      (List.getElem_mem hi))

theorem mem_of_at? {c i : Nat} {e : Entry} (h : at? rows c i = some e) :
    e ∈ rows.flatten := by
  obtain ⟨row, hrow, he⟩ := Option.bind_eq_some_iff.mp h
  exact List.mem_flatten.mpr ⟨row, List.mem_of_getElem? hrow, List.mem_of_getElem? he⟩

theorem Lists.slot?_eq (h : Lists r rows) (classId index : UInt16) :
    (build r).slot? classId index = (at? rows classId.toNat index.toNat).map Entry.lock := by
  rw [slot?, h.locks, at?_map]

theorem getElem?_indices (p : Peripheral ω) (index : UInt16) :
    p.indices[index.toNat]? = if index < p.instances then some index else none := by
  by_cases within : index < p.instances
  · rw [if_pos within, Peripheral.indices, List.getElem?_map,
      List.getElem?_range (UInt16.lt_iff_toNat_lt.mp within)]
    simp
  · rw [if_neg within, List.getElem?_eq_none]
    simp only [Peripheral.indices, List.length_map, List.length_range]
    exact Nat.le_of_not_lt fun lt => within (UInt16.lt_iff_toNat_lt.mpr lt)

theorem has_iff_controllers :
    r.Has classId index x ↔
      ((controllers r)[classId.toNat]? >>= (·[index.toNat]?)) = some x := by
  rw [Registry.Has, controllers, List.getElem?_map, ← Registry.get?]
  cases r.get? classId with
  | none => simp
  | some p =>
    simp only [Option.map_some, Option.bind_eq_bind, Option.bind_some, List.getElem?_map,
      getElem?_indices, Option.some.injEq, exists_eq_left']
    by_cases within : index < p.instances <;> simp [within]

theorem Lists.has_iff (h : Lists r rows) :
    r.Has classId index x ↔
      (at? rows classId.toNat index.toNat).map Entry.controller = some x := by
  rw [has_iff_controllers, ← h.controllers, at?_map]

theorem has_unique {y : Option ControllerId} (hx : r.Has classId index x)
    (hy : r.Has classId index y) : x = y :=
  Option.some.inj ((has_iff_controllers.mp hx).symm.trans (has_iff_controllers.mp hy))

/-- An instance with a lock has an entry. -/
theorem Lists.entry_of_slot? (h : Lists r rows) (slot : (build r).slot? classId index = some k) :
    ∃ e, at? rows classId.toNat index.toNat = some e ∧ e.lock = k ∧
      r.Has classId index e.controller := by
  obtain ⟨e, he, lock⟩ := Option.map_eq_some_iff.mp ((h.slot?_eq classId index).symm.trans slot)
  exact ⟨e, he, lock, h.has_iff.mpr (by rw [he, Option.map_some])⟩

/-- Every entry is that of an instance with an address, if the classes can be numbered. -/
theorem Lists.exists_address (h : Lists r rows) (numbered : r.classes.length ≤ UInt16.size)
    {e : Entry} (he : e ∈ rows.flatten) :
    ∃ classId index : UInt16, at? rows classId.toNat index.toNat = some e := by
  obtain ⟨row, hrow, he⟩ := List.mem_flatten.mp he
  obtain ⟨c, hc⟩ := List.mem_iff_getElem?.mp hrow
  obtain ⟨i, hi⟩ := List.mem_iff_getElem?.mp he
  have listed : (LockTable.controllers r)[c]? = some (row.map Entry.controller) := by
    rw [← h.controllers, List.getElem?_map, hc, Option.map_some]
  obtain ⟨p, hp, same⟩ := Option.map_eq_some_iff.mp (List.getElem?_map.symm.trans listed)
  have hclass : c < UInt16.size :=
    Nat.lt_of_lt_of_le (List.getElem?_eq_some_iff.mp hp).1 numbered
  have hindex : i < UInt16.size := by
    have lengths := congrArg List.length same
    have hlt := (List.getElem?_eq_some_iff.mp hi).1
    simp only [Peripheral.indices, List.length_map, List.length_range] at lengths
    exact Nat.lt_trans (lengths ▸ hlt) p.instances.toNat_lt
  refine ⟨UInt16.ofNat c, UInt16.ofNat i, ?_⟩
  rw [UInt16.toNat_ofNat_of_lt' hclass, UInt16.toNat_ofNat_of_lt' hindex, at?, hc]
  exact hi

/-- A table has one lock for each physical device of a registry: for each controller that some
instances name, and for each instance that names none. Every lock is one that a request can ask
for, as long as there are no more classes than class numbers. -/
structure OneLockPerDevice (t : LockTable) (r : Registry ω) : Prop where
  slot?_isSome_iff : ∀ classId index, (t.slot? classId index).isSome ↔
    ∃ p, r.get? classId = some p ∧ index < p.instances
  slot?_lt : ∀ classId index k, t.slot? classId index = some k → k < t.size
  slot?_eq_iff : ∀ c i c' i' k k', t.slot? c i = some k → t.slot? c' i' = some k' →
    (c, i) ≠ (c', i') → (k = k' ↔ ∃ id, r.Has c i (some id) ∧ r.Has c' i' (some id))
  size_eq : t.size = ((controllers r).flatten.filterMap id).toFinset.card +
    (controllers r).flatten.countP Option.isNone
  used : r.classes.length ≤ UInt16.size →
    ∀ k < t.size, ∃ classId index, t.slot? classId index = some k

theorem build_oneLockPerDevice (r : Registry ω) : (build r).OneLockPerDevice r := by
  obtain ⟨rows, lists, t, size, accounts⟩ := exists_lists r
  refine ⟨?_, ?_, ?_, ?_, ?_⟩
  · intro classId index
    have has : (∃ x, r.Has classId index x) ↔
        ∃ p, r.get? classId = some p ∧ index < p.instances := by
      simp [Registry.Has, exists_comm]
    rw [← has, lists.slot?_eq, Option.isSome_map]
    simp only [lists.has_iff, Option.map_eq_some_iff, Option.isSome_iff_exists]
    exact ⟨fun ⟨e, he⟩ => ⟨_, e, he, rfl⟩, fun ⟨_, e, he, _⟩ => ⟨e, he⟩⟩
  · intro classId index k slot
    obtain ⟨e, he, rfl, _⟩ := lists.entry_of_slot? slot
    exact size ▸ accounts.lock_lt e (mem_of_at? he)
  · intro c i c' i' k k' slot slot' distinct
    obtain ⟨e, he, rfl, has⟩ := lists.entry_of_slot? slot
    obtain ⟨e', he', rfl, has'⟩ := lists.entry_of_slot? slot'
    have apart : (c.toNat, i.toNat) ≠ (c'.toNat, i'.toNat) := by
      simpa [UInt16.toNat_inj] using distinct
    refine (matches_of_at? accounts.matched he he' apart).trans ?_
    constructor
    · rintro ⟨id, names, names'⟩
      exact ⟨id, names ▸ has, names' ▸ has'⟩
    · rintro ⟨id, names, names'⟩
      exact ⟨id, has_unique has names, has_unique has' names'⟩
  · have flat : (controllers r).flatten = rows.flatten.map Entry.controller := by
      rw [← lists.controllers, List.map_flatten]
    rw [← size, accounts.size_eq, flat, List.filterMap_map, List.countP_map]
    rfl
  · intro numbered k hk
    obtain ⟨e, he, lock⟩ := accounts.used k (size ▸ hk)
    obtain ⟨classId, index, entry⟩ := lists.exists_address numbered he
    exact ⟨classId, index, by rw [lists.slot?_eq, entry, Option.map_some, lock]⟩

/-- An address with a handler is that of an instance. -/
theorem has_of_handler? {a : Address} {handler : Handler ω}
    (found : Dispatcher.handler? r a = some handler) :
    ∃ p, r.get? a.classId = some p ∧ a.index < p.instances := by
  rw [Dispatcher.handler?] at found
  cases hp : r.get? a.classId with
  | none =>
    rw [hp] at found
    cases found
  | some p =>
    rw [hp] at found
    by_cases within : a.index < p.instances
    · exact ⟨p, rfl, within⟩
    · simp [within] at found

/-- The lock that a request with a handler waits for. -/
theorem OneLockPerDevice.slot?_of_handler? {t : LockTable} (h : t.OneLockPerDevice r)
    {a : Address} {handler : Handler ω} (found : Dispatcher.handler? r a = some handler) :
    ∃ k, t.slot? a.classId a.index = some k :=
  Option.isSome_iff_exists.mp ((h.slot?_isSome_iff _ _).mpr (has_of_handler? found))

end LockTable

/-- A request that has a handler is answered by it, since it never lacks a lock. -/
theorem Dispatcher.dispatch_of_handler? {ω : Type} {r : Registry ω} {q : Request}
    {handler : Handler ω} (found : handler? r q.toAddress = some handler) (w : ω) :
    (ofRegistry r).dispatch q w =
      (respond r.limits.response (handler q.index q.payload w).1,
        (handler q.index q.payload w).2) := by
  have locks := LockTable.build_oneLockPerDevice r
  obtain ⟨k, slot⟩ := locks.slot?_of_handler? found
  rw [dispatch]
  simp only [ofRegistry, found, slot]

/-- The locks of a registry stand for its physical devices, one for each. A request that has a
handler has a lock, so it is the handler that answers, and two such requests wait for the same
lock exactly when they go to the same device. -/
theorem one_lock_per_device {ω : Type} (r : Registry ω) :
    (LockTable.build r).OneLockPerDevice r ∧
    (∀ (q : Request) handler, Dispatcher.handler? r q.toAddress = some handler →
      ∃ k, (LockTable.build r).slot? q.classId q.index = some k ∧
        ∀ w, (Dispatcher.ofRegistry r).dispatch q w =
          (Dispatcher.respond r.limits.response (handler q.index q.payload w).1,
            (handler q.index q.payload w).2)) ∧
    ∀ (q q' : Request) handler handler', Dispatcher.handler? r q.toAddress = some handler →
      Dispatcher.handler? r q'.toAddress = some handler' →
      ((LockTable.build r).slot? q.classId q.index = (LockTable.build r).slot? q'.classId q'.index ↔
        r.SameDevice q.classId q.index q'.classId q'.index) := by
  have locks := LockTable.build_oneLockPerDevice r
  refine ⟨locks, ?_, ?_⟩
  · intro q handler found
    obtain ⟨k, slot⟩ := locks.slot?_of_handler? found
    exact ⟨k, slot, Dispatcher.dispatch_of_handler? found⟩
  · intro q q' handler handler' found found'
    obtain ⟨k, slot⟩ := locks.slot?_of_handler? found
    obtain ⟨k', slot'⟩ := locks.slot?_of_handler? found'
    rw [Registry.SameDevice, slot, slot', Option.some.injEq]
    by_cases same : (q.classId, q.index) = (q'.classId, q'.index)
    · obtain ⟨hc, hi⟩ := Prod.mk.inj same
      rw [← hc, ← hi] at slot'
      exact ⟨fun _ => .inl same, fun _ => Option.some.inj (slot.symm.trans slot')⟩
    · rw [or_iff_right same]
      exact locks.slot?_eq_iff _ _ _ _ _ _ slot slot' same

/-- Two CAN controllers, a LIN bus on the second of them, and three pins. -/
def sharedBus : Registry Unit where
  classes := [
    { name := "can"
      instances := 2
      controller := fun i => some i.toUInt32
      functions := [fun _ request w => (.reply request, w)] },
    { name := "lin"
      instances := 1
      controller := fun _ => some 1
      functions := [fun _ _ w => (.reply [], w)] },
    { name := "gpio"
      instances := 3
      functions := [] }]
  limits := .protocolMinimum

/-- Five locks, of which the second controller and the LIN bus have one together. -/
theorem one_lock_per_device_shared_bus :
    (LockTable.build sharedBus).size = 5 ∧
      (∃ k, (LockTable.build sharedBus).slot? 0 1 = some k ∧
        (LockTable.build sharedBus).slot? 1 0 = some k) ∧
      (LockTable.build sharedBus).slot? 0 0 ≠ (LockTable.build sharedBus).slot? 0 1 ∧
      (LockTable.build sharedBus).slot? 0 2 = none := by
  obtain ⟨locks, handled, shared⟩ := one_lock_per_device sharedBus
  have lin : sharedBus.Has 1 0 (some 1) := ⟨_, rfl, by decide, rfl⟩
  have can : sharedBus.Has 0 1 (some 1) := ⟨_, rfl, by decide, rfl⟩
  obtain ⟨k, slot, _⟩ := handled ⟨⟨0, 1, 0⟩, []⟩ _ rfl
  have together := (shared ⟨⟨0, 1, 0⟩, []⟩ ⟨⟨1, 0, 0⟩, []⟩ _ _ rfl rfl).mpr (.inr ⟨1, can, lin⟩)
  refine ⟨locks.size_eq.trans (by decide), ⟨k, slot, together.symm.trans slot⟩, ?_, ?_⟩
  · intro same
    rcases (shared ⟨⟨0, 0, 0⟩, []⟩ ⟨⟨0, 1, 0⟩, []⟩ _ _ rfl rfl).mp same with
      same | ⟨id, first, second⟩
    · cases same
    · cases LockTable.has_unique first ⟨_, rfl, by decide, rfl⟩
      cases LockTable.has_unique second can
  · refine Option.not_isSome_iff_eq_none.mp fun given => ?_
    obtain ⟨p, hp, within⟩ := (locks.slot?_isSome_iff 0 2).mp given
    cases hp
    exact absurd within (by decide)

end PeripheralBridge
