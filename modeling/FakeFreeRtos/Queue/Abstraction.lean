import FakeFreeRtos.Foundations.Ledger
import FakeFreeRtos.Model.Queue

/-!
# The queues as a network of bounded deques

The queue objects in memory are a network of bounded deques of byte strings, linked by their set
memberships and announcing themselves by the bytes of their handles (`Lib.net`). The invariant of
the memory is `Lib.WellFormed`: a queue holds at most `queueLength` messages, each of `itemSize`
bytes. `Lib.SetsLive` is the promise of a caller who makes sets with `xQueueCreateSet` and does
not delete a set that still has members.
-/

namespace FakeFreeRtos

open Foundations Net

/-! ## Well-formed memories -/

/-- A queue within its bounds. -/
structure FakeQueue.WellFormed (q : FakeQueue) : Prop where
  length_le : q.queue.length ≤ q.queueLength.toNat
  item_length : ∀ m ∈ q.queue, m.length = q.itemSize.toNat

/-- Every live queue is within its bounds, and none lives at the null address. -/
structure Lib.WellFormed (s : Lib) : Prop where
  queue : ∀ h q, s.lookup h = some q → q.WellFormed
  null : s.lookup nullptr = none

/-- Whatever a queue is a member of is live and has messages of the size of a handle. -/
def Lib.SetsLive (s : Lib) : Prop :=
  ∀ h q, s.lookup h = some q → q.queueSetContainer ≠ nullptr →
    ∃ S, s.lookup q.queueSetContainer = some S ∧ S.itemSize.toNat = sizeofHandle

/-- All of a queue but its messages. -/
def FakeQueue.shape (q : FakeQueue) : FakeQueue := { q with queue := [] }

/-- The same queues up to their messages, and the same tracked mutexes. -/
structure Lib.SameShape (s s' : Lib) : Prop where
  lookup : ∀ h, (s'.lookup h).map FakeQueue.shape = (s.lookup h).map FakeQueue.shape
  s_mutexes : s'.s_mutexes = s.s_mutexes

theorem FakeQueue.eq_of_shape_eq {q q' : FakeQueue} (h : q'.shape = q.shape) :
    q' = { q with queue := q'.queue } := by
  cases q; cases q'
  simp only [FakeQueue.shape, FakeQueue.mk.injEq] at h ⊢
  tauto

namespace Lib.SameShape

variable {s s' s'' : Lib}

theorem refl (s : Lib) : SameShape s s := ⟨fun _ => rfl, rfl⟩

theorem trans (h : SameShape s s') (h' : SameShape s' s'') : SameShape s s'' :=
  ⟨fun x => (h'.lookup x).trans (h.lookup x), h'.s_mutexes.trans h.s_mutexes⟩

theorem symm (h : SameShape s s') : SameShape s' s :=
  ⟨fun x => (h.lookup x).symm, h.s_mutexes.symm⟩

theorem exists_lookup (hs : SameShape s s') {h : Handle} {q : FakeQueue}
    (hq : s.lookup h = some q) : ∃ l, s'.lookup h = some { q with queue := l } := by
  have hh := hs.lookup h
  rw [hq] at hh
  obtain ⟨q', hq', he⟩ := Option.map_eq_some_iff.mp hh
  exact ⟨q'.queue, by rw [hq', ← FakeQueue.eq_of_shape_eq he]⟩

theorem lookup_eq_none_iff (hs : SameShape s s') (h : Handle) :
    s'.lookup h = none ↔ s.lookup h = none := by
  rw [← Option.map_eq_none_iff (f := FakeQueue.shape), hs.lookup h, Option.map_eq_none_iff]

theorem write {h : Handle} {q : FakeQueue} (hq : s.lookup h = some q) (l : List Bytes) :
    SameShape s (s.write h { q with queue := l }) := by
  refine ⟨fun x => ?_, rfl⟩
  by_cases hx : x = h
  · subst hx
    rw [lookup_write_self, hq]
    rfl
  · rw [lookup_write_of_ne _ _ hx]

theorem setsLive (hs : SameShape s s') (h : s.SetsLive) : s'.SetsLive := by
  intro x q' hq' hne
  obtain ⟨l, hq⟩ := hs.symm.exists_lookup hq'
  obtain ⟨S, hS, hsize⟩ := h x _ hq hne
  obtain ⟨l', hS'⟩ := hs.exists_lookup hS
  exact ⟨_, hS', hsize⟩

end Lib.SameShape

theorem Lib.WellFormed.ne_nullptr {s : Lib} (hw : s.WellFormed) {h : Handle} {q : FakeQueue}
    (hq : s.lookup h = some q) : h ≠ nullptr := by
  rintro rfl
  rw [hw.null] at hq
  cases hq

theorem Lib.WellFormed.write {s : Lib} (hw : s.WellFormed) {h : Handle} {q : FakeQueue}
    (hh : h ≠ nullptr) (hq : q.WellFormed) : (s.write h q).WellFormed := by
  constructor
  · intro x q' hq'
    by_cases hx : x = h
    · subst hx
      rw [lookup_write_self, Option.some.injEq] at hq'
      exact hq' ▸ hq
    · rw [lookup_write_of_ne _ _ hx] at hq'
      exact hw.queue x q' hq'
  · rw [lookup_write_of_ne _ _ hh.symm]
    exact hw.null

/-! ## The network -/

/-- The set a queue belongs to. -/
def FakeQueue.link (q : FakeQueue) : Option Handle :=
  if q.queueSetContainer = nullptr then none else some q.queueSetContainer

theorem FakeQueue.link_eq_none_iff {q : FakeQueue} :
    q.link = none ↔ q.queueSetContainer = nullptr := by
  simp [FakeQueue.link]

theorem FakeQueue.link_eq_some_iff {q : FakeQueue} {S : Handle} :
    q.link = some S ↔ q.queueSetContainer = S ∧ S ≠ nullptr := by
  by_cases h : q.queueSetContainer = nullptr
  · simp only [FakeQueue.link, h, ↓reduceIte, reduceCtorEq, false_iff, not_and, not_not]
    exact fun hS => hS.symm
  · simp only [FakeQueue.link, h, ↓reduceIte, Option.some.injEq]
    exact ⟨fun hS => ⟨hS, hS ▸ h⟩, fun hS => hS.1⟩

/-- The node of a queue within its bounds. -/
def FakeQueue.node (q : FakeQueue) (h : q.queue.length ≤ q.queueLength.toNat) :
    Node Handle Bytes :=
  ⟨⟨q.queueLength.toNat, q.queue, h⟩, q.link⟩

/-- The queues of a memory as a network. -/
def Lib.net (s : Lib) : Net Handle Bytes := fun h =>
  (s.lookup h).bind fun q =>
    if hq : q.queue.length ≤ q.queueLength.toNat then some (q.node hq) else none

theorem Lib.net_of_lookup {s : Lib} {h : Handle} {q : FakeQueue} (hq : s.lookup h = some q)
    (hl : q.queue.length ≤ q.queueLength.toNat) : s.net h = some (q.node hl) := by
  simp only [Lib.net, hq, Option.bind_some, hl, ↓reduceDIte]

theorem Lib.net_of_wellFormed {s : Lib} (hw : s.WellFormed) {h : Handle} {q : FakeQueue}
    (hq : s.lookup h = some q) : s.net h = some (q.node (hw.queue h q hq).length_le) :=
  Lib.net_of_lookup hq _

theorem Lib.net_of_lookup_none {s : Lib} {h : Handle} (hq : s.lookup h = none) :
    s.net h = none := by
  simp only [Lib.net, hq, Option.bind_none]

theorem Lib.lookup_of_net {s : Lib} {h : Handle} {n : Node Handle Bytes} (hn : s.net h = some n) :
    ∃ q, ∃ hl, s.lookup h = some q ∧ n = q.node hl := by
  cases hq : s.lookup h with
  | none => rw [Lib.net_of_lookup_none hq] at hn; cases hn
  | some q =>
    by_cases hl : q.queue.length ≤ q.queueLength.toNat
    · rw [Lib.net_of_lookup hq hl] at hn
      exact ⟨q, hl, rfl, (Option.some.inj hn).symm⟩
    · simp [Lib.net, hq, hl] at hn

theorem Lib.net_write (s : Lib) (h : Handle) (q : FakeQueue)
    (hl : q.queue.length ≤ q.queueLength.toNat) :
    (s.write h q).net = Function.update s.net h (some (q.node hl)) := by
  funext x
  by_cases hx : x = h
  · subst hx
    rw [Function.update_self, Lib.net_of_lookup (lookup_write_self ..) hl]
  · simp only [Lib.net, lookup_write_of_ne _ _ hx, Function.update_of_ne hx]

/-- Writing other messages to a queue sets the deque of its node. -/
theorem Lib.net_write_queue {s : Lib} {h : Handle} {q : FakeQueue} (hq : q.WellFormed)
    {d : BoundedDeque Bytes} (hd : d.capacity = q.queueLength.toNat) :
    (s.write h { q with queue := d.items }).net = s.net.setDeque h (q.node hq.length_le) d := by
  have hl : d.items.length ≤ q.queueLength.toNat := hd ▸ d.fits
  rw [Lib.net_write _ _ _ hl, Net.setDeque]
  congr 2
  simp only [FakeQueue.node, Node.mk.injEq]
  exact ⟨BoundedDeque.ext hd.symm rfl, rfl⟩

/-- Membership in the network is membership in memory. -/
theorem Lib.member_net_iff {s : Lib} (hw : s.WellFormed) {S h : Handle} :
    s.net.Member S h ↔ ∃ q, s.lookup h = some q ∧ q.link = some S := by
  constructor
  · rintro ⟨n, hn, hl⟩
    obtain ⟨q, hq, hlq, rfl⟩ := Lib.lookup_of_net hn
    exact ⟨q, hlq, hl⟩
  · rintro ⟨q, hq, hl⟩
    exact ⟨_, Lib.net_of_lookup hq (hw.queue h q hq).length_le, hl⟩

/-! ## Reading the network off the memory -/

/-- The set that the queue at `h` is in. -/
def Lib.setOf (s : Lib) (h : Handle) : Option Handle := (s.lookup h).bind FakeQueue.link

/-- The messages waiting in the queue at `h`. -/
def Lib.messagesAt (s : Lib) (h : Handle) : List Bytes := (s.lookup h).elim [] FakeQueue.queue

/-- The length of the queue at `h`. -/
def Lib.lengthAt (s : Lib) (h : Handle) : ℕ := (s.lookup h).elim 0 (·.queueLength.toNat)

theorem Lib.setOf_of_lookup {s : Lib} {h : Handle} {q : FakeQueue} (hq : s.lookup h = some q) :
    s.setOf h = q.link := by
  rw [Lib.setOf, hq, Option.bind_some]

theorem Lib.messagesAt_of_lookup {s : Lib} {h : Handle} {q : FakeQueue}
    (hq : s.lookup h = some q) : s.messagesAt h = q.queue := by
  rw [Lib.messagesAt, hq, Option.elim_some]

theorem Lib.exists_lookup_of_setOf {s : Lib} {S h : Handle} (hm : s.setOf h = some S) :
    ∃ q, s.lookup h = some q ∧ q.link = some S := Option.bind_eq_some_iff.mp hm

/-- Every live handle satisfies `P`. -/
def Lib.AllLive (s : Lib) (P : Handle → Prop) : Prop := ∀ x ∈ s.heap.keys, P x

/-- It is decided over the live handles: there are too many handles to go through all. -/
instance (s : Lib) (P : Handle → Prop) [DecidablePred P] : Decidable (s.AllLive P) :=
  Finset.decidableDforallFinset

theorem Lib.AllLive.of_setOf {s : Lib} {P : Handle → Prop} (h : s.AllLive P) {x S : Handle}
    (hx : s.setOf x = some S) : P x := by
  obtain ⟨q, hq, -⟩ := Lib.exists_lookup_of_setOf hx
  exact h x (Finmap.mem_keys.mpr (Finmap.mem_of_lookup_eq_some hq))

theorem Lib.SameShape.setOf_eq {s s' : Lib} (h : s.SameShape s') (x : Handle) :
    s'.setOf x = s.setOf x := by
  cases hq : s.lookup x with
  | none => rw [Lib.setOf, Lib.setOf, hq, (h.lookup_eq_none_iff x).mpr hq]
  | some q =>
    obtain ⟨l, hq'⟩ := h.exists_lookup hq
    rw [Lib.setOf_of_lookup hq, Lib.setOf_of_lookup hq']
    rfl

section Net

variable {s : Lib} (hw : s.WellFormed)

include hw

theorem Lib.member_net_iff_setOf {S h : Handle} : s.net.Member S h ↔ s.setOf h = some S := by
  rw [Lib.member_net_iff hw, Lib.setOf, Option.bind_eq_some_iff]

theorem Lib.itemsAt_net (h : Handle) : s.net.itemsAt h = s.messagesAt h := by
  cases hq : s.lookup h with
  | none => simp [itemsAt, Lib.messagesAt, Lib.net_of_lookup_none hq, hq]
  | some q =>
    rw [itemsAt_of_node (Lib.net_of_wellFormed hw hq), Lib.messagesAt_of_lookup hq]
    rfl

theorem Lib.cap_net (h : Handle) : s.net.cap h = s.lengthAt h := by
  cases hq : s.lookup h with
  | none => simp [cap, Lib.lengthAt, Lib.net_of_lookup_none hq, hq]
  | some q =>
    rw [cap_of_node (Lib.net_of_wellFormed hw hq), Lib.lengthAt, hq, Option.elim_some]
    rfl

end Net

end FakeFreeRtos
