import FakeFreeRtos.Queue.Abstraction
import Mathlib.Tactic.Push
import Mathlib.Tactic.Tauto

/-!
# Sends are posts

`xQueueGenericSend` to the back or the front of a live queue, with an item of at least `itemSize`
bytes, is a post of the network (`run_xQueueGenericSend`): it always returns, it answers pdTRUE
exactly when the post is accepted, and it changes nothing but messages. The nested sends to sets
are the announcements of the post. Each nested call fills a free slot, so the budget of the model
never runs out.
-/

namespace FakeFreeRtos

open Foundations

/-- The copy position that pushes at an end of the queue. -/
def copyPosition : Side → BaseType
  | .back => queueSEND_TO_BACK
  | .front => queueSEND_TO_FRONT

theorem copyPosition_ne_overwrite (e : Side) : copyPosition e ≠ queueOVERWRITE := by
  cases e <;> decide

theorem copyPosition_injective : Function.Injective copyPosition := by
  rintro (_ | _) (_ | _) h
  · rfl
  · cases h
  · cases h
  · rfl

/-- What a send answers. -/
def sendAnswer (accepted : Bool) : BaseType := if accepted then pdTRUE else errQUEUE_FULL

/-- The bytes that a send of `item` to a queue of item size `n` stores. -/
def message (item : Buffer) (n : UBaseType) : Bytes := (item.getD []).take n.toNat

/-- The source of a send is at least `itemSize` bytes; there may be none when `itemSize` is 0. -/
def ItemFits (item : Buffer) (n : UBaseType) : Prop := n.toNat ≤ (item.getD []).length

instance (item : Buffer) (n : UBaseType) : Decidable (ItemFits item n) :=
  inferInstanceAs (Decidable (_ ≤ _))

theorem length_message {item : Buffer} {n : UBaseType} (h : ItemFits item n) :
    (message item n).length = n.toNat := by
  rw [message, List.length_take, Nat.min_eq_left h]

theorem ItemFits.not_null {item : Buffer} {n : UBaseType} (h : ItemFits item n) :
    ¬ (item = none ∧ n ≠ 0) := by
  rintro ⟨rfl, hn⟩
  refine hn (UInt8.toNat_inj.mp ?_)
  simpa [ItemFits] using h

theorem itemFits_handleBytes {n : UBaseType} (h : n.toNat = sizeofHandle) (k : Handle) :
    ItemFits (some (handleBytes k)) n := by
  simp [ItemFits, h]

theorem message_handleBytes {n : UBaseType} (h : n.toNat = sizeofHandle) (k : Handle) :
    message (some (handleBytes k)) n = handleBytes k := by
  rw [message, h, Option.getD_some, List.take_of_length_le (length_handleBytes k).le]

/-! ## The steps of a send -/

theorem run_memcpy_message {item : Buffer} {n : UBaseType} (h : ItemFits item n) (s : Lib) :
    EStateM.run (memcpy (some (List.replicate n.toNat 0)) item n.toNat) s =
      .ok (some (message item n)) s := by
  by_cases hn : n.toNat = 0
  · rw [hn, run_memcpy_zero, message, hn]
    rfl
  · cases item with
    | none => exact absurd (Nat.le_zero.mp h) hn
    | some l =>
      have hr : n.toNat ≤ (List.replicate n.toNat (0 : UInt8)).length := by simp
      have hl : n.toNat ≤ l.length := h
      rw [run_memcpy hr hl, message, Option.getD_some]
      simp

@[simp] theorem run_placeMessage (l : List Bytes) (m : Bytes) (e : Side) (s : Lib) :
    EStateM.run (placeMessage l m (copyPosition e)) s = .ok (BoundedDeque.pushItems l e m) s := by
  cases e with
  | back => simp [placeMessage, copyPosition, BoundedDeque.pushItems]
  | front =>
    have h : queueSEND_TO_FRONT ≠ queueSEND_TO_BACK := by decide
    simp [placeMessage, copyPosition, BoundedDeque.pushItems, h]

section OneCall

variable {s : Lib} {queue : Handle} {q : FakeQueue} {item : Buffer}

/-- A send to a full queue. -/
theorem run_xQueueGenericSendFuel_full (hn : queue ≠ nullptr) (hq : s.lookup queue = some q)
    (hi : ItemFits item q.itemSize) (e : Side) (hfull : q.queueLength.toNat ≤ q.queue.length)
    (fuel : ℕ) :
    EStateM.run (xQueueGenericSendFuel (fuel + 1) queue item (copyPosition e)) s =
      .ok errQUEUE_FULL s := by
  simp [xQueueGenericSendFuel, hn, hq, hi.not_null, copyPosition_ne_overwrite, hfull]

/-- The memory after a message is stored in a queue with room. -/
def pushed (s : Lib) (queue : Handle) (q : FakeQueue) (e : Side) (item : Buffer) : Lib :=
  s.write queue { q with queue := BoundedDeque.pushItems q.queue e (message item q.itemSize) }

/-- A send to a queue with room stores the message and then notifies the set, if any. -/
theorem run_xQueueGenericSendFuel_room (hn : queue ≠ nullptr) (hq : s.lookup queue = some q)
    (hi : ItemFits item q.itemSize) (e : Side) (hroom : q.queue.length < q.queueLength.toNat)
    (fuel : ℕ) :
    EStateM.run (xQueueGenericSendFuel (fuel + 1) queue item (copyPosition e)) s =
      if q.queueSetContainer ≠ nullptr then
        EStateM.run ((fun _ => pdTRUE) <$> xQueueGenericSendFuel fuel q.queueSetContainer
          (some (handleBytes queue)) queueSEND_TO_BACK) (pushed s queue q e item)
      else .ok pdTRUE (pushed s queue q e item) := by
  have hroom' : ¬ q.queueLength.toNat ≤ q.queue.length := by omega
  by_cases hc : q.queueSetContainer = nullptr
  · simp [xQueueGenericSendFuel, hn, hq, hi.not_null, copyPosition_ne_overwrite, hroom',
      run_memcpy_message hi, hc, pushed]
  · simp [xQueueGenericSendFuel, hn, hq, hi.not_null, copyPosition_ne_overwrite, hroom',
      run_memcpy_message hi, hc, pushed]

end OneCall

/-! ## The budget -/

theorem Lib.freeSlots_write {s : Lib} {h : Handle} {q : FakeQueue} (hq : s.lookup h = some q)
    (q' : FakeQueue) : (s.write h q').freeSlots + q.freeSlots = s.freeSlots + q'.freeSlots := by
  have hmem : h ∈ s.heap.keys := Finmap.mem_keys.mpr (Finmap.mem_of_lookup_eq_some hq)
  have hkeys : (s.write h q').heap.keys = s.heap.keys := by
    ext x
    rw [Finmap.mem_keys, Finmap.mem_keys, Lib.write, Finmap.mem_insert]
    exact ⟨fun hx => hx.elim (fun he => he ▸ Finmap.mem_keys.mp hmem) id, Or.inr⟩
  have hrest : ∑ x ∈ s.heap.keys.erase h, ((s.write h q').lookup x).elim 0 FakeQueue.freeSlots =
      ∑ x ∈ s.heap.keys.erase h, (s.lookup x).elim 0 FakeQueue.freeSlots :=
    Finset.sum_congr rfl fun x hx => by
      rw [Lib.lookup_write_of_ne _ _ (Finset.ne_of_mem_erase hx)]
  have h₁ := Finset.add_sum_erase _ (fun x => ((s.write h q').lookup x).elim 0 FakeQueue.freeSlots)
    hmem
  have h₂ := Finset.add_sum_erase _ (fun x => (s.lookup x).elim 0 FakeQueue.freeSlots) hmem
  simp only [Lib.lookup_write_self, hq, Option.elim_some] at h₁ h₂
  rw [Lib.freeSlots, Lib.freeSlots, hkeys, ← h₁, ← h₂, hrest]
  omega

theorem Lib.freeSlots_pushed {s : Lib} {queue : Handle} {q : FakeQueue}
    (hq : s.lookup queue = some q) (hroom : q.queue.length < q.queueLength.toNat) (e : Side)
    (item : Buffer) : (pushed s queue q e item).freeSlots + 1 = s.freeSlots := by
  have h := Lib.freeSlots_write hq
    { q with queue := BoundedDeque.pushItems q.queue e (message item q.itemSize) }
  simp only [FakeQueue.freeSlots, BoundedDeque.length_pushItems] at h
  rw [pushed]
  omega

theorem run_xQueueGenericSend_eq (s : Lib) (queue : Handle) (item : Buffer) (pos : BaseType) :
    EStateM.run (xQueueGenericSend queue item pos) s =
      EStateM.run (xQueueGenericSendFuel (s.freeSlots + 1 + 1) queue item pos) s := by
  rw [xQueueGenericSend, EStateM.run_bind, EStateM.run_get, Nat.add_assoc s.freeSlots 1 1]

/-- A send to a queue that is in no set. -/
theorem run_xQueueGenericSend_noSet {s : Lib} {queue : Handle} {q : FakeQueue} {item : Buffer}
    (hn : queue ≠ nullptr) (hq : s.lookup queue = some q) (hi : ItemFits item q.itemSize)
    (hc : q.queueSetContainer = nullptr) (e : Side) :
    EStateM.run (xQueueGenericSend queue item (copyPosition e)) s =
      if q.queue.length < q.queueLength.toNat then .ok pdTRUE (pushed s queue q e item)
      else .ok errQUEUE_FULL s := by
  rw [run_xQueueGenericSend_eq]
  by_cases hroom : q.queue.length < q.queueLength.toNat
  · rw [run_xQueueGenericSendFuel_room hn hq hi e hroom, if_neg (not_not_intro hc), if_pos hroom]
  · rw [run_xQueueGenericSendFuel_full hn hq hi e (Nat.le_of_not_lt hroom), if_neg hroom]

/-! ## The refinement -/

theorem Lib.WellFormed.pushed {s : Lib} (hw : s.WellFormed) {queue : Handle} {q : FakeQueue}
    (hq : s.lookup queue = some q) {item : Buffer} (hi : ItemFits item q.itemSize) (e : Side)
    (hroom : q.queue.length < q.queueLength.toNat) : (pushed s queue q e item).WellFormed := by
  have hqw := hw.queue queue q hq
  refine hw.write (hw.ne_nullptr hq) ⟨?_, fun m hm => ?_⟩
  · simp only [BoundedDeque.length_pushItems]
    omega
  · rcases BoundedDeque.mem_pushItems.mp hm with rfl | hm
    · exact length_message hi
    · exact hqw.item_length m hm

/-- **A send is a post**, whatever budget above the number of free slots it is given. -/
theorem run_xQueueGenericSendFuel {fuel : ℕ} {s : Lib} (hw : s.WellFormed) (hs : s.SetsLive)
    {queue : Handle} {q : FakeQueue} (hq : s.lookup queue = some q) {item : Buffer}
    (hi : ItemFits item q.itemSize) (e : Side) (hfuel : s.freeSlots < fuel) :
    ∃ b s', EStateM.run (xQueueGenericSendFuel fuel queue item (copyPosition e)) s =
        .ok (sendAnswer b) s' ∧
      Post handleBytes s.net queue e (message item q.itemSize) b s'.net ∧
      s.SameShape s' ∧ s'.WellFormed := by
  induction fuel generalizing s queue q item e with
  | zero => omega
  | succ fuel ih =>
    have hn := hw.ne_nullptr hq
    have hqw := hw.queue queue q hq
    have hnode := Lib.net_of_lookup hq hqw.length_le
    by_cases hfull : q.queueLength.toNat ≤ q.queue.length
    · refine ⟨false, s, run_xQueueGenericSendFuel_full hn hq hi e hfull fuel, ?_, .refl s, hw⟩
      refine .refused hnode (BoundedDeque.push?_eq_none_iff.mpr ?_)
      exact Nat.le_antisymm hqw.length_le hfull
    · have hroom : q.queue.length < q.queueLength.toNat := by omega
      rw [run_xQueueGenericSendFuel_room hn hq hi e hroom fuel]
      set s₁ := pushed s queue q e item with hs₁
      have hw₁ : s₁.WellFormed := hw.pushed hq hi e hroom
      have hshape : s.SameShape s₁ := .write hq _
      -- the deque of the queue after the push
      obtain ⟨d, hd⟩ : ∃ d, (q.node hqw.length_le).deque.push? e (message item q.itemSize) =
          some d := by
        rw [← Option.ne_none_iff_exists']
        exact fun hnone => hroom.ne (BoundedDeque.push?_eq_none_iff.mp hnone)
      obtain ⟨-, hdc, hdi⟩ := BoundedDeque.push?_eq_some_iff.mp hd
      have hnet : s₁.net = s.net.setDeque queue (q.node hqw.length_le) d := by
        rw [← Lib.net_write_queue hqw hdc, hdi]
        rfl
      by_cases hc : q.queueSetContainer = nullptr
      · refine ⟨true, s₁, by rw [if_neg (not_not_intro hc)]; rfl, ?_, hshape, hw₁⟩
        rw [hnet]
        exact .stored hnode hd (FakeQueue.link_eq_none_iff.mpr hc)
      · obtain ⟨S, hS, hsize⟩ := hs queue q hq hc
        obtain ⟨l, hS₁⟩ := hshape.exists_lookup hS
        have hfree := Lib.freeSlots_pushed hq hroom e item
        obtain ⟨b, s', hrun, hpost, hshape', hw'⟩ := ih hw₁ (hshape.setsLive hs) hS₁
          (itemFits_handleBytes hsize queue) .back (by rw [← hs₁] at hfree; omega)
        rw [message_handleBytes hsize, hnet] at hpost
        have hrun' : EStateM.run (xQueueGenericSendFuel fuel q.queueSetContainer
            (some (handleBytes queue)) queueSEND_TO_BACK) s₁ = .ok (sendAnswer b) s' := hrun
        refine ⟨true, s', by rw [if_pos hc, run_map, hrun']; rfl, ?_, hshape.trans hshape', hw'⟩
        exact .announced hnode hd (FakeQueue.link_eq_some_iff.mpr ⟨rfl, hc⟩) hpost

theorem run_xQueueGenericSend {s : Lib} (hw : s.WellFormed) (hs : s.SetsLive) {queue : Handle}
    {q : FakeQueue} (hq : s.lookup queue = some q) {item : Buffer}
    (hi : ItemFits item q.itemSize) (e : Side) :
    ∃ b s', EStateM.run (xQueueGenericSend queue item (copyPosition e)) s =
        .ok (sendAnswer b) s' ∧
      Post handleBytes s.net queue e (message item q.itemSize) b s'.net ∧
      s.SameShape s' ∧ s'.WellFormed := by
  obtain ⟨b, s', hrun, h⟩ :=
    run_xQueueGenericSendFuel hw hs hq hi e (show s.freeSlots < s.freeSlots + 1 + 1 by omega)
  exact ⟨b, s', (run_xQueueGenericSend_eq ..).trans hrun, h⟩

end FakeFreeRtos
