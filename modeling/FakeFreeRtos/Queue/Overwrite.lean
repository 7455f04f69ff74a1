import FakeFreeRtos.Queue.Send

/-!
# Overwriting the message of a queue

`xQueueOverwrite` is for queues of length 1. On a full one it replaces the message and then
notifies the set of the queue like any send (`exists_overwrite`); on an empty one it removes a
message that is not there (`run_overwrite_empty`).
-/

namespace FakeFreeRtos

open Foundations Net

section Run

variable {s : Lib} {queue : Handle} {q : FakeQueue} {item : Buffer} {m : Bytes}

/-- The memory after the only message of a queue is replaced. -/
def replaced (s : Lib) (queue : Handle) (q : FakeQueue) (item : Buffer) : Lib :=
  s.write queue { q with queue := [message item q.itemSize] }

/-- An overwrite of the message of a member notifies the set. -/
theorem run_overwrite (hn : queue ≠ nullptr) (hq : s.lookup queue = some q)
    (hlen : q.queueLength = 1) (hm : q.queue = [m]) (hi : ItemFits item q.itemSize)
    (hc : q.queueSetContainer ≠ nullptr) :
    EStateM.run (xQueueGenericSend queue item queueOVERWRITE) s =
      EStateM.run ((fun _ => pdTRUE) <$> xQueueGenericSendFuel (s.freeSlots + 1)
        q.queueSetContainer (some (handleBytes queue)) queueSEND_TO_BACK)
        (replaced s queue q item) := by
  rw [run_xQueueGenericSend_eq]
  have hback : queueOVERWRITE ≠ queueSEND_TO_BACK := by decide
  have hfront : queueOVERWRITE ≠ queueSEND_TO_FRONT := by decide
  simp [xQueueGenericSendFuel, hn, hq, hi.not_null, hlen, run_memcpy_message hi, hc, placeMessage,
    hback, hfront, hm, replaced]

theorem replaced_wellFormed (hw : s.WellFormed) (hq : s.lookup queue = some q)
    (hlen : q.queueLength = 1) (hi : ItemFits item q.itemSize) :
    (replaced s queue q item).WellFormed := by
  refine hw.write (hw.ne_nullptr hq) ⟨by rw [hlen]; rfl, fun b hb => ?_⟩
  obtain rfl := List.mem_singleton.mp hb
  exact length_message hi

/-- Replacing a message fills no slot. -/
theorem freeSlots_replaced (hq : s.lookup queue = some q) (hm : q.queue = [m]) :
    (replaced s queue q item).freeSlots = s.freeSlots := by
  have hfree := Lib.freeSlots_write hq { q with queue := [message item q.itemSize] }
  simp only [FakeQueue.freeSlots, hm, List.length_singleton] at hfree
  rw [replaced]
  omega

/-- **The notification of an overwrite is a post of the member's handle at its set.** -/
theorem exists_overwrite_post (hw : s.WellFormed) (hs : s.SetsLive) (hq : s.lookup queue = some q)
    (hlen : q.queueLength = 1) (hm : q.queue = [m]) (hi : ItemFits item q.itemSize) {set : Handle}
    (hlink : q.link = some set) :
    ∃ b s', EStateM.run (xQueueGenericSend queue item queueOVERWRITE) s = .ok pdTRUE s' ∧
      Post handleBytes (replaced s queue q item).net set .back (handleBytes queue) b s'.net ∧
      (replaced s queue q item).SameShape s' ∧ s'.WellFormed := by
  obtain ⟨rfl, hc⟩ := FakeQueue.link_eq_some_iff.mp hlink
  have hw₁ := replaced_wellFormed hw hq hlen hi
  have hshape : s.SameShape (replaced s queue q item) := .write hq _
  obtain ⟨Sq, hSq, hsize⟩ := hs queue q hq hc
  obtain ⟨l, hSq₁⟩ := hshape.exists_lookup hSq
  have hfuel : (replaced s queue q item).freeSlots < s.freeSlots + 1 := by
    rw [freeSlots_replaced hq hm]
    exact Nat.lt_succ_self _
  obtain ⟨b, s', hnested, hpost, hshape', hw'⟩ :=
    run_xQueueGenericSendFuel hw₁ (hshape.setsLive hs) hSq₁ (itemFits_handleBytes hsize queue)
      .back hfuel
  rw [message_handleBytes hsize] at hpost
  rw [copyPosition] at hnested
  refine ⟨b, s', ?_, hpost, hshape', hw'⟩
  rw [run_overwrite (hw.ne_nullptr hq) hq hlen hm hi hc, run_map, hnested]

/-- Without a set, the message is replaced and that is all. -/
theorem run_overwrite_noSet (hn : queue ≠ nullptr) (hq : s.lookup queue = some q)
    (hlen : q.queueLength = 1) (hm : q.queue = [m]) (hi : ItemFits item q.itemSize)
    (hc : q.queueSetContainer = nullptr) :
    EStateM.run (xQueueGenericSend queue item queueOVERWRITE) s =
      .ok pdTRUE (replaced s queue q item) := by
  rw [run_xQueueGenericSend_eq]
  have hback : queueOVERWRITE ≠ queueSEND_TO_BACK := by decide
  have hfront : queueOVERWRITE ≠ queueSEND_TO_FRONT := by decide
  simp [xQueueGenericSendFuel, hn, hq, hi.not_null, hlen, run_memcpy_message hi, hc, placeMessage,
    hback, hfront, hm, replaced]

/-- There is no message to remove from an empty queue. -/
theorem run_overwrite_empty (hn : queue ≠ nullptr) (hq : s.lookup queue = some q)
    (hlen : q.queueLength = 1) (hm : q.queue = []) (hi : ItemFits item q.itemSize) :
    EStateM.run (xQueueGenericSend queue item queueOVERWRITE) s = .error .undefined s := by
  rw [run_xQueueGenericSend_eq]
  have hback : queueOVERWRITE ≠ queueSEND_TO_BACK := by decide
  have hfront : queueOVERWRITE ≠ queueSEND_TO_FRONT := by decide
  simp [xQueueGenericSendFuel, hn, hq, hi.not_null, hlen, run_memcpy_message hi, placeMessage,
    hback, hfront, hm]

/-- **An overwrite of a full queue** leaves the one message that it stored, whatever the sets make
of the notification. -/
theorem exists_overwrite (hw : s.WellFormed) (hs : s.SetsLive) (hq : s.lookup queue = some q)
    (hlen : q.queueLength = 1) (hm : q.queue = [m]) (hi : ItemFits item q.itemSize) :
    ∃ s', EStateM.run (xQueueGenericSend queue item queueOVERWRITE) s = .ok pdTRUE s' ∧
      s.SameShape s' ∧ s'.WellFormed ∧ s'.messagesAt queue = [message item q.itemSize] := by
  have hn := hw.ne_nullptr hq
  have hw₁ := replaced_wellFormed hw hq hlen hi
  have hq₁ : (replaced s queue q item).lookup queue = _ := Lib.lookup_write_self ..
  have hmsg : (replaced s queue q item).messagesAt queue = [message item q.itemSize] :=
    Lib.messagesAt_of_lookup hq₁
  have hshape : s.SameShape (replaced s queue q item) := .write hq _
  by_cases hc : q.queueSetContainer = nullptr
  · exact ⟨_, run_overwrite_noSet hn hq hlen hm hi hc, hshape, hw₁, hmsg⟩
  · obtain ⟨b, s', hrun, hpost, hshape', hw'⟩ := exists_overwrite_post hw hs hq hlen hm hi
      (FakeQueue.link_eq_some_iff.mpr ⟨rfl, hc⟩)
    refine ⟨s', hrun, hshape.trans hshape', hw', ?_⟩
    have hnode := Lib.net_of_wellFormed hw₁ hq₁
    have hfull : [message item q.itemSize].length = q.queueLength.toNat := by rw [hlen]; rfl
    rw [← Lib.itemsAt_net hw', itemsAt, hpost.eq_of_full hnode hfull, ← itemsAt,
      Lib.itemsAt_net hw₁, hmsg]

end Run

end FakeFreeRtos
