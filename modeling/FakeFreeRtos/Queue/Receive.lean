import FakeFreeRtos.Queue.Reachable

/-!
# Receives are pops

`cms::InternalQueueReceive` on a live queue, into a buffer of at least `itemSize` bytes, pops the
deque of the queue in the network: the message overwrites the start of the buffer, whose other
bytes stay. `xQueuePeek` copies the same bytes and leaves the message in place. A take, which
receives into an eight-byte local, and a select, which receives into a handle, are instances.
-/

namespace FakeFreeRtos

open Foundations

/-- The bytes at a buffer after the message `m` is copied there. -/
def filled (buffer : Bytes) (m : Bytes) : Bytes := m ++ buffer.drop m.length

theorem run_memcpy_filled {m buffer : Bytes} {n : ℕ} (hm : m.length = n) (hb : n ≤ buffer.length)
    (s : Lib) : EStateM.run (memcpy (some buffer) (some m) n) s =
      .ok (some (filled buffer m)) s := by
  rw [run_memcpy hb hm.ge, ← hm, List.take_length, filled]

section Receive

variable {s : Lib} {queue : Handle} {q : FakeQueue} {buffer m : Bytes} {rest : List Bytes}

theorem run_internalQueueReceive_nil (hn : queue ≠ nullptr) (hq : s.lookup queue = some q)
    (hm : q.queue = []) (buffer : Buffer) :
    EStateM.run (internalQueueReceive queue buffer) s = .ok (pdFALSE, buffer) s := by
  simp [internalQueueReceive, hn, hq, hm]

theorem run_internalQueueReceive_of_length (hn : queue ≠ nullptr) (hq : s.lookup queue = some q)
    (hm : q.queue = m :: rest) (hlen : m.length = q.itemSize.toNat)
    (hb : q.itemSize.toNat ≤ buffer.length) :
    EStateM.run (internalQueueReceive queue (some buffer)) s =
      .ok (pdTRUE, some (filled buffer m)) (s.write queue { q with queue := rest }) := by
  simp [internalQueueReceive, hn, hq, hm, run_memcpy_filled hlen hb]

theorem run_internalQueueReceive_cons (hw : s.WellFormed) (hq : s.lookup queue = some q)
    (hm : q.queue = m :: rest) (hb : q.itemSize.toNat ≤ buffer.length) :
    EStateM.run (internalQueueReceive queue (some buffer)) s =
      .ok (pdTRUE, some (filled buffer m)) (s.write queue { q with queue := rest }) :=
  run_internalQueueReceive_of_length (hw.ne_nullptr hq) hq hm
    ((hw.queue queue q hq).item_length m (hm ▸ List.mem_cons_self)) hb

theorem run_xQueueReceive_eq (hn : queue ≠ nullptr) (buffer : Bytes) :
    EStateM.run (xQueueReceive queue (some buffer)) s =
      EStateM.run (internalQueueReceive queue (some buffer)) s := by
  simp [xQueueReceive, hn]

theorem run_xQueueReceive_nil (hn : queue ≠ nullptr) (hq : s.lookup queue = some q)
    (hm : q.queue = []) (buffer : Bytes) :
    EStateM.run (xQueueReceive queue (some buffer)) s = .ok (pdFALSE, some buffer) s := by
  rw [run_xQueueReceive_eq hn, run_internalQueueReceive_nil hn hq hm]

theorem run_xQueueReceive_cons (hw : s.WellFormed) (hq : s.lookup queue = some q)
    (hm : q.queue = m :: rest) (hb : q.itemSize.toNat ≤ buffer.length) :
    EStateM.run (xQueueReceive queue (some buffer)) s =
      .ok (pdTRUE, some (filled buffer m)) (s.write queue { q with queue := rest }) := by
  rw [run_xQueueReceive_eq (hw.ne_nullptr hq), run_internalQueueReceive_cons hw hq hm hb]

theorem run_xQueuePeek_nil (hn : queue ≠ nullptr) (hq : s.lookup queue = some q)
    (hm : q.queue = []) (buffer : Buffer) :
    EStateM.run (xQueuePeek queue buffer) s = .ok (pdFALSE, buffer) s := by
  simp [xQueuePeek, hn, hq, hm]

theorem run_xQueuePeek_cons (hw : s.WellFormed) (hq : s.lookup queue = some q)
    (hm : q.queue = m :: rest) (hb : q.itemSize.toNat ≤ buffer.length) :
    EStateM.run (xQueuePeek queue (some buffer)) s = .ok (pdTRUE, some (filled buffer m)) s := by
  have hlen : m.length = q.itemSize.toNat :=
    (hw.queue queue q hq).item_length m (hm ▸ List.mem_cons_self)
  simp [xQueuePeek, hw.ne_nullptr hq, hq, hm, run_memcpy_filled hlen hb]

/-- The memory after a message is taken from the front of a queue is within bounds, and its
network has the popped deque. -/
theorem Lib.WellFormed.popped (hw : s.WellFormed) (hq : s.lookup queue = some q)
    (hm : q.queue = m :: rest) :
    ∃ d, (q.node (hw.queue queue q hq).length_le).deque.pop? = some (m, d) ∧
      (s.write queue { q with queue := rest }).WellFormed ∧
      (s.write queue { q with queue := rest }).net =
        s.net.setDeque queue (q.node (hw.queue queue q hq).length_le) d := by
  have hqw := hw.queue queue q hq
  have hlen : rest.length ≤ q.queueLength.toNat := by
    have := hqw.length_le
    rw [hm, List.length_cons] at this
    omega
  refine ⟨⟨q.queueLength.toNat, rest, hlen⟩, BoundedDeque.pop?_eq_some_iff.mpr ⟨rfl, hm⟩, ?_,
    Lib.net_write_queue hqw (d := ⟨q.queueLength.toNat, rest, hlen⟩) rfl⟩
  exact hw.write (hw.ne_nullptr hq) ⟨hlen, fun m' hm' =>
    hqw.item_length m' (hm ▸ List.mem_cons_of_mem _ hm')⟩

/-! ## Selects, takes and gives -/

theorem run_xQueueSelectFromSet_nil (hn : queue ≠ nullptr) (hq : s.lookup queue = some q)
    (hm : q.queue = []) : EStateM.run (xQueueSelectFromSet queue) s = .ok nullptr s := by
  rw [xQueueSelectFromSet, EStateM.run_bind, run_xQueueReceive_nil hn hq hm]
  simp [pdTRUE_ne_pdFALSE.symm]

/-- A select receives the first message into a handle that is null before. -/
theorem run_xQueueSelectFromSet_filled (hw : s.WellFormed) (hq : s.lookup queue = some q)
    (hb : q.itemSize.toNat ≤ sizeofHandle) (hm : q.queue = m :: rest) :
    EStateM.run (xQueueSelectFromSet queue) s =
      .ok (handleOfBytes (filled (handleBytes nullptr) m))
        (s.write queue { q with queue := rest }) := by
  rw [xQueueSelectFromSet, EStateM.run_bind,
    run_xQueueReceive_cons hw hq hm (by rwa [length_handleBytes])]
  simp

/-- A message that is longer than a handle is received past the end of the variable. -/
theorem run_xQueueSelectFromSet_long (hw : s.WellFormed) (hq : s.lookup queue = some q)
    (hb : ¬ q.itemSize.toNat ≤ sizeofHandle) (hm : q.queue = m :: rest) :
    EStateM.run (xQueueSelectFromSet queue) s = .error .undefined s := by
  have h0 : q.itemSize.toNat ≠ 0 := fun h0 => hb (h0 ▸ Nat.zero_le _)
  simp [xQueueSelectFromSet, xQueueReceive, internalQueueReceive, memcpy, hw.ne_nullptr hq, hq, hm,
    h0, hb]

theorem finalState_xQueueSelectFromSet_of_none (hq : s.lookup queue = none) :
    finalState (EStateM.run (xQueueSelectFromSet queue) s) = s := by
  by_cases hn : queue = nullptr
  · simp [xQueueSelectFromSet, xQueueReceive, hn]
  · simp [xQueueSelectFromSet, xQueueReceive, internalQueueReceive, hn, run_deref_none hq]

/-- A select from a set returns the handle that the first message holds. -/
theorem run_xQueueSelectFromSet_cons (hw : s.WellFormed) (hq : s.lookup queue = some q)
    (hsize : q.itemSize.toNat = sizeofHandle) (hm : q.queue = m :: rest) :
    EStateM.run (xQueueSelectFromSet queue) s =
      .ok (handleOfBytes m) (s.write queue { q with queue := rest }) := by
  have hlen : m.length = sizeofHandle :=
    hsize ▸ (hw.queue queue q hq).item_length m (hm ▸ List.mem_cons_self)
  have hfill : filled (handleBytes nullptr) m = m := by
    rw [filled, hlen, ← length_handleBytes nullptr, List.drop_length, List.append_nil]
  rw [run_xQueueSelectFromSet_filled hw hq hsize.le hm, hfill]

theorem run_xQueueSemaphoreTake_nil (hn : queue ≠ nullptr) (hq : s.lookup queue = some q)
    (ht : q.queueType ≠ queueQUEUE_TYPE_RECURSIVE_MUTEX) (hm : q.queue = []) :
    EStateM.run (xQueueSemaphoreTake queue) s = .ok pdFALSE s := by
  simp [xQueueSemaphoreTake, internalQueueReceiveDummy, hn, hq, ht,
    run_internalQueueReceive_nil hn hq hm]

/-- A take receives into eight bytes. -/
theorem run_xQueueSemaphoreTake_of_length (hn : queue ≠ nullptr) (hq : s.lookup queue = some q)
    (ht : q.queueType ≠ queueQUEUE_TYPE_RECURSIVE_MUTEX) (hi : q.itemSize.toNat ≤ 8)
    (hm : q.queue = m :: rest) (hlen : m.length = q.itemSize.toNat) :
    EStateM.run (xQueueSemaphoreTake queue) s =
      .ok pdTRUE (s.write queue { q with queue := rest }) := by
  have hb : q.itemSize.toNat ≤ (List.replicate 8 (0 : UInt8)).length := by
    rwa [List.length_replicate]
  have hrun := run_internalQueueReceive_of_length hn hq hm hlen hb
  simp only [xQueueSemaphoreTake, internalQueueReceiveDummy, EStateM.run_bind,
    run_configASSERT_of hn, run_deref hq, run_configASSERT_of ht, hrun, EStateM.run_pure]

theorem run_xQueueSemaphoreTake_cons (hw : s.WellFormed) (hq : s.lookup queue = some q)
    (ht : q.queueType ≠ queueQUEUE_TYPE_RECURSIVE_MUTEX) (hi : q.itemSize.toNat ≤ 8)
    (hm : q.queue = m :: rest) :
    EStateM.run (xQueueSemaphoreTake queue) s =
      .ok pdTRUE (s.write queue { q with queue := rest }) :=
  run_xQueueSemaphoreTake_of_length (hw.ne_nullptr hq) hq ht hi hm
    ((hw.queue queue q hq).item_length m (hm ▸ List.mem_cons_self))

/-- A give from an interrupt is a send of no item. -/
theorem run_xQueueGiveFromISR_eq (hn : queue ≠ nullptr) (hq : s.lookup queue = some q)
    (ht : q.queueType ≠ queueQUEUE_TYPE_RECURSIVE_MUTEX) :
    EStateM.run (xQueueGiveFromISR queue) s =
      EStateM.run (xQueueGenericSend queue none (copyPosition .back)) s := by
  simp only [xQueueGiveFromISR, EStateM.run_bind, run_configASSERT_of hn, run_deref hq,
    run_configASSERT_of ht]
  rfl

end Receive

/-! ## Counts -/

theorem run_uxQueueMessagesWaiting {s : Lib} {queue : Handle} {q : FakeQueue}
    (hn : queue ≠ nullptr) (hq : s.lookup queue = some q) :
    EStateM.run (uxQueueMessagesWaiting queue) s = .ok (UInt8.ofNat q.queue.length) s := by
  simp [uxQueueMessagesWaiting, hn, hq]

theorem run_uxQueueSpacesAvailable {s : Lib} {queue : Handle} {q : FakeQueue}
    (hn : queue ≠ nullptr) (hq : s.lookup queue = some q) :
    EStateM.run (uxQueueSpacesAvailable queue) s =
      .ok (q.queueLength - UInt8.ofNat q.queue.length) s := by
  simp [uxQueueSpacesAvailable, hn, hq, run_uxQueueMessagesWaiting hn hq]

/-- The 8-bit count of the messages of a queue within its bounds does not wrap. -/
theorem FakeQueue.WellFormed.toNat_waiting {q : FakeQueue} (hq : q.WellFormed) :
    (UInt8.ofNat q.queue.length).toNat = q.queue.length := by
  have := hq.length_le
  have := q.queueLength.toNat_lt
  rw [UInt8.toNat_ofNat', Nat.mod_eq_of_lt (by omega)]

theorem FakeQueue.WellFormed.waiting_eq_zero_iff {q : FakeQueue} (hq : q.WellFormed) :
    UInt8.ofNat q.queue.length = 0 ↔ q.queue = [] := by
  rw [← UInt8.toNat_inj, hq.toNat_waiting, UInt8.toNat_zero, List.length_eq_zero_iff]

/-- Nor does the 8-bit difference. -/
theorem FakeQueue.WellFormed.toNat_spaces {q : FakeQueue} (hq : q.WellFormed) :
    (q.queueLength - UInt8.ofNat q.queue.length).toNat = q.queueLength.toNat - q.queue.length := by
  rw [UInt8.toNat_sub_of_le, hq.toNat_waiting]
  rw [UInt8.le_iff_toNat_le, hq.toNat_waiting]
  exact hq.length_le

end FakeFreeRtos
