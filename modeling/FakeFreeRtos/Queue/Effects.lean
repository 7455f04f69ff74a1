import FakeFreeRtos.Queue.Send
import FakeFreeRtos.Model.QueueSet
import FakeFreeRtos.Model.Mutex

/-!
# What the calls can change

No assumption is made here on what a program passes to a call: handles may be null or stale,
buffers too short, copy positions invalid. One level of a send (`run_xQueueGenericSendFuel_cases`)
and a receive (`run_internalQueueReceive_cases`) are taken apart once; from them, the calls that
only move messages (`Lib.Shuffles`) and the calls that only read are told apart from the few that
change more.
-/

namespace FakeFreeRtos

open Foundations

/-! ## Reading steps -/

theorem finalState_deref (h : Handle) (s : Lib) : finalState (EStateM.run (deref h) s) = s := by
  cases hq : s.lookup h with
  | none => rw [run_deref_none hq]; rfl
  | some q => rw [run_deref hq]; rfl

theorem finalState_configASSERT (x : Prop) [Decidable x] (s : Lib) :
    finalState (EStateM.run (configASSERT x : Api Unit) s) = s := by
  by_cases hx : x
  · rw [run_configASSERT_of hx]; rfl
  · rw [run_configASSERT_of_not hx]; rfl

section Reads

variable {R : Lib → Lib → Prop} [IsPreorder Lib R]

theorem ensures_deref (h : Handle) : Ensures R (deref h) := .of_reads (finalState_deref h)

theorem ensures_configASSERT (x : Prop) [Decidable x] : Ensures R (configASSERT x : Api Unit) :=
  .of_reads (finalState_configASSERT x)

theorem ensures_leave {α : Type} (e : Exit) : Ensures R (leave e : Api α) := .of_reads fun _ => rfl

theorem ensures_memcpy (dest src : Buffer) (n : ℕ) : Ensures R (memcpy dest src n) := by
  unfold memcpy
  refine .ite (fun _ => .pure _) fun _ => ?_
  cases dest <;> cases src
  any_goals exact ensures_leave _
  exact .ite (fun _ => .pure _) fun _ => ensures_leave _

theorem ensures_uxQueueMessagesWaiting (queue : Handle) :
    Ensures R (uxQueueMessagesWaiting queue) :=
  (ensures_configASSERT _).bind fun _ => (ensures_deref _).bind fun _ => .pure _

theorem ensures_uxQueueSpacesAvailable (queue : Handle) :
    Ensures R (uxQueueSpacesAvailable queue) :=
  (ensures_configASSERT _).bind fun _ => (ensures_deref _).bind fun _ =>
    (ensures_uxQueueMessagesWaiting _).bind fun _ => .pure _

theorem ensures_xQueuePeek (queue : Handle) (buffer : Buffer) :
    Ensures R (xQueuePeek queue buffer) := by
  refine (ensures_configASSERT _).bind fun _ => (ensures_deref _).bind fun q => ?_
  cases q.queue with
  | nil => exact .pure _
  | cons front rest => exact (ensures_memcpy _ _ _).bind fun _ => .pure _

theorem ensures_anyLocked (l : List Handle) : Ensures R (anyLocked l) := by
  induction l with
  | nil => exact .pure _
  | cons h l ih =>
    exact (ensures_uxQueueMessagesWaiting h).bind fun _ => .ite (fun _ => .pure _) fun _ => ih

theorem ensures_isAnyMutexLocked : Ensures R isAnyMutexLocked := by
  refine .bind (.of_reads fun _ => rfl) fun s => ?_
  cases s.s_mutexes with
  | none => exact .pure _
  | some l => exact ensures_anyLocked l

end Reads

/-! ## One level of a send, one receive -/

/-- What the branches on the copy position make of the messages of `q`, when they store `msg`. -/
def Stores (q : FakeQueue) (msg : Bytes) (pos : BaseType) (l : List Bytes) : Prop :=
  (∃ e, pos = copyPosition e ∧ q.queue.length < q.queueLength.toNat ∧
    l = BoundedDeque.pushItems q.queue e msg) ∨
  (pos = queueOVERWRITE ∧ q.queueLength = 1 ∧ ∃ m rest, q.queue = m :: rest ∧ l = msg :: rest)

theorem run_memcpy_message_cases (item : Buffer) (n : UBaseType) (s : Lib) :
    (ItemFits item n ∧ EStateM.run (memcpy (some (List.replicate n.toNat 0)) item n.toNat) s =
      .ok (some (message item n)) s) ∨
    EStateM.run (memcpy (some (List.replicate n.toNat 0)) item n.toNat) s =
      .error .undefined s := by
  by_cases h : ItemFits item n
  · exact .inl ⟨h, run_memcpy_message h s⟩
  · right
    have h0 : n.toNat ≠ 0 := fun h0 => h (by rw [ItemFits, h0]; exact Nat.zero_le _)
    cases item with
    | none => simp [memcpy, h0]
    | some l =>
      have hl : ¬ n.toNat ≤ l.length := h
      simp [memcpy, h0, hl]

/-- How one level of a send leaves early: a `configASSERT` trips only on a null queue, on no item,
or on a copy position other than back and front. -/
def LeavesBy (queue : Handle) (item : Buffer) (pos : BaseType) (x : Exit) : Prop :=
  x = .undefined ∨
  (x = .assertFailed ∧ (queue = nullptr ∨ item = none ∨ ∀ e, pos ≠ copyPosition e))

section PastTheChecks

/-! What a send does once it is past the assertions and the check for a full queue. -/

variable {fuel : ℕ} {s : Lib} {queue : Handle} {item : Buffer} {pos : BaseType} {q : FakeQueue}
  {x : Exit} (hn : queue ≠ nullptr) (hq : s.lookup queue = some q)
  (hnull : ¬ (item = none ∧ q.itemSize ≠ 0))
  (hover : ¬ (pos = queueOVERWRITE ∧ q.queueLength ≠ 1))
  (hfull : ¬ (pos ≠ queueOVERWRITE ∧ q.queue.length ≥ q.queueLength.toNat))

include hn hq hnull hover hfull

theorem run_xQueueGenericSendFuel_of_memcpy_error
    (hcpy : EStateM.run
      (memcpy (some (List.replicate q.itemSize.toNat 0)) item q.itemSize.toNat) s = .error x s) :
    EStateM.run (xQueueGenericSendFuel (fuel + 1) queue item pos) s = .error x s := by
  rw [xQueueGenericSendFuel]
  simp only [EStateM.run_bind, run_configASSERT_of hn, run_deref hq, run_configASSERT_of hnull,
    run_configASSERT_of hover, if_neg hfull, hcpy]

theorem run_xQueueGenericSendFuel_of_place_error (hi : ItemFits item q.itemSize)
    (hplace : EStateM.run (placeMessage q.queue (message item q.itemSize) pos) s = .error x s) :
    EStateM.run (xQueueGenericSendFuel (fuel + 1) queue item pos) s = .error x s := by
  rw [xQueueGenericSendFuel]
  simp only [EStateM.run_bind, run_configASSERT_of hn, run_deref hq, run_configASSERT_of hnull,
    run_configASSERT_of hover, if_neg hfull, run_memcpy_message hi, Option.getD_some, hplace]

theorem run_xQueueGenericSendFuel_of_placed (hi : ItemFits item q.itemSize) {l : List Bytes}
    (hplace : EStateM.run (placeMessage q.queue (message item q.itemSize) pos) s = .ok l s) :
    EStateM.run (xQueueGenericSendFuel (fuel + 1) queue item pos) s =
      if q.queueSetContainer ≠ nullptr then
        EStateM.run ((fun _ => pdTRUE) <$> xQueueGenericSendFuel fuel q.queueSetContainer
          (some (handleBytes queue)) queueSEND_TO_BACK) (s.write queue { q with queue := l })
      else .ok pdTRUE (s.write queue { q with queue := l }) := by
  rw [xQueueGenericSendFuel]
  simp only [EStateM.run_bind, run_configASSERT_of hn, run_deref hq, run_configASSERT_of hnull,
    run_configASSERT_of hover, if_neg hfull, run_memcpy_message hi, Option.getD_some, hplace,
    run_assign]
  by_cases hc : q.queueSetContainer = nullptr <;> simp [hc]

end PastTheChecks

/-- The branches on the copy position store the message, or leave early. -/
theorem run_placeMessage_cases {q : FakeQueue} {pos : BaseType} (msg : Bytes)
    (hover : ¬ (pos = queueOVERWRITE ∧ q.queueLength ≠ 1))
    (hfull : ¬ (pos ≠ queueOVERWRITE ∧ q.queue.length ≥ q.queueLength.toNat)) (s : Lib) :
    (∃ l, Stores q msg pos l ∧ EStateM.run (placeMessage q.queue msg pos) s = .ok l s) ∨
    EStateM.run (placeMessage q.queue msg pos) s = .error .undefined s ∨
    ((∀ e, pos ≠ copyPosition e) ∧
      EStateM.run (placeMessage q.queue msg pos) s = .error .assertFailed s) := by
  by_cases hpush : ∃ e, pos = copyPosition e
  · obtain ⟨e, rfl⟩ := hpush
    have hroom : q.queue.length < q.queueLength.toNat := by
      simpa [copyPosition_ne_overwrite e] using hfull
    exact .inl ⟨_, .inl ⟨e, rfl, hroom, rfl⟩, run_placeMessage q.queue msg e s⟩
  have hback : pos ≠ queueSEND_TO_BACK := fun he => hpush ⟨.back, he⟩
  have hfront : pos ≠ queueSEND_TO_FRONT := fun he => hpush ⟨.front, he⟩
  by_cases hov : pos = queueOVERWRITE
  · cases hm : q.queue with
    | nil =>
      refine .inr (.inl ?_)
      simp only [placeMessage, hov, ↓reduceIte]
      rfl
    | cons m rest =>
      have hlen : q.queueLength = 1 := by
        by_contra hne
        exact hover ⟨hov, hne⟩
      refine .inl ⟨msg :: rest, .inr ⟨hov, hlen, m, rest, hm, rfl⟩, ?_⟩
      simp only [placeMessage, hov, ↓reduceIte]
      rfl
  · refine .inr (.inr ⟨fun e he => hpush ⟨e, he⟩, ?_⟩)
    simp only [placeMessage, hback, hfront, hov, ↓reduceIte]
    rfl

/-- One level of a send: it leaves early or finds the queue full, the memory unchanged, or stores
the message and then notifies the set, if any. -/
theorem run_xQueueGenericSendFuel_cases (fuel : ℕ) (s : Lib) (queue : Handle) (item : Buffer)
    (pos : BaseType) :
    (∃ x, LeavesBy queue item pos x ∧
      EStateM.run (xQueueGenericSendFuel (fuel + 1) queue item pos) s = .error x s) ∨
    ((∃ q, s.lookup queue = some q ∧ q.queueLength.toNat ≤ q.queue.length) ∧
      EStateM.run (xQueueGenericSendFuel (fuel + 1) queue item pos) s = .ok errQUEUE_FULL s) ∨
    ∃ q l, queue ≠ nullptr ∧ s.lookup queue = some q ∧ ItemFits item q.itemSize ∧
      Stores q (message item q.itemSize) pos l ∧
      EStateM.run (xQueueGenericSendFuel (fuel + 1) queue item pos) s =
        if q.queueSetContainer ≠ nullptr then
          EStateM.run ((fun _ => pdTRUE) <$> xQueueGenericSendFuel fuel q.queueSetContainer
            (some (handleBytes queue)) queueSEND_TO_BACK) (s.write queue { q with queue := l })
        else .ok pdTRUE (s.write queue { q with queue := l }) := by
  by_cases hn : queue = nullptr
  · exact .inl ⟨.assertFailed, .inr ⟨rfl, .inl hn⟩, by simp [xQueueGenericSendFuel, hn]⟩
  cases hq : s.lookup queue with
  | none =>
    exact .inl ⟨.undefined, .inl rfl, by simp [xQueueGenericSendFuel, hn, run_deref_none hq]⟩
  | some q =>
    by_cases hnull : item = none ∧ q.itemSize ≠ 0
    · exact .inl ⟨.assertFailed, .inr ⟨rfl, .inr (.inl hnull.1)⟩,
        by simp [xQueueGenericSendFuel, hn, hq, hnull]⟩
    by_cases hover : pos = queueOVERWRITE ∧ q.queueLength ≠ 1
    · refine .inl ⟨.assertFailed, .inr ⟨rfl, .inr (.inr fun e he => ?_)⟩,
        by simp [xQueueGenericSendFuel, hn, hq, hnull, hover]⟩
      exact copyPosition_ne_overwrite e (he ▸ hover.1)
    by_cases hfull : pos ≠ queueOVERWRITE ∧ q.queue.length ≥ q.queueLength.toNat
    · exact .inr (.inl ⟨⟨q, rfl, hfull.2⟩, by simp [xQueueGenericSendFuel, hn, hq, hnull, hfull]⟩)
    rcases run_memcpy_message_cases item q.itemSize s with ⟨hi, -⟩ | hcpy
    · rcases run_placeMessage_cases (message item q.itemSize) hover hfull s with
        ⟨l, hst, hplace⟩ | hplace | ⟨hpos, hplace⟩
      · exact .inr (.inr ⟨q, l, hn, rfl, hi, hst,
          run_xQueueGenericSendFuel_of_placed hn hq hnull hover hfull hi hplace⟩)
      · exact .inl ⟨.undefined, .inl rfl,
          run_xQueueGenericSendFuel_of_place_error hn hq hnull hover hfull hi hplace⟩
      · exact .inl ⟨.assertFailed, .inr ⟨rfl, .inr (.inr hpos)⟩,
          run_xQueueGenericSendFuel_of_place_error hn hq hnull hover hfull hi hplace⟩
    · exact .inl ⟨.undefined, .inl rfl,
        run_xQueueGenericSendFuel_of_memcpy_error hn hq hnull hover hfull hcpy⟩

/-- A receive leaves early or finds the queue empty, the memory unchanged, or takes the first
message. -/
theorem run_internalQueueReceive_cases (s : Lib) (queue : Handle) (buffer : Buffer) :
    (∃ x, EStateM.run (internalQueueReceive queue buffer) s = .error x s) ∨
    EStateM.run (internalQueueReceive queue buffer) s = .ok (pdFALSE, buffer) s ∨
    ∃ q m rest b, queue ≠ nullptr ∧ s.lookup queue = some q ∧ q.queue = m :: rest ∧
      EStateM.run (memcpy buffer (some m) q.itemSize.toNat) s = .ok b s ∧
      EStateM.run (internalQueueReceive queue buffer) s =
        .ok (pdTRUE, b) (s.write queue { q with queue := rest }) := by
  by_cases hn : queue = nullptr
  · exact .inl ⟨.assertFailed, by simp [internalQueueReceive, hn]⟩
  cases hq : s.lookup queue with
  | none => exact .inl ⟨.undefined, by simp [internalQueueReceive, hn, run_deref_none hq]⟩
  | some q =>
    cases hm : q.queue with
    | nil => exact .inr (.inl (by simp [internalQueueReceive, hn, hq, hm]))
    | cons m rest =>
      have hfinal := ensures_memcpy (R := Eq) buffer (some m) q.itemSize.toNat s
      cases hcpy : EStateM.run (memcpy buffer (some m) q.itemSize.toNat) s with
      | ok b s' =>
        obtain rfl : s = s' := by rw [hcpy] at hfinal; exact hfinal
        refine .inr (.inr ⟨q, m, rest, b, hn, rfl, hm, hcpy, ?_⟩)
        simp [internalQueueReceive, hn, hq, hm, hcpy]
      | error x s' =>
        obtain rfl : s = s' := by rw [hcpy] at hfinal; exact hfinal
        exact .inl ⟨x, by simp [internalQueueReceive, hn, hq, hm, hcpy]⟩

/-! ## Calls that only move messages -/

/-- Only messages differ, and queues within their bounds stay within them. -/
def Lib.Shuffles (s s' : Lib) : Prop := s.SameShape s' ∧ (s.WellFormed → s'.WellFormed)

instance : IsPreorder Lib Lib.Shuffles where
  refl s := ⟨.refl s, id⟩
  trans _ _ _ h h' := ⟨h.1.trans h'.1, h'.2 ∘ h.2⟩

theorem Lib.Shuffles.write {s : Lib} {h : Handle} {q : FakeQueue} {l : List Bytes}
    (hn : h ≠ nullptr) (hq : s.lookup h = some q)
    (hl : q.WellFormed → FakeQueue.WellFormed { q with queue := l }) :
    s.Shuffles (s.write h { q with queue := l }) :=
  ⟨.write hq l, fun hw => hw.write hn (hl (hw.queue h q hq))⟩

theorem Stores.wellFormed {q : FakeQueue} {item : Buffer} {pos : BaseType} {l : List Bytes}
    (h : Stores q (message item q.itemSize) pos l) (hi : ItemFits item q.itemSize)
    (hq : q.WellFormed) : FakeQueue.WellFormed { q with queue := l } := by
  rcases h with ⟨e, -, hroom, rfl⟩ | ⟨-, -, m, rest, hm, rfl⟩
  · refine ⟨by simp only [BoundedDeque.length_pushItems]; omega, fun m hm => ?_⟩
    rcases BoundedDeque.mem_pushItems.mp hm with rfl | hm
    · exact length_message hi
    · exact hq.item_length m hm
  · refine ⟨by simpa [hm] using hq.length_le, fun m' hm' => ?_⟩
    rcases List.mem_cons.mp hm' with rfl | hm'
    · exact length_message hi
    · exact hq.item_length m' (hm ▸ List.mem_cons_of_mem _ hm')

theorem ensures_xQueueGenericSendFuel (fuel : ℕ) (queue : Handle) (item : Buffer)
    (pos : BaseType) : Ensures Lib.Shuffles (xQueueGenericSendFuel fuel queue item pos) := by
  induction fuel generalizing queue item pos with
  | zero => exact ensures_leave _
  | succ fuel ih =>
    intro s
    rcases run_xQueueGenericSendFuel_cases fuel s queue item pos with
      ⟨x, -, hrun⟩ | ⟨-, hrun⟩ | ⟨q, l, hn, hq, hi, hst, hrun⟩
    · rw [hrun]; exact refl_of _ s
    · rw [hrun]; exact refl_of _ s
    · have hwr : s.Shuffles (s.write queue { q with queue := l }) :=
        .write hn hq (hst.wellFormed hi)
      rw [hrun]
      split
      · exact trans_of _ hwr (Ensures.map _ (ih _ _ _) _)
      · exact hwr

theorem ensures_xQueueGenericSend (queue : Handle) (item : Buffer) (pos : BaseType) :
    Ensures Lib.Shuffles (xQueueGenericSend queue item pos) :=
  .bind (.of_reads fun _ => rfl) fun _ => ensures_xQueueGenericSendFuel _ _ _ _

theorem ensures_internalQueueReceive (queue : Handle) (buffer : Buffer) :
    Ensures Lib.Shuffles (internalQueueReceive queue buffer) := by
  intro s
  rcases run_internalQueueReceive_cases s queue buffer with
    ⟨x, hrun⟩ | hrun | ⟨q, m, rest, b, hn, hq, hm, -, hrun⟩
  · rw [hrun]; exact refl_of _ s
  · rw [hrun]; exact refl_of _ s
  · rw [hrun]
    refine .write hn hq fun hqw => ⟨?_, fun m' hm' => ?_⟩
    · have := hqw.length_le
      simp only [hm, List.length_cons] at this
      exact Nat.le_of_succ_le this
    · exact hqw.item_length m' (hm ▸ List.mem_cons_of_mem _ hm')

theorem ensures_internalQueueReceiveDummy (queue : Handle) :
    Ensures Lib.Shuffles (internalQueueReceiveDummy queue) :=
  (ensures_configASSERT _).bind fun _ => (ensures_internalQueueReceive _ _).bind fun _ => .pure _

theorem ensures_xQueueReceive (queue : Handle) (buffer : Buffer) :
    Ensures Lib.Shuffles (xQueueReceive queue buffer) :=
  (ensures_configASSERT _).bind fun _ => (ensures_configASSERT _).bind fun _ =>
    ensures_internalQueueReceive _ _

theorem ensures_xQueueSelectFromSet (set : Handle) :
    Ensures Lib.Shuffles (xQueueSelectFromSet set) :=
  (ensures_xQueueReceive _ _).bind fun _ => .ite (fun _ => .pure _) fun _ => .pure _

theorem ensures_xQueueSemaphoreTake (queue : Handle) :
    Ensures Lib.Shuffles (xQueueSemaphoreTake queue) :=
  (ensures_configASSERT _).bind fun _ => (ensures_deref _).bind fun _ =>
    (ensures_configASSERT _).bind fun _ => ensures_internalQueueReceiveDummy _

theorem ensures_xQueueGiveFromISR (queue : Handle) :
    Ensures Lib.Shuffles (xQueueGiveFromISR queue) :=
  (ensures_configASSERT _).bind fun _ => (ensures_deref _).bind fun _ =>
    (ensures_configASSERT _).bind fun _ => ensures_xQueueGenericSend _ _ _

end FakeFreeRtos
