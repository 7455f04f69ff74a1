import FakeFreeRtos.Queue.Effects
import FakeFreeRtos.Model.Calls

/-!
# The budget of the nested sends suffices

The model of `xQueueGenericSend` cuts the recursion through the sets off after one call more than
there are free slots. A nested call that stores its message fills a free slot, so the budget is
never spent: no call whatever ends in `Exit.outOfFuel` (`Lib.Step.ne_outOfFuel`), and the
recursion of the source always ends.
-/

namespace FakeFreeRtos

open Foundations

theorem LeavesBy.ne_outOfFuel {queue : Handle} {item : Buffer} {pos : BaseType} {x : Exit}
    (h : LeavesBy queue item pos x) : x ≠ .outOfFuel := by
  rcases h with rfl | ⟨rfl, -⟩ <;> decide

/-- A send to the back or the front needs one call more than there are free slots. -/
theorem run_xQueueGenericSendFuel_ne_outOfFuel {fuel : ℕ} {s : Lib} (hfuel : s.freeSlots < fuel)
    (queue : Handle) (item : Buffer) (e : Side) (s' : Lib) :
    EStateM.run (xQueueGenericSendFuel fuel queue item (copyPosition e)) s ≠
      .error .outOfFuel s' := by
  induction fuel generalizing s queue item e with
  | zero => omega
  | succ fuel ih =>
    rcases run_xQueueGenericSendFuel_cases fuel s queue item (copyPosition e) with
      ⟨x, hx, hrun⟩ | ⟨-, hrun⟩ | ⟨q, l, -, hq, hi, hst, hrun⟩
    · rw [hrun]
      exact fun h => hx.ne_outOfFuel (by cases h; rfl)
    · rw [hrun]
      exact fun h => by cases h
    · obtain ⟨e', -, hroom, rfl⟩ := hst.resolve_right fun h => copyPosition_ne_overwrite e h.1
      have hfree := Lib.freeSlots_pushed hq hroom e' item
      rw [hrun]
      split
      · rw [run_map]
        have hnested := ih (s := pushed s queue q e' item) (by omega) q.queueSetContainer
          (some (handleBytes queue)) .back
        intro h
        split at h
        · cases h
        · rename_i x s'' hr
          cases h
          exact hnested hr
      · exact fun h => by cases h

/-- An overwrite fills no free slot, but the send it nests is to the back. -/
theorem never_xQueueGenericSend (queue : Handle) (item : Buffer) (pos : BaseType) :
    NeverLeavesBy .outOfFuel (xQueueGenericSend queue item pos) := by
  intro s s'
  rw [run_xQueueGenericSend_eq]
  rcases run_xQueueGenericSendFuel_cases (s.freeSlots + 1) s queue item pos with
    ⟨x, hx, hrun⟩ | ⟨-, hrun⟩ | ⟨q, l, -, hq, hi, hst, hrun⟩
  · exact fun h => hx.ne_outOfFuel (by rw [hrun] at h; cases h; rfl)
  · exact fun h => by rw [hrun] at h; cases h
  · have hlen : q.queue.length ≤ l.length := by
      rcases hst with ⟨e, -, -, rfl⟩ | ⟨-, -, m, rest, hm, rfl⟩
      · rw [BoundedDeque.length_pushItems]
        exact Nat.le_succ _
      · rw [hm]
        rfl
    have hfree := Lib.freeSlots_write hq { q with queue := l }
    have hle : (FakeQueue.freeSlots { q with queue := l }) ≤ q.freeSlots :=
      Nat.sub_le_sub_left hlen _
    rw [hrun]
    split
    · have hlt : (s.write queue { q with queue := l }).freeSlots < s.freeSlots + 1 := by omega
      have hnested := run_xQueueGenericSendFuel_ne_outOfFuel hlt q.queueSetContainer
        (some (handleBytes queue)) .back
      rw [run_map]
      intro h
      split at h
      · cases h
      · rename_i x s'' hr
        cases h
        exact hnested _ hr
    · exact fun h => by cases h

/-! ## No call runs out of budget -/

theorem never_leave {α : Type} {e : Exit} (he : e ≠ .outOfFuel) :
    NeverLeavesBy .outOfFuel (leave e : Api α) := fun _ _ h => he (by cases h; rfl)

theorem never_configASSERT (x : Prop) [Decidable x] :
    NeverLeavesBy .outOfFuel (configASSERT x : Api Unit) :=
  .ite (fun _ => .pure _) fun _ => never_leave (by decide)

theorem never_get : NeverLeavesBy .outOfFuel (get : Api Lib) := fun _ _ h => by cases h

theorem never_modify (f : Lib → Lib) : NeverLeavesBy .outOfFuel (modify f : Api Unit) :=
  fun _ _ h => by cases h

theorem never_set (s : Lib) : NeverLeavesBy .outOfFuel (set s : Api Unit) :=
  fun _ _ h => by cases h

theorem never_deref (h : Handle) : NeverLeavesBy .outOfFuel (deref h) := by
  refine never_get.bind fun s => ?_
  cases s.lookup h with
  | none => exact never_leave (by decide)
  | some q => exact .pure _

theorem never_new (addr : Handle) (q : FakeQueue) : NeverLeavesBy .outOfFuel (new addr q) :=
  never_get.bind fun _ => .ite (fun _ => never_leave (by decide)) fun _ =>
    (never_modify _).bind fun _ => .pure _

theorem never_memcpy (dest src : Buffer) (n : ℕ) :
    NeverLeavesBy .outOfFuel (memcpy dest src n) := by
  unfold memcpy
  refine .ite (fun _ => .pure _) fun _ => ?_
  cases dest <;> cases src
  any_goals exact never_leave (by decide)
  exact .ite (fun _ => .pure _) fun _ => never_leave (by decide)

theorem never_uxQueueMessagesWaiting (queue : Handle) :
    NeverLeavesBy .outOfFuel (uxQueueMessagesWaiting queue) :=
  (never_configASSERT _).bind fun _ => (never_deref _).bind fun _ => .pure _

theorem never_internalQueueReceive (queue : Handle) (buffer : Buffer) :
    NeverLeavesBy .outOfFuel (internalQueueReceive queue buffer) := by
  refine (never_configASSERT _).bind fun _ => (never_deref _).bind fun q => ?_
  cases q.queue with
  | nil => exact .pure _
  | cons front rest =>
    exact (never_memcpy _ _ _).bind fun _ => (never_modify _).bind fun _ => .pure _

theorem never_internalQueueReceiveDummy (queue : Handle) :
    NeverLeavesBy .outOfFuel (internalQueueReceiveDummy queue) :=
  (never_configASSERT _).bind fun _ => (never_internalQueueReceive _ _).bind fun _ => .pure _

theorem never_xQueueReceive (queue : Handle) (buffer : Buffer) :
    NeverLeavesBy .outOfFuel (xQueueReceive queue buffer) :=
  (never_configASSERT _).bind fun _ => (never_configASSERT _).bind fun _ =>
    never_internalQueueReceive _ _

theorem never_xQueuePeek (queue : Handle) (buffer : Buffer) :
    NeverLeavesBy .outOfFuel (xQueuePeek queue buffer) := by
  refine (never_configASSERT _).bind fun _ => (never_deref _).bind fun q => ?_
  cases q.queue with
  | nil => exact .pure _
  | cons front rest => exact (never_memcpy _ _ _).bind fun _ => .pure _

theorem never_giveTimes (n : ℕ) (sema : Handle) :
    NeverLeavesBy .outOfFuel (giveTimes n sema) := by
  induction n with
  | zero => exact .pure _
  | succ n ih => exact (never_xQueueGenericSend _ _ _).bind fun _ => ih

theorem never_xQueueCreateMutex (addr : Handle) (t : UInt8) :
    NeverLeavesBy .outOfFuel (xQueueCreateMutex addr t) := by
  refine (never_new _ _).bind fun mutex => ?_
  have hend : NeverLeavesBy .outOfFuel (do
      configASSERT (mutex ≠ nullptr); trackMutex mutex; pure mutex : Api Handle) :=
    (never_configASSERT _).bind fun _ => (never_modify _).bind fun _ => .pure _
  refine .ite (fun _ => ?_) fun _ => .ite (fun _ => ?_) fun _ => ?_
  · exact (never_xQueueGenericSend _ _ _).bind fun _ => hend
  · exact (never_xQueueGenericSend _ _ _).bind fun _ => (never_deref _).bind fun _ =>
      (never_modify _).bind fun _ => hend
  · exact (never_configASSERT _).bind fun _ => hend

theorem never_anyLocked (l : List Handle) : NeverLeavesBy .outOfFuel (anyLocked l) := by
  induction l with
  | nil => exact .pure _
  | cons h l ih =>
    exact (never_uxQueueMessagesWaiting h).bind fun _ => .ite (fun _ => .pure _) fun _ => ih

theorem never_isAnyMutexLocked : NeverLeavesBy .outOfFuel isAnyMutexLocked := by
  refine never_get.bind fun s => ?_
  cases s.s_mutexes with
  | none => exact .pure _
  | some l => exact never_anyLocked l

theorem never_xQueueTakeMutexRecursive (mutex : Handle) :
    NeverLeavesBy .outOfFuel (xQueueTakeMutexRecursive mutex) := by
  refine (never_configASSERT _).bind fun _ => (never_deref _).bind fun _ =>
    (never_configASSERT _).bind fun _ => (never_uxQueueMessagesWaiting _).bind fun _ =>
      .ite (fun _ => ?_) fun _ => (never_modify _).bind fun _ => .pure _
  exact (never_internalQueueReceiveDummy _).bind fun _ => .ite (fun _ => .pure _) fun _ =>
    (never_deref _).bind fun _ => (never_modify _).bind fun _ => .pure _

theorem never_xQueueGiveMutexRecursive (mutex : Handle) :
    NeverLeavesBy .outOfFuel (xQueueGiveMutexRecursive mutex) := by
  refine (never_configASSERT _).bind fun _ => (never_deref _).bind fun _ =>
    (never_configASSERT _).bind fun _ => (never_uxQueueMessagesWaiting _).bind fun _ =>
      .ite (fun _ => ?_) fun _ => .pure _
  exact (never_modify _).bind fun _ =>
    .ite (fun _ => never_xQueueGenericSend _ _ _) fun _ => .pure _

theorem Call.never_outOfFuel (c : Call) : NeverLeavesBy .outOfFuel c.exec := by
  cases c with
  | create => exact .map _ (never_new _ _)
  | createSet => exact .map _ (never_new _ _)
  | createCountingSemaphore =>
    exact .map _ ((never_new _ _).bind fun _ => .ite (fun _ => .pure _) fun _ =>
      (never_giveTimes _ _).bind fun _ => .pure _)
  | createMutex => exact .map _ (never_xQueueCreateMutex _ _)
  | delete =>
    have hdelete : ∀ h, NeverLeavesBy .outOfFuel (FakeFreeRtos.delete h) := fun _ =>
      (never_deref _).bind fun _ => never_modify _
    exact .map _ ((never_configASSERT _).bind fun _ => (never_deref _).bind fun _ =>
      .ite (fun _ => (never_modify _).bind fun _ => hdelete _) fun _ => hdelete _)
  | messagesWaiting => exact .map _ (never_uxQueueMessagesWaiting _)
  | spacesAvailable =>
    exact .map _ ((never_configASSERT _).bind fun _ => (never_deref _).bind fun _ =>
      (never_uxQueueMessagesWaiting _).bind fun _ => .pure _)
  | send => exact .map _ (never_xQueueGenericSend _ _ _)
  | receive => exact .map _ (never_xQueueReceive _ _)
  | peek => exact .map _ (never_xQueuePeek _ _)
  | addToSet =>
    exact .map _ ((never_configASSERT _).bind fun _ => (never_configASSERT _).bind fun _ =>
      (never_deref _).bind fun _ => .ite (fun _ => .pure _) fun _ =>
        (never_modify _).bind fun _ => .pure _)
  | removeFromSet =>
    exact .map _ ((never_configASSERT _).bind fun _ => (never_configASSERT _).bind fun _ =>
      (never_deref _).bind fun _ => .ite (fun _ => .pure _) fun _ =>
        (never_modify _).bind fun _ => .pure _)
  | selectFromSet =>
    exact .map _ ((never_xQueueReceive _ _).bind fun _ => .ite (fun _ => .pure _) fun _ => .pure _)
  | semaphoreTake =>
    exact .map _ ((never_configASSERT _).bind fun _ => (never_deref _).bind fun _ =>
      (never_configASSERT _).bind fun _ => never_internalQueueReceiveDummy _)
  | giveFromISR =>
    exact .map _ ((never_configASSERT _).bind fun _ => (never_deref _).bind fun _ =>
      (never_configASSERT _).bind fun _ => never_xQueueGenericSend _ _ _)
  | takeMutexRecursive => exact .map _ (never_xQueueTakeMutexRecursive _)
  | giveMutexRecursive => exact .map _ (never_xQueueGiveMutexRecursive _)
  | trackingInit =>
    exact .map _ (never_get.bind fun _ => (never_configASSERT _).bind fun _ => never_set _)
  | trackingTeardown =>
    exact .map _ (never_get.bind fun _ => .ite (fun _ => .pure _) fun _ =>
      never_isAnyMutexLocked.bind fun _ => (never_modify _).bind fun _ =>
        .ite (fun _ => never_leave (by decide)) fun _ => .pure _)
  | isAnyMutexLocked => exact .map _ never_isAnyMutexLocked

/-- **No call runs out of budget**, in any memory and with any arguments. -/
theorem Lib.Step.ne_outOfFuel {s s' : Lib} {c : Call} {r : Reply} (h : s.Step c r s') :
    r ≠ .left .outOfFuel := by
  rintro rfl
  exact c.never_outOfFuel s s' (Lib.step_left_iff.mp h)

end FakeFreeRtos
