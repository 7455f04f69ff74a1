import FakeFreeRtos.Queue.Frame
import FakeFreeRtos.Queue.Receive

/-!
# Binary semaphores

A binary semaphore holds its token or not. A give makes it hold the token, whether it did before or
not: a second give fails without any effect. A take succeeds exactly when the token is there, and
removes it.
-/

namespace FakeFreeRtos

open Foundations

def binarySemaphore (token : Bool) : FakeQueue :=
  { freshQueue 1 0 queueQUEUE_TYPE_BINARY_SEMAPHORE with queue := if token then [[]] else [] }

theorem binarySemaphore_not_recursive (token : Bool) :
    (binarySemaphore token).queueType ≠ queueQUEUE_TYPE_RECURSIVE_MUTEX :=
  (by decide : queueQUEUE_TYPE_BINARY_SEMAPHORE ≠ queueQUEUE_TYPE_RECURSIVE_MUTEX)

/-- At `sema` is a binary semaphore, which is not used as a set. -/
structure Lib.IsBinary (s : Lib) (sema : Handle) (token : Bool) : Prop where
  ne_nullptr : sema ≠ nullptr
  noMember : s.NoMember sema
  live : s.lookup sema = some (binarySemaphore token)

namespace Lib.IsBinary

variable {s s' : Lib} {sema : Handle} {token : Bool}

theorem write (h : s.IsBinary sema token) (token' : Bool) :
    (s.write sema (binarySemaphore token')).IsBinary sema token' where
  ne_nullptr := h.ne_nullptr
  noMember := h.noMember.write sema h.ne_nullptr.symm
  live := Lib.lookup_write_self ..

theorem run_uxSemaphoreGetCount (h : s.IsBinary sema token) :
    EStateM.run (uxSemaphoreGetCount sema) s = .ok (if token then 1 else 0) s := by
  rw [uxSemaphoreGetCount, run_uxQueueMessagesWaiting h.ne_nullptr h.live]
  cases token <;> rfl

/-- After a give the token is there. -/
theorem run_xSemaphoreGive (h : s.IsBinary sema token) :
    ∃ b s', EStateM.run (xSemaphoreGive sema) s = .ok b s' ∧ s'.IsBinary sema true := by
  rw [FakeFreeRtos.run_xSemaphoreGive h.ne_nullptr h.live rfl rfl]
  cases token with
  | false => exact ⟨_, _, rfl, h.write true⟩
  | true => exact ⟨_, _, rfl, h⟩

theorem run_xQueueGiveFromISR (h : s.IsBinary sema token) :
    ∃ b s', EStateM.run (xQueueGiveFromISR sema) s = .ok b s' ∧ s'.IsBinary sema true := by
  rw [run_xQueueGiveFromISR_eq h.ne_nullptr h.live (binarySemaphore_not_recursive token)]
  exact h.run_xSemaphoreGive

theorem run_xQueueSemaphoreTake (h : s.IsBinary sema true) :
    ∃ s', EStateM.run (xQueueSemaphoreTake sema) s = .ok pdTRUE s' ∧ s'.IsBinary sema false :=
  ⟨_, run_xQueueSemaphoreTake_of_length h.ne_nullptr h.live (binarySemaphore_not_recursive true)
    (Nat.zero_le _) rfl rfl, h.write false⟩

theorem run_xQueueSemaphoreTake_none (h : s.IsBinary sema false) :
    EStateM.run (xQueueSemaphoreTake sema) s = .ok pdFALSE s :=
  run_xQueueSemaphoreTake_nil h.ne_nullptr h.live (binarySemaphore_not_recursive false) rfl

/-- The rest of the program leaves the semaphore alone. -/
theorem spared (h : s.IsBinary sema token) {c : Call} {r : Reply} (hstep : s.Step c r s')
    (hd : r.Defined) (hh : sema ∉ c.handles) : s'.IsBinary sema token := by
  obtain ⟨hno, hlookup⟩ := hstep.spares hd h.ne_nullptr hh h.noMember
  exact ⟨h.ne_nullptr, hno, hlookup.trans h.live⟩

end Lib.IsBinary

/-- The semaphore as it is created. -/
theorem Lib.Unused.isBinary {s : Lib} {sema : Handle} (hu : s.Unused sema) :
    ∃ s', EStateM.run (xSemaphoreCreateBinary sema) s = .ok sema s' ∧ s'.IsBinary sema false :=
  ⟨_, run_xQueueGenericCreate hu.fresh .., hu.fresh.1, hu.noMember.write sema hu.fresh.1.symm,
    Lib.lookup_write_self ..⟩

end FakeFreeRtos
