import FakeFreeRtos.Model.Queue

/-!
# The fake semaphores

The functions of `cpputest_for_freertos_semaphore.cpp`. A semaphore is a queue of empty messages;
its count is the number of messages.
-/

namespace FakeFreeRtos

/-- `xSemaphoreTake` is this function. -/
def xQueueSemaphoreTake (queue : Handle) : Api BaseType := do
  configASSERT (queue ≠ nullptr)
  let q ← deref queue
  configASSERT (q.queueType ≠ queueQUEUE_TYPE_RECURSIVE_MUTEX)
  internalQueueReceiveDummy queue

/-- A give, which a recursive mutex does not accept. -/
def xQueueGiveFromISR (queue : Handle) : Api BaseType := do
  configASSERT (queue ≠ nullptr)
  let q ← deref queue
  configASSERT (q.queueType ≠ queueQUEUE_TYPE_RECURSIVE_MUTEX)
  xSemaphoreGive queue

/-- The loop `for (int i = 0; i < initialCount; ++i)` of gives, whose results are dropped. -/
def giveTimes : ℕ → Handle → Api Unit
  | 0, _ => pure ()
  | n + 1, sema => do
    let _ ← xSemaphoreGive sema
    giveTimes n sema

/-- A semaphore of `maxCount` tokens at most, to which the initial ones are given one by one. -/
def xQueueCreateCountingSemaphore (addr : Handle) (maxCount initialCount : UBaseType) :
    Api Handle := do
  let sema ← xQueueCreate addr maxCount.toNat 0
  if sema = nullptr then pure nullptr
  else
    giveTimes initialCount.toNat sema
    pure sema

/-- `xSemaphoreCreateBinary`. -/
def xSemaphoreCreateBinary (addr : Handle) : Api Handle :=
  xQueueGenericCreate addr 1 0 queueQUEUE_TYPE_BINARY_SEMAPHORE

end FakeFreeRtos
