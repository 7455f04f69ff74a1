import FakeFreeRtos.Model.Queue

/-!
# The fake queue set

The functions of `cpputest_for_freertos_queue_set.cpp`. A set is a queue whose messages are
handles. Adding and removing touch the member only; the set is never read there.
-/

namespace FakeFreeRtos

/-- An empty set, whose messages have the size of a handle. -/
def xQueueCreateSet (addr : Handle) (eventQueueLength : UBaseType) : Api Handle :=
  xQueueGenericCreate addr eventQueueLength (UInt8.ofNat sizeofHandle) queueQUEUE_TYPE_SET

/-- An empty queue that is in no set is put into the set. -/
def xQueueAddToSet (itemToAdd set : Handle) : Api BaseType := do
  configASSERT (itemToAdd ≠ nullptr)
  configASSERT (set ≠ nullptr)
  let q ← deref itemToAdd
  if q.queueSetContainer ≠ nullptr ∨ q.queue ≠ [] then pure pdFAIL
  else
    assign itemToAdd { q with queueSetContainer := set }
    pure pdPASS

/-- An empty queue that is in the set is taken out of it. -/
def xQueueRemoveFromSet (itemToRemove set : Handle) : Api BaseType := do
  configASSERT (itemToRemove ≠ nullptr)
  configASSERT (set ≠ nullptr)
  let q ← deref itemToRemove
  if q.queueSetContainer ≠ set ∨ q.queue ≠ [] then pure pdFAIL
  else
    assign itemToRemove { q with queueSetContainer := nullptr }
    pure pdPASS

/-- The message is received into the handle variable `rtnItem`, which starts as `nullptr`. -/
def xQueueSelectFromSet (queueSet : Handle) : Api Handle := do
  let r ← xQueueReceive queueSet (some (handleBytes nullptr))
  if r.1 = pdTRUE then pure (handleOfBytes (r.2.getD []))
  else pure nullptr

end FakeFreeRtos
