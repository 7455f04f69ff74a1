import FakeFreeRtos.Model.Kernel
import Mathlib.Algebra.BigOperators.Group.Finset.Basic

/-!
# The fake queue

The functions of `cpputest_for_freertos_queue.cpp`.

`xQueueGenericSend` calls itself on the set that the queue belongs to, and nothing keeps the sets
from forming cycles. The recursion is cut off by a budget (`xQueueGenericSendFuel`); each nested
call fills a free slot of some queue, so the number of free slots is budget enough.
-/

namespace FakeFreeRtos

/-- `cms::test::MutexAboutToDelete`, which `cpputest_for_freertos_mutex.cpp` provides. -/
def mutexAboutToDelete (mutex : Handle) : Api Unit :=
  modify fun s => { s with s_mutexes := s.s_mutexes.map (·.filter (· ≠ mutex)) }

/-- An empty queue in no set, which the allocator puts at `addr`. -/
def xQueueGenericCreate (addr : Handle) (queueLength itemSize : UBaseType) (queueType : UInt8) :
    Api Handle :=
  new addr { queueLength, itemSize, queueType }

/-- The storage and the static queue object of the caller are ignored. -/
def xQueueGenericCreateStatic (addr : Handle) (queueLength itemSize : UBaseType)
    (queueType : UInt8) : Api Handle :=
  xQueueGenericCreate addr queueLength itemSize queueType

/-- The queue is deleted; a standard mutex is taken off the tracked mutexes first. -/
def vQueueDelete (queue : Handle) : Api Unit := do
  configASSERT (queue ≠ nullptr)
  let q ← deref queue
  if q.queueType = queueQUEUE_TYPE_MUTEX then
    mutexAboutToDelete queue
    delete queue
  else delete queue

/-- The size of the deque, converted to `UBaseType_t`. -/
def uxQueueMessagesWaiting (queue : Handle) : Api UBaseType := do
  configASSERT (queue ≠ nullptr)
  let q ← deref queue
  pure (UInt8.ofNat q.queue.length)

/-- The length less the messages waiting, a subtraction of `UBaseType_t`. -/
def uxQueueSpacesAvailable (queue : Handle) : Api UBaseType := do
  configASSERT (queue ≠ nullptr)
  let q ← deref queue
  let waiting ← uxQueueMessagesWaiting queue
  pure (q.queueLength - waiting)

/-- `cms::InternalQueueReceive(queue, buffer)`: the returned code and the bytes at `buffer`. -/
def internalQueueReceive (queue : Handle) (buffer : Buffer) : Api (BaseType × Buffer) := do
  configASSERT (queue ≠ nullptr)
  let q ← deref queue
  match q.queue with
  | front :: rest =>
    let buffer ← memcpy buffer (some front) q.itemSize.toNat
    assign queue { q with queue := rest }
    pure (pdTRUE, buffer)
  | [] => pure (pdFALSE, buffer)

/-- `cms::InternalQueueReceive(queue)`, which receives into a local `uint64_t dummy`. -/
def internalQueueReceiveDummy (queue : Handle) : Api BaseType := do
  configASSERT (queue ≠ nullptr)
  let r ← internalQueueReceive queue (some (List.replicate 8 0))
  pure r.1

/-- The front message is taken from the queue and copied to the buffer. -/
def xQueueReceive (queue : Handle) (buffer : Buffer) : Api (BaseType × Buffer) := do
  configASSERT (queue ≠ nullptr)
  configASSERT (buffer ≠ none)
  internalQueueReceive queue buffer

/-- The front message is copied to the buffer and stays in the queue. -/
def xQueuePeek (queue : Handle) (buffer : Buffer) : Api (BaseType × Buffer) := do
  configASSERT (queue ≠ nullptr)
  let q ← deref queue
  match q.queue with
  | front :: _ =>
    let buffer ← memcpy buffer (some front) q.itemSize.toNat
    pure (pdTRUE, buffer)
  | [] => pure (pdFALSE, buffer)

/-- The deque after the branches of `xQueueGenericSend` on the copy position. -/
def placeMessage (queue : List Bytes) (msg : Bytes) (copyPosition : BaseType) :
    Api (List Bytes) :=
  if copyPosition = queueSEND_TO_BACK then pure (queue ++ [msg])
  else if copyPosition = queueSEND_TO_FRONT then pure (msg :: queue)
  else if copyPosition = queueOVERWRITE then
    match queue with
    | _ :: rest => pure (msg :: rest)
    -- `pop_front` on an empty deque
    | [] => leave .undefined
  else do
    configASSERT False
    pure queue

/-- `xQueueGenericSend` with a budget for the nested calls. -/
def xQueueGenericSendFuel : ℕ → Handle → Buffer → BaseType → Api BaseType
  | 0, _, _, _ => leave .outOfFuel
  | fuel + 1, queue, itemToQueue, copyPosition => do
    configASSERT (queue ≠ nullptr)
    let q ← deref queue
    configASSERT (¬ (itemToQueue = none ∧ q.itemSize ≠ 0))
    configASSERT (¬ (copyPosition = queueOVERWRITE ∧ q.queueLength ≠ 1))
    if copyPosition ≠ queueOVERWRITE ∧ q.queue.length ≥ q.queueLength.toNat then
      pure errQUEUE_FULL
    else
      let msg ← memcpy (some (List.replicate q.itemSize.toNat 0)) itemToQueue q.itemSize.toNat
      let placed ← placeMessage q.queue (msg.getD []) copyPosition
      assign queue { q with queue := placed }
      if q.queueSetContainer ≠ nullptr then
        -- the handle variable `queue` is the item; the result of the nested send is dropped
        let _ ← xQueueGenericSendFuel fuel q.queueSetContainer (some (handleBytes queue))
          queueSEND_TO_BACK
        pure pdTRUE
      else pure pdTRUE

/-- The free slots of a queue. -/
def FakeQueue.freeSlots (q : FakeQueue) : ℕ := q.queueLength.toNat - q.queue.length

/-- The free slots of all live queues. -/
def Lib.freeSlots (s : Lib) : ℕ :=
  ∑ h ∈ s.heap.keys, (s.lookup h).elim 0 FakeQueue.freeSlots

/-- A message is sent to the queue, and the queue's handle to the set that the queue is in. -/
def xQueueGenericSend (queue : Handle) (itemToQueue : Buffer) (copyPosition : BaseType) :
    Api BaseType := do
  xQueueGenericSendFuel ((← get).freeSlots + 2) queue itemToQueue copyPosition

/-! ## Macros of the kernel headers -/

/-- `xQueueCreate`: the arguments are converted to `UBaseType_t` at the call. -/
def xQueueCreate (addr : Handle) (uxQueueLength uxItemSize : ℕ) : Api Handle :=
  xQueueGenericCreate addr (UInt8.ofNat uxQueueLength) (UInt8.ofNat uxItemSize)
    queueQUEUE_TYPE_BASE

/-- `xQueueCreateStatic`, with the same conversions. -/
def xQueueCreateStatic (addr : Handle) (uxQueueLength uxItemSize : ℕ) : Api Handle :=
  xQueueGenericCreateStatic addr (UInt8.ofNat uxQueueLength) (UInt8.ofNat uxItemSize)
    queueQUEUE_TYPE_BASE

/-- `xSemaphoreGive`: a send of no item to the back. -/
def xSemaphoreGive (sema : Handle) : Api BaseType := xQueueGenericSend sema none queueSEND_TO_BACK

/-- The tokens of a semaphore are its messages. -/
def uxSemaphoreGetCount (sema : Handle) : Api UBaseType := uxQueueMessagesWaiting sema

/-! ## The queue registry -/

/-- The queue gets a name. -/
def vQueueAddToRegistry (queue : Handle) (queueName : Option String) : Api Unit := do
  configASSERT (queue ≠ nullptr)
  configASSERT (queueName ≠ none)
  let q ← deref queue
  assign queue { q with registryName := queueName }

/-- The name of the queue, null if it has none. -/
def pcQueueGetName (queue : Handle) : Api (Option String) := do
  configASSERT (queue ≠ nullptr)
  let q ← deref queue
  pure q.registryName

/-- The queue loses its name. -/
def vQueueUnregisterQueue (queue : Handle) : Api Unit := do
  configASSERT (queue ≠ nullptr)
  let q ← deref queue
  assign queue { q with registryName := none }

end FakeFreeRtos
