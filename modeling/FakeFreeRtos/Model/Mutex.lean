import FakeFreeRtos.Model.Semaphore

/-!
# The fake mutexes and their tracking

The functions of `cpputest_for_freertos_mutex.cpp`. A mutex is a semaphore of one token, created
with the token available; a recursive mutex also counts its takes. While tracking is on,
`s_mutexes` lists the mutexes created, so that the teardown of a test can report one that is
still locked.
-/

namespace FakeFreeRtos

/-- The predicate of `std::any_of` in `IsAnyMutexLocked`, over the handles in order. -/
def anyLocked : List Handle → Api Bool
  | [] => pure false
  | mutex :: rest => do
    let count ← uxSemaphoreGetCount mutex
    if count = 0 then pure true else anyLocked rest

/-- Whether a tracked mutex has no token; none has while tracking is off. -/
def isAnyMutexLocked : Api Bool := do
  match (← get).s_mutexes with
  | none => pure false
  | some mutexes => anyLocked mutexes

/-- Tracking is turned on, with no mutex listed. -/
def mutexTrackingInit : Api Unit := do
  let s ← get
  configASSERT (s.s_mutexes = none)
  set { s with s_mutexes := some [] }

/-- Tracking is turned off, and the test fails if a tracked mutex is locked. -/
def mutexTrackingTeardown : Api Unit := do
  if (← get).s_mutexes = none then pure ()
  else
    let isAnyLocked ← isAnyMutexLocked
    modify fun s => { s with s_mutexes := none }
    if isAnyLocked then leave .testFailed else pure ()

/-- Append to the list of tracked mutexes, if there is one. -/
def trackMutex (mutex : Handle) : Api Unit :=
  modify fun s => { s with s_mutexes := s.s_mutexes.map (· ++ [mutex]) }

/-- A mutex of one of the two types, created with its token and tracked. -/
def xQueueCreateMutex (addr : Handle) (queueType : UInt8) : Api Handle := do
  let mutex ← xQueueGenericCreate addr 1 0 queueType
  if queueType = queueQUEUE_TYPE_MUTEX then
    let _ ← xSemaphoreGive mutex
  else if queueType = queueQUEUE_TYPE_RECURSIVE_MUTEX then
    let _ ← xSemaphoreGive mutex
    let q ← deref mutex
    assign mutex { q with recursiveCallCount := 0 }
  else
    configASSERT False
  configASSERT (mutex ≠ nullptr)
  trackMutex mutex
  pure mutex

/-- The token is taken if it is there, and the take is counted either way. -/
def xQueueTakeMutexRecursive (mutex : Handle) : Api BaseType := do
  configASSERT (mutex ≠ nullptr)
  let q ← deref mutex
  configASSERT (q.queueType = queueQUEUE_TYPE_RECURSIVE_MUTEX)
  let count ← uxSemaphoreGetCount mutex
  if count = 1 then
    let rtn ← internalQueueReceiveDummy mutex
    if rtn ≠ pdTRUE then pure rtn
    else
      let q ← deref mutex
      assign mutex { q with recursiveCallCount := q.recursiveCallCount + 1 }
      pure pdTRUE
  else
    assign mutex { q with recursiveCallCount := q.recursiveCallCount + 1 }
    pure pdTRUE

/-- A take is given back, and with the last one the token. -/
def xQueueGiveMutexRecursive (mutex : Handle) : Api BaseType := do
  configASSERT (mutex ≠ nullptr)
  let q ← deref mutex
  configASSERT (q.queueType = queueQUEUE_TYPE_RECURSIVE_MUTEX)
  let count ← uxSemaphoreGetCount mutex
  if count = 0 ∧ q.recursiveCallCount > 0 then
    let q' := { q with recursiveCallCount := q.recursiveCallCount - 1 }
    assign mutex q'
    if q'.recursiveCallCount = 0 then xSemaphoreGive mutex
    else pure pdTRUE
  else pure pdFALSE

end FakeFreeRtos
