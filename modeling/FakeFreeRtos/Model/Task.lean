import FakeFreeRtos.Model.Timers
import FakeFreeRtos.Model.Mutex

/-!
# The fake tasks, and the setup and teardown of a test

The functions of `cpputest_for_freertos_task.cpp`. There are no threads: a delay only moves the
clock, which is that of the timer engine while the timers are active and `s_tickCount` otherwise.
`LibInitAll` and `LibTeardownAll`, from `cpputest_for_freertos_lib.hpp`, are what a test calls
before and after its body.
-/

namespace FakeFreeRtos

variable {T : Type}

/-- The tick count starts at zero. -/
def taskInit : WorldApi T Unit := modify fun w => { w with s_tickCount := 0 }

/-- The tick count goes back to zero. -/
def taskDestroy : WorldApi T Unit := modify fun w => { w with s_tickCount := 0 }

/-- No task is created; the arguments are ignored. -/
def xTaskCreate : WorldApi T BaseType := pure pdPASS

/-- There is no task to delete; the argument is ignored. -/
def vTaskDelete : WorldApi T Unit := pure ()

/-- Assertions that trip are printed. -/
def assertOutputEnable : WorldApi T Unit := modify fun w => { w with m_printAssert := true }

/-- Assertions that trip are not printed. -/
def assertOutputDisable : WorldApi T Unit := modify fun w => { w with m_printAssert := false }

variable (P : Platform T)

/-- The clock moves by that many ticks. -/
def vTaskDelay (ticks : TickType) : WorldApi T Unit := do
  if ← timersIsActive then
    let duration ← toNanoseconds (toInt64 (pdTICKS_TO_MS P.configTICK_RATE_HZ ticks))
    moveTimeForward P duration
  else modify fun w => { w with s_tickCount := w.s_tickCount + ticks }

/-- The clock, in ticks. -/
def xTaskGetTickCount : WorldApi T TickType := do
  if ← timersIsActive then
    let current ← getCurrentInternalTime P
    let milliseconds := toMilliseconds current
    pure (pdMS_TO_TICKS P.configTICK_RATE_HZ (toUInt64 milliseconds))
  else pure (← get).s_tickCount

/-- `previous` is the variable that the pointer refers to, if it is not null. What is returned is
the answer and the value of the variable afterwards. -/
def xTaskDelayUntil (previous : Option TickType) (increment : TickType) :
    WorldApi T (BaseType × Option TickType) := do
  configASSERT (previous ≠ none)
  let current ← xTaskGetTickCount P
  let next := previous.getD 0 + increment
  if next ≤ current then pure (pdFALSE, previous)
  else
    vTaskDelay P (next - current)
    pure (pdTRUE, previous)

/-! ## Setup and teardown -/

/-- The setup of a test. -/
def libInitAll : WorldApi T Unit := do
  taskInit
  assertOutputEnable
  timersInit P
  onLib mutexTrackingInit

/-- The teardown of a test; a mutex that is still locked fails the test, and the rest is not run. -/
def libTeardownAll : WorldApi T Unit := do
  onLib mutexTrackingTeardown
  timersDestroy
  taskDestroy

end FakeFreeRtos
