import FakeFreeRtos.Model.Calls
import FakeFreeRtos.Model.Task

/-!
# Tests

What the test harness makes of the library. A test calls `LibInitAll`, then runs its body, a list
of calls, then calls `LibTeardownAll`. An early exit from the setup skips the body, an early exit
from the body skips the rest of the body, and the teardown always runs.
-/

namespace FakeFreeRtos

variable {T : Type}

/-- A call of a test's body. -/
inductive TestCall
  | queues (c : Call)
  | taskCreate
  | taskDelete
  | delay (ticks : TickType)
  | tickCount
  | delayUntil (previous : Option TickType) (increment : TickType)
  | assertOutputEnable
  | assertOutputDisable
  | timersIsActive
  | moveTimeForward (duration : ℤ)
  | currentInternalTime
  | timerCreate (name : Option String) (period : TickType) (autoReload : BaseType)
      (timerID callback : UInt64)
  | timerCommand (timer : TimerHandle) (commandID : BaseType) (optionalValue : TickType)
  | timerIsActive (timer : TimerHandle)
  | timerGetID (timer : TimerHandle)
  | timerSetID (timer : TimerHandle) (newID : UInt64)
  | timerGetName (timer : TimerHandle)
  | timerGetReloadMode (timer : TimerHandle)
  | timerSetReloadMode (timer : TimerHandle) (autoReload : BaseType)
  | timerGetPeriod (timer : TimerHandle)
  | timerGetExpiryTime (timer : TimerHandle)
  deriving DecidableEq

variable (P : Platform T)

/-- The function that a call of a body calls, its result dropped. -/
def TestCall.exec : TestCall → WorldApi T Unit
  | .queues c => (fun _ => ()) <$> onLib c.exec
  | .taskCreate => (fun _ => ()) <$> xTaskCreate
  | .taskDelete => vTaskDelete
  | .delay ticks => vTaskDelay P ticks
  | .tickCount => (fun _ => ()) <$> xTaskGetTickCount P
  | .delayUntil previous increment => (fun _ => ()) <$> xTaskDelayUntil P previous increment
  | .assertOutputEnable => FakeFreeRtos.assertOutputEnable
  | .assertOutputDisable => FakeFreeRtos.assertOutputDisable
  | .timersIsActive => (fun _ => ()) <$> FakeFreeRtos.timersIsActive
  | .moveTimeForward duration => FakeFreeRtos.moveTimeForward P duration
  | .currentInternalTime => (fun _ => ()) <$> getCurrentInternalTime P
  | .timerCreate name period autoReload timerID callback =>
    (fun _ => ()) <$> xTimerCreate P name period autoReload timerID callback
  | .timerCommand timer commandID optionalValue =>
    (fun _ => ()) <$> xTimerGenericCommandFromTask P timer commandID optionalValue
  | .timerIsActive timer => (fun _ => ()) <$> xTimerIsTimerActive P timer
  | .timerGetID timer => (fun _ => ()) <$> pvTimerGetTimerID P timer
  | .timerSetID timer newID => vTimerSetTimerID P timer newID
  | .timerGetName timer => (fun _ => ()) <$> pcTimerGetName P timer
  | .timerGetReloadMode timer => (fun _ => ()) <$> xTimerGetReloadMode P timer
  | .timerSetReloadMode timer autoReload => vTimerSetReloadMode P timer autoReload
  | .timerGetPeriod timer => (fun _ => ()) <$> xTimerGetPeriod P timer
  | .timerGetExpiryTime timer => (fun _ => ()) <$> xTimerGetExpiryTime P timer

/-- Bodies leave the setup and the teardown of the modules to the harness. -/
def TestCall.InBody (c : TestCall) : Prop :=
  c ≠ .queues .trackingInit ∧ c ≠ .queues .trackingTeardown

/-- The calls of a body, until one leaves early. -/
def runBody : List TestCall → WorldApi T Unit
  | [] => pure ()
  | c :: body => do
    c.exec P
    runBody body

/-- How a part of a test left early, if it did, and the memory it left. -/
def ended {α : Type} : EStateM.Result Exit (World T) α → Option Exit × World T
  | .ok _ w => (none, w)
  | .error e w => (some e, w)

/-- How the three parts of a test ended. -/
structure Report where
  setup : Option Exit
  body : Option Exit
  teardown : Option Exit
  deriving DecidableEq

/-- The setup and the body of a test: how both ended, and the memory that the teardown finds. -/
def runSetupAndBody (body : List TestCall) (w : World T) : (Option Exit × Option Exit) × World T :=
  match EStateM.run (libInitAll P) w with
  | .ok _ w₁ =>
    let r := ended (EStateM.run (runBody P body) w₁)
    ((none, r.1), r.2)
  | .error e w₁ => ((some e, none), w₁)

/-- A whole test. -/
def runTest (body : List TestCall) (w : World T) : Report × World T :=
  let r := runSetupAndBody P body w
  let t := ended (EStateM.run libTeardownAll r.2)
  (⟨r.1.1, r.1.2, t.1⟩, t.2)

/-- One test, whose body does nothing undefined. -/
def World.Test (w : World T) (body : List TestCall) (r : Report) (w' : World T) : Prop :=
  (∀ c ∈ body, c.InBody) ∧ runTest P body w = (r, w') ∧ r.body ≠ some .undefined

/-- The memory when the test program starts. -/
def World.start : World T := ⟨Lib.init, none, 0, true⟩

end FakeFreeRtos
