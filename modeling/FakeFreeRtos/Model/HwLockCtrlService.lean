import FakeFreeRtos.Model.Service
import FakeFreeRtos.Model.Task

/-!
# The hardware lock service

The functions of `hwLockCtrlService.c`. Clients and a timer post events to the service's queue; a
state machine, whose states are functions of the module, processes them one at a time. A self test
is a state of its own: on entering it, the service runs the test and posts to the front of its own
queue the request that leads back to the state it came from.

The lock driver answers from outside: what it would answer during a call is an argument of the call
(`HwLockCtrl`). What the service makes of its surroundings is recorded in order (`Output`): the
commands to the driver and the callbacks, which do nothing to the service. The thread of the service
(`HLCS_Task`) is never run by the fake tasks and is left out.
-/

namespace FakeFreeRtos

open Foundations

/-! ## The driver -/

/-- `HwLockCtrlSelfTestResultT`. -/
inductive HwLockCtrlSelfTestResult
  | HW_LOCK_CTRL_SELF_TEST_PASSED
  | HW_LOCK_CTRL_SELF_TEST_FAILED_POWER
  | HW_LOCK_CTRL_SELF_TEST_FAILED_MOTOR
  deriving DecidableEq

/-- What the driver answers: `HwLockCtrlReadCurrent` in milliamps, and `HwLockCtrlSelfTest` with
its `outResult`. The answers of its other functions are ignored. -/
structure HwLockCtrl where
  readCurrent : Int32
  selfTest : Bool × HwLockCtrlSelfTestResult
  deriving DecidableEq

/-! ## Types and variables of the module -/

/-- `HLCS_LockStateT`. -/
inductive HlcsLockState
  | HLCS_LOCK_STATE_UNKNOWN
  | HLCS_LOCK_STATE_LOCKED
  | HLCS_LOCK_STATE_UNLOCKED
  deriving DecidableEq

/-- `HLCS_SelfTestResultT`. -/
inductive HlcsSelfTestResult
  | HLCS_SELF_TEST_RESULT_PASS
  | HLCS_SELF_TEST_RESULT_FAIL
  deriving DecidableEq

/-- `SignalT`. -/
inductive Signal
  | SM_ENTER
  | SM_EXIT
  | SIG_REQUEST_LOCKED
  | SIG_REQUEST_UNLOCKED
  | SIG_REQUEST_SELF_TEST
  | SIG_REQUEST_CURRENT_CHECK
  | SIG_REQUEST_THREAD_EXIT
  deriving DecidableEq

/-- The enumerators in order, from 0. -/
def Signal.all : List Signal :=
  [.SM_ENTER, .SM_EXIT, .SIG_REQUEST_LOCKED, .SIG_REQUEST_UNLOCKED, .SIG_REQUEST_SELF_TEST,
    .SIG_REQUEST_CURRENT_CHECK, .SIG_REQUEST_THREAD_EXIT]

/-- `sizeof(HLCS_EventTypeT)`, a structure of one enumeration. -/
def sizeofHlcsEvent : ℕ := 4

/-- The bytes of an event. -/
def Signal.bytes (sig : Signal) : Bytes := toLE sizeofHlcsEvent (Signal.all.idxOf sig)

/-- The signal in the bytes of an event; `none` for a value that is no `SignalT`, which every
`switch` sends to its `default`. -/
def signalOfBytes (bs : Bytes) : Option Signal := Signal.all[ofLE bs]?

@[simp] theorem signalOfBytes_bytes (sig : Signal) : signalOfBytes sig.bytes = some sig := by
  cases sig <;> rfl

@[simp] theorem Signal.length_bytes (sig : Signal) : sig.bytes.length = sizeofHlcsEvent :=
  length_toLE ..

/-- `HLCS_StateMachineFunc`: the functions of type `StateRtn (*)(const HLCS_EventTypeT *)`. -/
inductive StateFunc
  | HLCS_SmInitialPseudoState
  | HLCS_SmLocked
  | HLCS_SmUnlocked
  | HLCS_SmSelfTest
  deriving DecidableEq

/-- The static variables of the module, with their initial values. The callbacks are addresses. -/
structure HlcsVars where
  s_lockState : HlcsLockState := .HLCS_LOCK_STATE_UNKNOWN
  s_exitThread : Bool := false
  s_thread : UInt64 := 0
  s_eventQueue : Handle := nullptr
  s_stateChangedCallback : UInt64 := 0
  s_selfTestResultCallback : UInt64 := 0
  s_currentState : Option StateFunc := none
  s_stateHistory : Option StateFunc := none
  s_timer : TimerHandle := 0
  deriving DecidableEq

/-- `QueueDepth`. -/
def hlcsQueueDepth : ℕ := 10

/-- What the service does to its surroundings. -/
inductive Output
  | HwLockCtrlInit
  | HwLockCtrlLock
  | HwLockCtrlUnlock
  | HwLockCtrlSelfTest
  | HwLockCtrlReadCurrent
  | stateChangedCallback (callback : UInt64) (state : HlcsLockState)
  | selfTestResultCallback (callback : UInt64) (result : HlcsSelfTestResult)
  deriving DecidableEq

/-- The memory of a program with the service: the library's, the module's variables, and the
outputs so far, the last one last. -/
structure Hlcs (T : Type) where
  world : World T
  vars : HlcsVars
  outputs : List Output
  deriving DecidableEq

/-- A function of the service. -/
abbrev HlcsApi (T : Type) := EStateM Exit (Hlcs T)

variable {T : Type}

/-- A call of the library. -/
def onWorld {α : Type} (x : WorldApi T α) : HlcsApi T α := fun s =>
  match EStateM.run x s.world with
  | .ok a w => .ok a { s with world := w }
  | .error e w => .error e { s with world := w }

@[simp] theorem run_onWorld {α : Type} (x : WorldApi T α) (s : Hlcs T) :
    EStateM.run (onWorld x) s =
      match EStateM.run x s.world with
      | .ok a w => .ok a { s with world := w }
      | .error e w => .error e { s with world := w } := rfl

theorem run_onWorld_of_ok {α : Type} {x : Api α} {s : Hlcs T} {a : α} {lib : Lib}
    (h : EStateM.run x s.world.lib = .ok a lib) :
    EStateM.run (onWorld (onLib x)) s = .ok a { s with world := { s.world with lib } } := by
  rw [run_onWorld, run_onLib, h]

/-- The variables of the module. -/
def hlcsVars : HlcsApi T HlcsVars := do
  pure (← get).vars

/-- An assignment to variables of the module. -/
def hlcsAssign (f : HlcsVars → HlcsVars) : HlcsApi T Unit :=
  modify fun s => { s with vars := f s.vars }

/-- Something goes out of the service. -/
def hlcsOutput (o : Output) : HlcsApi T Unit :=
  modify fun s => { s with outputs := s.outputs ++ [o] }

@[simp] theorem run_hlcsVars (s : Hlcs T) : EStateM.run hlcsVars s = .ok s.vars s := rfl

@[simp] theorem run_hlcsAssign (f : HlcsVars → HlcsVars) (s : Hlcs T) :
    EStateM.run (hlcsAssign f) s = .ok () { s with vars := f s.vars } := rfl

@[simp] theorem run_hlcsOutput (o : Output) (s : Hlcs T) :
    EStateM.run (hlcsOutput o) s = .ok () { s with outputs := s.outputs ++ [o] } := rfl

/-! ## Posting events -/

/-- What the two functions below share. -/
def hlcsPush (copyPosition : BaseType) (sig : Signal) : HlcsApi T Unit := do
  let v ← hlcsVars
  let ok ← onWorld (onLib (xQueueGenericSend v.s_eventQueue (some sig.bytes) copyPosition))
  if ok = 0 then configASSERT False

/-- The event goes to the back of the queue. -/
def hlcsPushEvent (sig : Signal) : HlcsApi T Unit := hlcsPush queueSEND_TO_BACK sig

/-- The event goes to the front of the queue. -/
def hlcsPushUrgentEvent (sig : Signal) : HlcsApi T Unit := hlcsPush queueSEND_TO_FRONT sig

/-- A client asks for the lock to be locked. -/
def hlcsRequestLockedAsync : HlcsApi T Unit := hlcsPushEvent .SIG_REQUEST_LOCKED

/-- A client asks for the lock to be unlocked. -/
def hlcsRequestUnlockedAsync : HlcsApi T Unit := hlcsPushEvent .SIG_REQUEST_UNLOCKED

/-- A client asks for a self test. -/
def hlcsRequestSelfTestAsync : HlcsApi T Unit := hlcsPushEvent .SIG_REQUEST_SELF_TEST

/-- The callback of the timer, which posts a request for a current check. -/
def hlcsCheckCurrentTimerCallback : HlcsApi T Unit := hlcsPushEvent .SIG_REQUEST_CURRENT_CHECK

/-! ## The state machine -/

/-- The state is stored, and reported if a callback is registered. -/
def hlcsNotifyChangedState (state : HlcsLockState) : HlcsApi T Unit := do
  hlcsAssign fun v => { v with s_lockState := state }
  let v ← hlcsVars
  if v.s_stateChangedCallback ≠ 0 then
    hlcsOutput (.stateChangedCallback v.s_stateChangedCallback v.s_lockState)

/-- The result is reported if a callback is registered. -/
def hlcsNotifySelfTestResult (result : HlcsSelfTestResult) : HlcsApi T Unit := do
  let v ← hlcsVars
  if v.s_selfTestResultCallback ≠ 0 then
    hlcsOutput (.selfTestResultCallback v.s_selfTestResultCallback result)

/-- The driver's reading has to be below 2 amperes. -/
def hlcsDoCurrentCheck (hw : HwLockCtrl) : HlcsApi T Unit := do
  hlcsOutput .HwLockCtrlReadCurrent
  configASSERT (hw.readCurrent < 2000)

/-- The self test is made and its result reported; the request that leads back to the position
before the test goes to the front of the queue. -/
def hlcsPerformSelfTest (hw : HwLockCtrl) : HlcsApi T Unit := do
  hlcsOutput .HwLockCtrlSelfTest
  if hw.selfTest.1 = true ∧ hw.selfTest.2 = .HW_LOCK_CTRL_SELF_TEST_PASSED then
    hlcsNotifySelfTestResult .HLCS_SELF_TEST_RESULT_PASS
  else
    hlcsNotifySelfTestResult .HLCS_SELF_TEST_RESULT_FAIL
  let v ← hlcsVars
  if v.s_stateHistory = some .HLCS_SmUnlocked then hlcsPushUrgentEvent .SIG_REQUEST_UNLOCKED
  else hlcsPushUrgentEvent .SIG_REQUEST_LOCKED

/-- The macro `Handled()`. -/
def handled : HlcsApi T (Option StateFunc) := do
  pure (← hlcsVars).s_currentState

/-- The hardware is initialised, whatever the event, and the lock is to be locked. -/
def hlcsSmInitialPseudoState : HlcsApi T (Option StateFunc) := do
  hlcsOutput .HwLockCtrlInit
  pure (some .HLCS_SmLocked)

/-- The state of a lock that is locked. -/
def hlcsSmLocked (hw : HwLockCtrl) : Option Signal → HlcsApi T (Option StateFunc)
  | some .SM_ENTER => do
    hlcsOutput .HwLockCtrlLock
    hlcsNotifyChangedState .HLCS_LOCK_STATE_LOCKED
    handled
  | some .SM_EXIT => do
    let rtn ← handled
    hlcsAssign fun v => { v with s_stateHistory := some .HLCS_SmLocked }
    pure rtn
  | some .SIG_REQUEST_LOCKED => handled
  | some .SIG_REQUEST_UNLOCKED => pure (some .HLCS_SmUnlocked)
  | some .SIG_REQUEST_SELF_TEST => pure (some .HLCS_SmSelfTest)
  | some .SIG_REQUEST_CURRENT_CHECK => do
    hlcsDoCurrentCheck hw
    handled
  | _ => handled

/-- The state of a lock that is unlocked. -/
def hlcsSmUnlocked (hw : HwLockCtrl) : Option Signal → HlcsApi T (Option StateFunc)
  | some .SM_ENTER => do
    let rtn ← handled
    hlcsOutput .HwLockCtrlUnlock
    hlcsNotifyChangedState .HLCS_LOCK_STATE_UNLOCKED
    pure rtn
  | some .SM_EXIT => do
    let rtn ← handled
    hlcsAssign fun v => { v with s_stateHistory := some .HLCS_SmUnlocked }
    pure rtn
  | some .SIG_REQUEST_LOCKED => pure (some .HLCS_SmLocked)
  | some .SIG_REQUEST_UNLOCKED => handled
  | some .SIG_REQUEST_SELF_TEST => pure (some .HLCS_SmSelfTest)
  | some .SIG_REQUEST_CURRENT_CHECK => do
    hlcsDoCurrentCheck hw
    handled
  | _ => handled

/-- A request for a self test falls through to the default. -/
def hlcsSmSelfTest (hw : HwLockCtrl) : Option Signal → HlcsApi T (Option StateFunc)
  | some .SM_ENTER => do
    hlcsPerformSelfTest hw
    handled
  | some .SIG_REQUEST_LOCKED => pure (some .HLCS_SmLocked)
  | some .SIG_REQUEST_UNLOCKED => pure (some .HLCS_SmUnlocked)
  | _ => handled

/-- The call `s_currentState(event)`. -/
def callCurrentState (hw : HwLockCtrl) (event : Option Signal) : HlcsApi T (Option StateFunc) := do
  match (← hlcsVars).s_currentState with
  | some .HLCS_SmInitialPseudoState => hlcsSmInitialPseudoState
  | some .HLCS_SmLocked => hlcsSmLocked hw event
  | some .HLCS_SmUnlocked => hlcsSmUnlocked hw event
  | some .HLCS_SmSelfTest => hlcsSmSelfTest hw event
  | none => leave .undefined

/-- The current state handles the event; a change of state is an exit from it and an entry to the
next. -/
def hlcsSmProcess (hw : HwLockCtrl) (event : Option Signal) : HlcsApi T Unit := do
  let rtn ← callCurrentState hw event
  if rtn ≠ (← hlcsVars).s_currentState then
    let _ ← callCurrentState hw (some .SM_EXIT)
    hlcsAssign fun v => { v with s_currentState := rtn }
    let _ ← callCurrentState hw (some .SM_ENTER)

/-- The initial pseudo state is run, and the state that it answers is entered. -/
def hlcsSmInitialize (hw : HwLockCtrl) : HlcsApi T Unit := do
  hlcsAssign fun v => { v with s_currentState := some .HLCS_SmInitialPseudoState }
  let rtn ← callCurrentState hw (some .SM_ENTER)
  hlcsAssign fun v => { v with s_currentState := rtn }
  let _ ← callCurrentState hw (some .SM_ENTER)

/-- The event is received into a local variable. -/
def hlcsProcessOneEvent (option : ExecutionOption) (hw : HwLockCtrl) : HlcsApi T Bool := do
  let v ← hlcsVars
  let idle ← if option = .EXECUTION_OPTION_UNIT_TEST then
      (fun n => decide (0 = n)) <$> onWorld (onLib (uxQueueMessagesWaiting v.s_eventQueue))
    else pure false
  if idle = true then pure false
  else
    let r ← onWorld (onLib (xQueueReceive v.s_eventQueue
      (some (List.replicate sizeofHlcsEvent 0))))
    if r.1 = 0 then pure false
    else
      let signal := signalOfBytes (r.2.getD [])
      if signal = some .SIG_REQUEST_THREAD_EXIT then
        hlcsAssign fun v => { v with s_exitThread := true }
        pure false
      else
        hlcsSmProcess hw signal
        pure true

/-! ## Setup, teardown and registration -/

variable (P : Platform T)

/-- The allocator answers `addr` for the queue; `callback` is the address of
`HLCS_CheckCurrentTimerCallback`. -/
def hlcsInit (addr : Handle) (callback : UInt64) : HlcsApi T Unit := do
  let v ← hlcsVars
  configASSERT (v.s_lockState = .HLCS_LOCK_STATE_UNKNOWN)
  configASSERT (v.s_thread = 0)
  configASSERT (v.s_eventQueue = nullptr)
  configASSERT (v.s_timer = 0)
  configASSERT (v.s_stateChangedCallback = 0)
  configASSERT (v.s_selfTestResultCallback = 0)
  configASSERT (v.s_currentState = none)
  configASSERT (v.s_stateHistory = none)
  configASSERT (v.s_exitThread = false)
  let queue ← onWorld (onLib (xQueueCreate addr hlcsQueueDepth sizeofHlcsEvent))
  hlcsAssign fun v => { v with s_eventQueue := queue }
  configASSERT (queue ≠ nullptr)
  let timer ← onWorld (xTimerCreate P (some "current") (pdMS_TO_TICKS P.configTICK_RATE_HZ 5000)
    pdTRUE 0 callback)
  hlcsAssign fun v => { v with s_timer := timer }
  configASSERT (timer ≠ 0)

/-- The module is torn down; the request that ends its thread goes through its queue first. -/
def hlcsDestroy : HlcsApi T Unit := do
  let v ← hlcsVars
  if v.s_eventQueue ≠ nullptr then
    hlcsAssign fun v => { v with s_exitThread := true }
    hlcsPushUrgentEvent .SIG_REQUEST_THREAD_EXIT
    onWorld vTaskDelete
    onWorld (onLib (vQueueDelete v.s_eventQueue))
  if v.s_timer ≠ 0 then
    let _ ← onWorld (xTimerGenericCommandFromTask P v.s_timer tmrCOMMAND_DELETE 0)
    hlcsAssign fun v => { v with s_timer := 0 }
  hlcsAssign fun v => { v with
    s_lockState := .HLCS_LOCK_STATE_UNKNOWN
    s_eventQueue := nullptr
    s_stateChangedCallback := 0
    s_selfTestResultCallback := 0
    s_currentState := none
    s_stateHistory := none
    s_exitThread := false
    s_thread := 0 }

/-- The thread is created, or the state machine initialised in a unit test, and the timer started.
-/
def hlcsStart (option : ExecutionOption) (hw : HwLockCtrl) : HlcsApi T Unit := do
  let v ← hlcsVars
  configASSERT (v.s_currentState = none)
  configASSERT (v.s_thread = 0)
  if option = .EXECUTION_OPTION_NORMAL then
    let ok ← onWorld xTaskCreate
    configASSERT (ok = pdPASS)
  else hlcsSmInitialize hw
  let tickCount ← onWorld (xTaskGetTickCount P)
  let rtn ← onWorld (xTimerGenericCommandFromTask P v.s_timer tmrCOMMAND_START tickCount)
  configASSERT (rtn = pdPASS)

/-- The state that was stored last. -/
def hlcsGetState : HlcsApi T HlcsLockState := do
  pure (← hlcsVars).s_lockState

/-- The callback for changes of the state replaces the one before. -/
def hlcsRegisterChangeStateCallback (callback : UInt64) : HlcsApi T Unit :=
  hlcsAssign fun v => { v with s_stateChangedCallback := callback }

/-- The callback for results of self tests replaces the one before. -/
def hlcsRegisterSelfTestResultCallback (callback : UInt64) : HlcsApi T Unit :=
  hlcsAssign fun v => { v with s_selfTestResultCallback := callback }

/-! ## Runs -/

/-- A call of the service by its clients, its timer and the harness, which also moves the clock of
the timers. The driver's answers during a call come with it. -/
inductive HlcsCall
  | start (option : ExecutionOption) (hw : HwLockCtrl)
  | requestLocked
  | requestUnlocked
  | requestSelfTest
  | checkCurrentTimer
  | processOneEvent (option : ExecutionOption) (hw : HwLockCtrl)
  | registerChangeState (callback : UInt64)
  | registerSelfTestResult (callback : UInt64)
  | moveTimeForward (duration : ℤ)
  deriving DecidableEq

/-- The function that a call calls. -/
def HlcsCall.exec : HlcsCall → HlcsApi T Value
  | .start option hw => (fun _ => .unit) <$> hlcsStart P option hw
  | .requestLocked => (fun _ => .unit) <$> hlcsRequestLockedAsync
  | .requestUnlocked => (fun _ => .unit) <$> hlcsRequestUnlockedAsync
  | .requestSelfTest => (fun _ => .unit) <$> hlcsRequestSelfTestAsync
  | .checkCurrentTimer => (fun _ => .unit) <$> hlcsCheckCurrentTimerCallback
  | .processOneEvent option hw => .bool <$> hlcsProcessOneEvent option hw
  | .registerChangeState callback => (fun _ => .unit) <$> hlcsRegisterChangeStateCallback callback
  | .registerSelfTestResult callback =>
    (fun _ => .unit) <$> hlcsRegisterSelfTestResultCallback callback
  | .moveTimeForward duration =>
    (fun _ => .unit) <$> onWorld (FakeFreeRtos.moveTimeForward P duration)

/-- The effect of one call. -/
def Hlcs.Step (s : Hlcs T) (c : HlcsCall) (r : Reply) (s' : Hlcs T) : Prop :=
  StepOf (c.exec P) s r s'

instance [DecidableEq T] (s : Hlcs T) (c : HlcsCall) (r : Reply) (s' : Hlcs T) :
    Decidable (s.Step P c r s') := inferInstanceAs (Decidable (StepOf ..))

end FakeFreeRtos
