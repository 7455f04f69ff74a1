import FakeFreeRtos.Model.Kernel

/-!
# The fake software timers and the clock

The functions of `cpputest_for_freertos_timers.cpp`. The timer engine `FakeTimers` comes from
another library; it is a parameter here, a type of engine states with the operations that the
source calls (`FakeTimers`). The calls that a timer's callback makes while the engine moves time
forward are calls of the program, made at that time.

A `std::chrono` duration is an integer held in a signed 64-bit counter: an operation whose result
does not fit is undefined. The tick rate `configTICK_RATE_HZ` is kept as a parameter.
-/

namespace FakeFreeRtos

/-! ## Durations and ticks -/

/-- A value that a signed 64-bit counter holds. -/
def FitsInt64 (x : ℤ) : Prop := -2 ^ 63 ≤ x ∧ x < 2 ^ 63

instance (x : ℤ) : Decidable (FitsInt64 x) := inferInstanceAs (Decidable (_ ∧ _))

/-- The conversion of a `uint64_t` to a signed 64-bit counter. -/
def toInt64 (n : UInt64) : ℤ := n.toInt64.toInt

/-- The conversion of a signed 64-bit counter to `uint64_t`. -/
def toUInt64 (x : ℤ) : UInt64 := UInt64.ofNat (x % 2 ^ 64).toNat

/-- `pdTICKS_TO_MS`, in `uint64_t`. -/
def pdTICKS_TO_MS (configTICK_RATE_HZ : UInt64) (xTimeInTicks : TickType) : UInt64 :=
  xTimeInTicks * 1000 / configTICK_RATE_HZ

/-- `pdMS_TO_TICKS`, in `uint64_t`. -/
def pdMS_TO_TICKS (configTICK_RATE_HZ : UInt64) (xTimeInMs : UInt64) : TickType :=
  xTimeInMs * configTICK_RATE_HZ / 1000

/-- `duration_cast<milliseconds>` of nanoseconds, which truncates. -/
def toMilliseconds (ns : ℤ) : ℤ := ns.tdiv 1000000

/-! ## The timer engine -/

/-- `FakeTimers::Behavior`. -/
inductive Behavior
  | SingleShot
  | AutoReload
  deriving DecidableEq

/-- The operations of the class `FakeTimers`, on engine states in `T`. Handles, contexts and
callbacks are 64-bit values, durations are in nanoseconds. -/
structure FakeTimers (T : Type) where
  /-- The constructor, from the tick duration in milliseconds. -/
  new : ℤ → T
  moveTimeForward : T → ℤ → T
  getCurrentInternalTime : T → ℤ
  timerCreate : T → Option String → ℤ → Behavior → UInt64 → UInt64 → UInt64 × T
  timerStart : T → UInt64 → Bool × T
  timerDelete : T → UInt64 → Bool × T
  timerStop : T → UInt64 → Bool × T
  timerReset : T → UInt64 → Bool × T
  timerChangePeriod : T → UInt64 → ℤ → Bool × T
  timerIsActive : T → UInt64 → Bool
  timerGetContext : T → UInt64 → UInt64
  timerSetContext : T → UInt64 → UInt64 → T
  timerGetName : T → UInt64 → Option String
  timerGetBehavior : T → UInt64 → Behavior
  timerSetBehavior : T → UInt64 → Behavior → T
  timerGetPeriod : T → UInt64 → ℤ
  timerGetExpiryTime : T → UInt64 → ℤ

/-- The engine as far as it is a clock: it never has timers. -/
def FakeTimers.clock : FakeTimers ℤ where
  new _ := 0
  moveTimeForward t duration := t + duration
  getCurrentInternalTime t := t
  timerCreate t _ _ _ _ _ := (0, t)
  timerStart t _ := (false, t)
  timerDelete t _ := (false, t)
  timerStop t _ := (false, t)
  timerReset t _ := (false, t)
  timerChangePeriod t _ _ := (false, t)
  timerIsActive _ _ := false
  timerGetContext _ _ := 0
  timerSetContext t _ _ := t
  timerGetName _ _ := none
  timerGetBehavior _ _ := .SingleShot
  timerSetBehavior t _ _ := t
  timerGetPeriod _ _ := 0
  timerGetExpiryTime _ _ := 0

/-- What the library is built with: the timer engine, the tick rate, and the address of the object
`s_an_object` that timer handles are relative to. -/
structure Platform (T : Type) extends FakeTimers T where
  configTICK_RATE_HZ : UInt64
  s_an_object : UInt64

/-- The configuration of the repository, with an engine that is only a clock. -/
def Platform.standard : Platform ℤ := { FakeTimers.clock with
  configTICK_RATE_HZ := 1000, s_an_object := 4096 }

/-- A timer of the engine `FakeTimers.listed`, with the time of its expiry while it is active. -/
structure ListedTimer where
  handle : UInt64
  name : Option String
  period : ℤ
  behavior : Behavior
  context : UInt64
  callback : UInt64
  expiry : Option ℤ
  deriving DecidableEq

/-- The clock, the number of timers created so far, and those that have not been deleted. -/
structure ListedTimers where
  now : ℤ
  created : ℕ
  timers : List ListedTimer
  deriving DecidableEq

namespace ListedTimers

def find (t : ListedTimers) (handle : UInt64) : Option ListedTimer :=
  t.timers.find? fun x => x.handle = handle

/-- An operation on the timer `handle`, which fails if there is none. -/
def update (t : ListedTimers) (handle : UInt64) (f : ListedTimer → ListedTimer) :
    Bool × ListedTimers :=
  ((t.find handle).isSome,
    { t with timers := t.timers.map fun x => if x.handle = handle then f x else x })

/-- The timer when the clock reaches `now`: an expired one restarts or ends. -/
def advance (now : ℤ) (x : ListedTimer) : ListedTimer :=
  match x.expiry with
  | none => x
  | some e =>
    if now < e then x
    else match x.behavior with
      | .SingleShot => { x with expiry := none }
      | .AutoReload => { x with expiry := some (e + ((now - e) / x.period + 1) * x.period) }

end ListedTimers

/-- An engine that keeps a list of timers. -/
def FakeTimers.listed : FakeTimers ListedTimers where
  new _ := ⟨0, 0, []⟩
  moveTimeForward t duration :=
    { t with
      now := t.now + duration
      timers := t.timers.map (ListedTimers.advance (t.now + duration)) }
  getCurrentInternalTime t := t.now
  timerCreate t name period behavior context callback :=
    (UInt64.ofNat (t.created + 1), { t with
      created := t.created + 1
      timers := ⟨UInt64.ofNat (t.created + 1), name, period, behavior, context, callback, none⟩ ::
        t.timers })
  timerStart t handle := t.update handle fun x => { x with expiry := some (t.now + x.period) }
  timerDelete t handle :=
    ((t.find handle).isSome, { t with timers := t.timers.filter fun x => x.handle ≠ handle })
  timerStop t handle := t.update handle fun x => { x with expiry := none }
  timerReset t handle := t.update handle fun x => { x with expiry := some (t.now + x.period) }
  timerChangePeriod t handle period :=
    t.update handle fun x => { x with period, expiry := some (t.now + period) }
  timerIsActive t handle := ((t.find handle).bind ListedTimer.expiry).isSome
  timerGetContext t handle := ((t.find handle).map ListedTimer.context).getD 0
  timerSetContext t handle context := (t.update handle fun x => { x with context }).2
  timerGetName t handle := (t.find handle).bind ListedTimer.name
  timerGetBehavior t handle := ((t.find handle).map ListedTimer.behavior).getD .SingleShot
  timerSetBehavior t handle behavior := (t.update handle fun x => { x with behavior }).2
  timerGetPeriod t handle := ((t.find handle).map ListedTimer.period).getD 0
  timerGetExpiryTime t handle := ((t.find handle).bind ListedTimer.expiry).getD 0

/-- The configuration of the repository, with an engine that has timers. -/
def Platform.listed : Platform ListedTimers := { FakeTimers.listed with
  configTICK_RATE_HZ := 1000, s_an_object := 4096 }

/-- The memory of the whole library: that of the queue modules, `s_fakeTimers`, null or the engine,
`s_tickCount` and `m_printAssert`. -/
structure World (T : Type) where
  lib : Lib
  s_fakeTimers : Option T
  s_tickCount : TickType
  m_printAssert : Bool
  deriving DecidableEq

/-- A call of the library. -/
abbrev WorldApi (T : Type) := EStateM Exit (World T)

variable {T : Type}

/-- A call of the queue modules, which do not touch the rest of the memory. -/
def onLib {α : Type} (x : Api α) : WorldApi T α := fun w =>
  match EStateM.run x w.lib with
  | .ok a s => .ok a { w with lib := s }
  | .error e s => .error e { w with lib := s }

@[simp] theorem run_onLib {α : Type} (x : Api α) (w : World T) : EStateM.run (onLib x) w =
    match EStateM.run x w.lib with
    | .ok a s => .ok a { w with lib := s }
    | .error e s => .error e { w with lib := s } := rfl

theorem run_onLib_eq_ok {α : Type} {x : Api α} {w w' : World T} {a : α} :
    EStateM.run (onLib x) w = .ok a w' ↔
      ∃ s, EStateM.run x w.lib = .ok a s ∧ w' = { w with lib := s } := by
  rw [run_onLib]
  cases EStateM.run x w.lib with
  | ok b s =>
    constructor
    · rintro ⟨⟩
      exact ⟨s, rfl, rfl⟩
    · rintro ⟨s', ⟨⟩, rfl⟩
      rfl
  | error e s => exact ⟨nofun, nofun⟩

/-- The conversion of milliseconds to nanoseconds, a multiplication in 64 bits. -/
def toNanoseconds (ms : ℤ) : WorldApi T ℤ :=
  if FitsInt64 (ms * 1000000) then pure (ms * 1000000) else leave .undefined

/-- `s_fakeTimers`, used as the object it points to. -/
def theTimers : WorldApi T T := do
  match (← get).s_fakeTimers with
  | some t => pure t
  | none => leave .undefined

/-- The engine after one of its operations. -/
def updateTimers (t : T) : WorldApi T Unit := modify fun w => { w with s_fakeTimers := some t }

/-- `configASSERT(s_fakeTimers != nullptr)`. -/
def assertTimers : WorldApi T Unit := do
  configASSERT ((← get).s_fakeTimers.isSome)

/-! ## The module functions -/

variable (P : Platform T)

/-- The engine is created, which must not exist yet. -/
def timersInit : WorldApi T Unit := do
  configASSERT ((← get).s_fakeTimers.isNone)
  updateTimers (P.new (P.configTICK_RATE_HZ.toNat * 1 / 1000))

/-- The engine is deleted, which must exist. -/
def timersDestroy : WorldApi T Unit := do
  assertTimers
  modify fun w => { w with s_fakeTimers := none }

/-- Whether the engine exists. -/
def timersIsActive : WorldApi T Bool := do
  pure (← get).s_fakeTimers.isSome

/-- Time passes for the engine, which must exist. -/
def moveTimeForward (duration : ℤ) : WorldApi T Unit := do
  assertTimers
  let t ← theTimers
  updateTimers (P.moveTimeForward t duration)

/-- The time of the engine, or zero without one. -/
def getCurrentInternalTime : WorldApi T ℤ := do
  if ← timersIsActive then
    let t ← theTimers
    pure (P.getCurrentInternalTime t)
  else pure 0

/-- A number of ticks as a duration of the engine. -/
def ticksToChrono (ticks : TickType) : WorldApi T ℤ :=
  toNanoseconds (toInt64 (pdTICKS_TO_MS P.configTICK_RATE_HZ ticks))

/-! ## The timer API -/

/-- `TimerHandle_t`, an address. -/
abbrev TimerHandle := UInt64

/-- A handle of the engine as an offset from `s_an_object`. -/
def handleToPointer (handle : UInt64) : TimerHandle := P.s_an_object + handle

/-- The offset from `s_an_object`. -/
def pointerToHandle (ptr : TimerHandle) : UInt64 := ptr - P.s_an_object

variable {P} in
theorem pointerToHandle_handleToPointer (handle : UInt64) :
    pointerToHandle P (handleToPointer P handle) = handle := by
  rw [pointerToHandle, handleToPointer, UInt64.add_comm, UInt64.add_sub_cancel]

def tmrCOMMAND_START : BaseType := 1
def tmrCOMMAND_RESET : BaseType := 2
def tmrCOMMAND_STOP : BaseType := 3
def tmrCOMMAND_CHANGE_PERIOD : BaseType := 4
def tmrCOMMAND_DELETE : BaseType := 5

/-- A timer of the engine is created, which autoreloads if the mode is `pdTRUE`. -/
def xTimerCreate (pcTimerName : Option String) (xTimerPeriodInTicks : TickType)
    (xAutoReload : BaseType) (pvTimerID pxCallbackFunction : UInt64) :
    WorldApi T TimerHandle := do
  assertTimers
  let behavior := if xAutoReload = pdTRUE then Behavior.AutoReload else Behavior.SingleShot
  let t ← theTimers
  let period ← ticksToChrono P xTimerPeriodInTicks
  let r := P.timerCreate t pcTimerName period behavior pvTimerID pxCallbackFunction
  updateTimers r.2
  pure (handleToPointer P r.1)

/-- An engine operation whose result a `configASSERT` checks. -/
def checkedOperation (r : T → Bool × T) : WorldApi T Unit := do
  let t ← theTimers
  updateTimers (r t).2
  configASSERT ((r t).1 = true)

theorem run_checkedOperation {w : World T} {t : T} (h : w.s_fakeTimers = some t)
    (r : T → Bool × T) :
    EStateM.run (checkedOperation r) w =
      if (r t).1 = true then .ok () { w with s_fakeTimers := some (r t).2 }
      else .error .assertFailed { w with s_fakeTimers := some (r t).2 } := by
  by_cases hr : (r t).1 = true <;> simp [checkedOperation, theTimers, updateTimers, h, hr]

/-- The command of that number; another number trips the assertion, and so does an engine that
refuses. -/
def xTimerGenericCommandFromTask (xTimer : TimerHandle) (xCommandID : BaseType)
    (xOptionalValue : TickType) : WorldApi T BaseType := do
  assertTimers
  configASSERT (xTimer ≠ 0)
  if xCommandID = tmrCOMMAND_START then
    checkedOperation fun t => P.timerStart t (pointerToHandle P xTimer)
    pure pdPASS
  else if xCommandID = tmrCOMMAND_DELETE then
    checkedOperation fun t => P.timerDelete t (pointerToHandle P xTimer)
    pure pdPASS
  else if xCommandID = tmrCOMMAND_STOP then
    checkedOperation fun t => P.timerStop t (pointerToHandle P xTimer)
    pure pdPASS
  else if xCommandID = tmrCOMMAND_CHANGE_PERIOD then
    let period ← ticksToChrono P xOptionalValue
    checkedOperation fun t => P.timerChangePeriod t (pointerToHandle P xTimer) period
    pure pdPASS
  else if xCommandID = tmrCOMMAND_RESET then
    checkedOperation fun t => P.timerReset t (pointerToHandle P xTimer)
    pure pdPASS
  else
    configASSERT False
    pure pdPASS

/-- Whether the timer runs. -/
def xTimerIsTimerActive (xTimer : TimerHandle) : WorldApi T BaseType := do
  assertTimers
  let t ← theTimers
  if P.timerIsActive t (pointerToHandle P xTimer) then pure pdTRUE else pure pdFALSE

/-- The identity of a timer is its context in the engine. -/
def pvTimerGetTimerID (xTimer : TimerHandle) : WorldApi T UInt64 := do
  assertTimers
  let t ← theTimers
  pure (P.timerGetContext t (pointerToHandle P xTimer))

/-- The context of the timer is replaced. -/
def vTimerSetTimerID (xTimer : TimerHandle) (pvNewID : UInt64) : WorldApi T Unit := do
  assertTimers
  let t ← theTimers
  updateTimers (P.timerSetContext t (pointerToHandle P xTimer) pvNewID)

/-- The name that the timer was created with. -/
def pcTimerGetName (xTimer : TimerHandle) : WorldApi T (Option String) := do
  assertTimers
  let t ← theTimers
  pure (P.timerGetName t (pointerToHandle P xTimer))

/-- `pdTRUE` for a timer that autoreloads. -/
def xTimerGetReloadMode (xTimer : TimerHandle) : WorldApi T BaseType := do
  assertTimers
  let t ← theTimers
  if P.timerGetBehavior t (pointerToHandle P xTimer) = .AutoReload then pure pdTRUE
  else pure pdFALSE

/-- The timer autoreloads if the mode is `pdTRUE`, and is a single shot otherwise. -/
def vTimerSetReloadMode (xTimer : TimerHandle) (xAutoReload : BaseType) : WorldApi T Unit := do
  assertTimers
  let behavior := if xAutoReload = pdTRUE then Behavior.AutoReload else Behavior.SingleShot
  let t ← theTimers
  updateTimers (P.timerSetBehavior t (pointerToHandle P xTimer) behavior)

/-- A duration of the engine, in ticks. -/
def chronoToTicks (duration : ℤ) : TickType :=
  pdMS_TO_TICKS P.configTICK_RATE_HZ (toUInt64 (toMilliseconds duration))

/-- The period of the timer, in ticks. -/
def xTimerGetPeriod (xTimer : TimerHandle) : WorldApi T TickType := do
  assertTimers
  let t ← theTimers
  pure (chronoToTicks P (P.timerGetPeriod t (pointerToHandle P xTimer)))

/-- The time at which the timer expires, in ticks. -/
def xTimerGetExpiryTime (xTimer : TimerHandle) : WorldApi T TickType := do
  assertTimers
  let t ← theTimers
  pure (chronoToTicks P (P.timerGetExpiryTime t (pointerToHandle P xTimer)))

end FakeFreeRtos
