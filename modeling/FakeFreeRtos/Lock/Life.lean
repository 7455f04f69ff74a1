import FakeFreeRtos.Clock.TimerTable
import FakeFreeRtos.Lock.Controller
import FakeFreeRtos.Lock.Tenant

/-!
# The life of the lock service

Over its whole life the service is without a queue, or set up, or running as the controller
(`LockLife`). A machine with these phases answers every call that a program can make, in any order:
requests are noted once the service is set up, and handled from its start on; a service that is
started without having been set up enters its first state all the same, and trips an assertion; a
teardown with ten events pending trips one and leaves everything as it is, any other ends in a
service as at the beginning. The service is this machine (`lockService_life`).
-/

namespace FakeFreeRtos

open Foundations Hlcs DetourMode

/-! ## The machine -/

inductive LockPhase
  /-- There is no queue; the first state may have been entered. -/
  | bare (entered : Bool)
  /-- Set up, and not started; events are pending. -/
  | up (queue : List (DetourEvent LockPosition))
  | running (machine : DetourMachine LockPosition)

namespace LockPhase

/-- The number of pending events. -/
def pending : LockPhase → ℕ
  | bare _ => 0
  | up queue => queue.length
  | running machine => machine.queue.length

/-- The state that is reported. -/
def lockState : LockPhase → HlcsLockState
  | bare true => .HLCS_LOCK_STATE_LOCKED
  | bare false | up _ => .HLCS_LOCK_STATE_UNKNOWN
  | running machine => machine.mode.place.lockState

end LockPhase

/-- The service as its clients know it. -/
structure LockLife where
  phase : LockPhase
  changed : UInt64
  result : UInt64
  outputs : List Output

namespace LockLife

variable (l : LockLife)

/-- The first state is entered. -/
def enter (phase : LockPhase) : LockLife := { l with
  phase
  outputs := l.outputs ++ .HwLockCtrlInit :: (LockAction.enter .locked l.changed).outputs }

/-- An event is noted if there is room. -/
def note (queue : List (DetourEvent LockPosition)) (e : DetourEvent LockPosition) :
    Reply × LockLife :=
  if queue.length < hlcsQueueDepth then
    (.returned .unit, { l with phase := .up (queue ++ [e]) })
  else (.left .assertFailed, l)

/-- A call without a queue. -/
def bare (entered : Bool) : HlcsCall → Reply × LockLife
  | .start .EXECUTION_OPTION_UNIT_TEST _ =>
    (.left .assertFailed, if entered then l else l.enter (.bare true))
  | .registerChangeState callback => (.returned .unit, { l with changed := callback })
  | .registerSelfTestResult callback => (.returned .unit, { l with result := callback })
  | .moveTimeForward _ => (.returned .unit, l)
  | _ => (.left .assertFailed, l)

/-- A call once the service is set up. Processing an event before the start calls a null pointer. -/
def up (queue : List (DetourEvent LockPosition)) : HlcsCall → Reply × LockLife
  | .start .EXECUTION_OPTION_NORMAL _ => (.returned .unit, l)
  | .start .EXECUTION_OPTION_UNIT_TEST _ =>
    (.returned .unit, l.enter (.running ⟨here .locked, queue⟩))
  | .requestLocked => l.note queue (.goto .locked)
  | .requestUnlocked => l.note queue (.goto .unlocked)
  | .requestSelfTest => l.note queue .detour
  | .checkCurrentTimer => l.note queue .other
  | .processOneEvent _ _ =>
    if queue = [] then (.returned (.bool false), l)
    else (.left .undefined, { l with phase := .up queue.tail })
  | .registerChangeState callback => (.returned .unit, { l with changed := callback })
  | .registerSelfTestResult callback => (.returned .unit, { l with result := callback })
  | .moveTimeForward _ => (.returned .unit, l)

/-- The controller that the running service is. -/
def controller (machine : DetourMachine LockPosition) : LockController :=
  ⟨machine, l.changed, l.result, []⟩

/-- What the controller has become. -/
def resume (k : LockController) : LockLife :=
  ⟨.running k.machine, k.changed, k.result, l.outputs ++ k.actions.flatMap LockAction.outputs⟩

/-- How a call is answered. -/
def answer : HlcsLifeCall → Reply × LockLife
  | .init _ _ =>
    match l.phase with
    | .bare false =>
      if l.changed = 0 ∧ l.result = 0 then (.returned .unit, { l with phase := .up [] })
      else (.left .assertFailed, l)
    | _ => (.left .assertFailed, l)
  | .call c =>
    match l.phase with
    | .bare entered => l.bare entered c
    | .up queue => l.up queue c
    | .running machine =>
      let r := (l.controller machine).answer c
      (r.1, l.resume r.2)
  | .destroy =>
    if l.phase.pending < hlcsQueueDepth then (.returned .unit, ⟨.bare false, 0, 0, l.outputs⟩)
    else (.left .assertFailed, l)

def Step (l : LockLife) (c : HlcsLifeCall) (r : Reply) (l' : LockLife) : Prop :=
  l.answer c = (r, l')

end LockLife

/-! ## Calls of the service -/

section Calls

variable {T : Type} {P : Platform T} {timer : T → UInt64 → Option EngineTimer} {s s' : Hlcs T}

/-- What the engine promises of a timer that exists. -/
theorem KeepsTimers.timerLaws (laws : KeepsTimers P.toFakeTimers timer) :
    TimerLaws P.toFakeTimers fun t h => (timer t h).isSome where
  create t name period behavior context callback := by
    simp [laws.timerCreate t name period behavior context callback]
  start t h hx := by
    rw [(laws.timerStart t h).2]
    exact hx
  move t h duration hx := by
    rw [laws.moveTimeForward t duration]
    exact hx
  delete t h hx := by
    obtain ⟨hok, htimer⟩ := laws.timerDelete t h
    refine ⟨hok.trans hx, ?_⟩
    simp [htimer]

/-- An existing timer can be started. -/
theorem World.HasTimer.run_start (laws : KeepsTimers P.toFakeTimers timer) {w : World T}
    {h : TimerHandle} (hw : w.HasTimer P (fun t h => (timer t h).isSome) h)
    (tickCount : TickType) : ∃ t,
      EStateM.run (xTimerGenericCommandFromTask P h tmrCOMMAND_START tickCount) w =
        .ok pdPASS { w with s_fakeTimers := some t } := by
  obtain ⟨hne, t, ht, hx⟩ := hw
  refine ⟨(P.timerStart t (pointerToHandle P h)).2, ?_⟩
  rw [run_timerCommand_start ht hne, run_map, run_checkedOperation ht,
    if_pos ((laws.timerStart t _).1.trans hx)]

/-- Time moves on, and the timer still exists. -/
theorem World.HasTimer.run_move (laws : KeepsTimers P.toFakeTimers timer) {w : World T}
    {h : TimerHandle} (hw : w.HasTimer P (fun t h => (timer t h).isSome) h) (duration : ℤ) :
    ∃ w', EStateM.run (moveTimeForward P duration) w = .ok () w' ∧ w'.lib = w.lib ∧
      w'.HasTimer P (fun t h => (timer t h).isSome) h := by
  have hkept := hw
  obtain ⟨-, t, ht, -⟩ := hw
  have hmove : EStateM.run (moveTimeForward P duration) w =
      .ok () { w with s_fakeTimers := some (P.moveTimeForward t duration) } := by
    simp [moveTimeForward, assertTimers, theTimers, updateTimers, ht]
  exact ⟨_, hmove, rfl, hkept.move laws.timerLaws hmove⟩

/-- The first state is entered, whether there is a queue or not. -/
theorem run_hlcsSmInitialize_eq (hw : HwLockCtrl) (s : Hlcs T) :
    EStateM.run (hlcsSmInitialize hw) s = .ok () { s with
      vars := { s.vars with
        s_currentState := some .HLCS_SmLocked
        s_lockState := .HLCS_LOCK_STATE_LOCKED }
      outputs := s.outputs ++ .HwLockCtrlInit ::
        (LockAction.enter .locked s.vars.s_stateChangedCallback).outputs } := by
  by_cases hcb : s.vars.s_stateChangedCallback = 0 <;>
    simp [hlcsSmInitialize, callCurrentState, hlcsSmInitialPseudoState, hlcsSmLocked,
      hlcsNotifyChangedState, handled, hcb, LockAction.outputs, LockPosition.command, reported,
      LockPosition.lockState]

/-- The setup changes nothing unless every variable has its initial value. -/
theorem run_hlcsInit_of_ne (h : s.vars ≠ {}) (addr : Handle) (callback : UInt64) :
    EStateM.run (hlcsInit P addr callback) s = .error .assertFailed s := by
  have hassert : ∀ {α : Type} {p : Prop} [Decidable p] {f : Unit → HlcsApi T α},
      (p → EStateM.run (f ()) s = .error .assertFailed s) →
      EStateM.run (configASSERT p >>= f) s = .error .assertFailed s := by
    intro α p _ f hf
    rw [EStateM.run_bind]
    by_cases hp : p
    · rw [run_configASSERT_of hp]
      exact hf hp
    · rw [run_configASSERT_of_not hp]
  rw [hlcsInit, EStateM.run_bind, run_hlcsVars]
  refine hassert fun h₁ => hassert fun h₂ => hassert fun h₃ => hassert fun h₄ => hassert fun h₅ =>
    hassert fun h₆ => hassert fun h₇ => hassert fun h₈ => hassert fun h₉ => ?_
  exact absurd (HlcsVars.eq_initial_iff.mpr ⟨h₁, h₂, h₃, h₄, h₅, h₆, h₇, h₈, h₉⟩) h

/-- Where there are timers, one is created, unless its period overflows. -/
theorem run_xTimerCreate_cases {w : World T} {t : T} (hw : w.s_fakeTimers = some t)
    (name : Option String) (ticks : TickType) (timerID callback : UInt64) :
    (∃ w', EStateM.run (xTimerCreate P name ticks pdTRUE timerID callback) w =
      .error .undefined w') ∨
    ∃ period, EStateM.run (xTimerCreate P name ticks pdTRUE timerID callback) w =
      .ok (handleToPointer P (P.timerCreate t name period .AutoReload timerID callback).1) { w with
        s_fakeTimers := some (P.timerCreate t name period .AutoReload timerID callback).2 } := by
  let ns := toInt64 (pdTICKS_TO_MS P.configTICK_RATE_HZ ticks) * 1000000
  by_cases hfits : FitsInt64 ns
  · refine .inr ⟨ns, ?_⟩
    simp [xTimerCreate, assertTimers, theTimers, updateTimers, ticksToChrono, toNanoseconds, hw,
      hfits, ns]
  · refine .inl ⟨w, ?_⟩
    simp [xTimerCreate, assertTimers, theTimers, ticksToChrono, toNanoseconds, hw, hfits, ns]

/-- The setup fails as the creation of the timer does. -/
theorem run_hlcsInit_of_error {addr : Handle} {callback : UInt64} {e : Exit} {w : World T}
    (hvars : s.vars = {}) (hfresh : s.world.lib.Fresh addr)
    (h : EStateM.run (xTimerCreate P (some "current") (pdMS_TO_TICKS P.configTICK_RATE_HZ 5000)
      pdTRUE 0 callback) (s.world.withEventQueue addr) = .error e w) :
    ∃ s', EStateM.run (hlcsInit P addr callback) s = .error e s' := by
  have hqueue : EStateM.run (xQueueCreate addr hlcsQueueDepth sizeofHlcsEvent) s.world.lib =
      .ok addr (s.world.lib.write addr (hlcsEventQueue [])) := run_xQueueGenericCreate hfresh ..
  rw [World.withEventQueue] at h
  simp [hlcsInit, hvars, hqueue, hfresh.1, h]

/-- Without a queue no event is posted. -/
theorem run_hlcsPushEvent_bare (h : s.vars.s_eventQueue = nullptr) (sig : Signal) :
    EStateM.run (hlcsPushEvent sig) s = .error .assertFailed s := by
  have hfuel : ∀ n item pos, EStateM.run (xQueueGenericSendFuel (n + 1) nullptr item pos)
      s.world.lib = .error .assertFailed s.world.lib := fun n item pos => by
    simp [xQueueGenericSendFuel]
  rw [hlcsPushEvent, hlcsPush, EStateM.run_bind, run_hlcsVars]
  simp only [h, EStateM.run_bind, run_onWorld, run_onLib, run_xQueueGenericSend_eq, hfuel]

theorem run_hlcsProcessOneEvent_bare (h : s.vars.s_eventQueue = nullptr) (option : ExecutionOption)
    (hw : HwLockCtrl) :
    EStateM.run (hlcsProcessOneEvent option hw) s = .error .assertFailed s := by
  have hcount : EStateM.run (uxQueueMessagesWaiting nullptr) s.world.lib =
      .error .assertFailed s.world.lib := by
    simp [uxQueueMessagesWaiting]
  have hreceive : ∀ b, EStateM.run (xQueueReceive nullptr b) s.world.lib =
      .error .assertFailed s.world.lib := fun b => by
    simp [xQueueReceive]
  rw [hlcsProcessOneEvent, EStateM.run_bind, run_hlcsVars]
  cases option with
  | EXECUTION_OPTION_NORMAL =>
    simp only [h, reduceCtorEq, if_false, EStateM.run_bind, EStateM.run_pure, Bool.false_eq_true,
      run_onWorld, run_onLib, hreceive]
  | EXECUTION_OPTION_UNIT_TEST =>
    simp only [h, if_true, EStateM.run_bind, run_map, run_onWorld, run_onLib, hcount]

/-- The null handle is no timer. -/
theorem run_timerCommand_null (commandID : BaseType) (value : TickType) (w : World T) :
    EStateM.run (xTimerGenericCommandFromTask P 0 commandID value) w = .error .assertFailed w := by
  rw [xTimerGenericCommandFromTask, EStateM.run_bind]
  cases hw : w.s_fakeTimers with
  | none => simp [assertTimers, hw]
  | some t =>
    have htimers : EStateM.run assertTimers w = .ok () w := by simp [assertTimers, hw]
    rw [htimers]
    simp only [EStateM.run_bind, run_configASSERT_of_not (not_not.mpr rfl)]

/-- Without a timer a start trips an assertion, but only in the end. -/
theorem run_hlcsStart_bare (h : s.vars.s_timer = 0) (option : ExecutionOption) (hw : HwLockCtrl) :
    EStateM.run (hlcsStart P option hw) s =
      if s.vars.s_currentState = none ∧ s.vars.s_thread = 0 ∧ option = .EXECUTION_OPTION_UNIT_TEST
      then .error .assertFailed (finalState (EStateM.run (hlcsSmInitialize hw) s))
      else .error .assertFailed s := by
  rw [hlcsStart, EStateM.run_bind, run_hlcsVars]
  dsimp only
  rw [EStateM.run_bind]
  by_cases hstate : s.vars.s_currentState = none
  · rw [run_configASSERT_of hstate]
    dsimp only
    rw [EStateM.run_bind]
    by_cases hthread : s.vars.s_thread = 0
    · rw [run_configASSERT_of hthread]
      cases option with
      | EXECUTION_OPTION_NORMAL =>
        simp only [h, reduceCtorEq, if_true, if_false, and_false, xTaskCreate, EStateM.run_bind,
          run_onWorld, EStateM.run_pure, run_configASSERT_of, run_xTaskGetTickCount,
          run_timerCommand_null]
      | EXECUTION_OPTION_UNIT_TEST =>
        simp only [h, hstate, hthread, reduceCtorEq, and_self, if_true, if_false, EStateM.run_bind,
          run_onWorld, run_hlcsSmInitialize_eq, run_xTaskGetTickCount, run_timerCommand_null,
          finalState_ok]
    · rw [run_configASSERT_of_not hthread]
      exact (if_neg fun hc => hthread hc.2.1).symm
  · rw [run_configASSERT_of_not hstate]
    exact (if_neg fun hc => hstate hc.1).symm

/-- Without queue and timer the teardown resets the variables. -/
theorem run_hlcsDestroy_bare (hqueue : s.vars.s_eventQueue = nullptr) (h : s.vars.s_timer = 0) :
    EStateM.run (hlcsDestroy P) s = .ok () { s with vars := {} } := by
  simp [hlcsDestroy, hqueue, h]

/-- Nobody is told anything. -/
def Hlcs.Quiet (s s' : Hlcs T) : Prop := s'.outputs = s.outputs

instance : IsPreorder (Hlcs T) Quiet where
  refl _ := rfl
  trans _ _ _ h h' := h'.trans h

theorem quiet_onWorld {α : Type} (x : WorldApi T α) : Ensures Quiet (onWorld x) := fun s => by
  rw [run_onWorld]
  cases EStateM.run x s.world <;> rfl

theorem quiet_hlcsDestroy : Ensures Quiet (hlcsDestroy P) := by
  have hassign : ∀ f, Ensures (Quiet (T := T)) (hlcsAssign f) := fun _ _ => rfl
  have hpush : Ensures (Quiet (T := T)) (hlcsPushUrgentEvent .SIG_REQUEST_THREAD_EXIT) :=
    ensures_hlcsVars.bind fun _ => (quiet_onWorld _).bind fun _ =>
      .ite (fun _ => ensures_configASSERT_hlcs _) fun _ => .pure _
  have htimer : ∀ v : HlcsVars, Ensures (Quiet (T := T)) (do
      let _ ← onWorld (xTimerGenericCommandFromTask P v.s_timer tmrCOMMAND_DELETE 0)
      hlcsAssign fun v => { v with s_timer := 0 }) := fun v =>
    (quiet_onWorld _).bind fun _ => hassign _
  refine ensures_hlcsVars.bind fun v => .ite (fun _ => (hassign _).bind fun _ => hpush.bind
    fun _ => (quiet_onWorld _).bind fun _ => (quiet_onWorld _).bind fun _ => ?_) fun _ => ?_
  all_goals
    exact .ite (fun _ => (quiet_onWorld _).bind fun _ => (hassign _).bind fun _ => hassign _)
      fun _ => hassign _

end Calls

/-! ## The service is the machine -/

variable {T : Type} (P : Platform T) (timer : T → UInt64 → Option EngineTimer)

/-- The allocator answers a vacant address, and the engine a timer that is not null. -/
def HlcsLifeCall.Provided (w : World T) : HlcsLifeCall → Prop
  | .init addr callback => w.lib.Vacant addr ∧ ∀ t period, w.s_fakeTimers = some t →
    handleToPointer P (P.timerCreate t (some "current") period .AutoReload 0 callback).1 ≠ 0
  | _ => True

theorem HlcsLifeCall.Provided.granted {w : World T} {c : HlcsLifeCall} (h : c.Provided P w) :
    c.Granted w.lib := by
  cases c with
  | init addr callback => exact h.1
  | call c => exact h
  | destroy => exact h

namespace LockLife

/-- The timer of the service exists. -/
def HasTimer (s : Hlcs T) : Prop :=
  s.world.HasTimer P (fun t h => (timer t h).isSome) s.vars.s_timer

/-- What the memory holds in a phase, with the callbacks that are registered. -/
inductive InPhase (s : Hlcs T) (changed result : UInt64) : LockPhase → Prop
  | bare {entered : Bool} (timers : s.world.s_fakeTimers.isSome)
      (vars : s.vars = {
        s_lockState := (LockPhase.bare entered).lockState
        s_currentState := if entered then some .HLCS_SmLocked else none
        s_stateChangedCallback := changed
        s_selfTestResultCallback := result }) : InPhase s changed result (.bare entered)
  | up {addr : Handle} {queue : List (DetourEvent LockPosition)}
      (queued : s.Queued addr (queue.map fun e => (eventSignal e).bytes))
      (noMember : s.world.lib.NoMember addr) (bounded : queue.length ≤ hlcsQueueDepth)
      (hasTimer : HasTimer P timer s) (lockState : s.vars.s_lockState = .HLCS_LOCK_STATE_UNKNOWN)
      (thread : s.vars.s_thread = 0) (currentState : s.vars.s_currentState = none)
      (changed_eq : s.vars.s_stateChangedCallback = changed)
      (result_eq : s.vars.s_selfTestResultCallback = result) :
      InPhase s changed result (.up queue)
  | running {addr : Handle} {machine : DetourMachine LockPosition}
      (mirrors : s.Mirrors s.outputs addr ⟨machine, changed, result, []⟩)
      (hasTimer : HasTimer P timer s) : InPhase s changed result (.running machine)

/-- The memory shows the service in the state `l` of its life. -/
structure Shows (s : Hlcs T) (l : LockLife) : Prop where
  phase : InPhase P timer s l.changed l.result l.phase
  outputs : s.outputs = l.outputs

/-- Where nothing undefined happens, a call is answered as the machine answers it. -/
def Answered (s : Hlcs T) (l : LockLife) (c : HlcsLifeCall) : Prop :=
  ∀ r s', StepOf (c.exec P) s r s' → r.Defined → l.answer c = (r, (l.answer c).2) ∧
    Shows P timer s' (l.answer c).2

variable {P timer} {s s' : Hlcs T} {l : LockLife} {c : HlcsLifeCall}

theorem answered_of (hstep : StepOf (c.exec P) s (l.answer c).1 s')
    (h : Shows P timer s' (l.answer c).2) : Answered P timer s l c := by
  intro r s'' hstep' _
  obtain ⟨hr, rfl⟩ := hstep.deterministic hstep'
  exact ⟨Prod.ext hr rfl, h⟩

theorem Shows.lockState_eq (h : Shows P timer s l) : s.vars.s_lockState = l.phase.lockState := by
  obtain ⟨phase, changed, result, outputs⟩ := l
  obtain ⟨hphase, -⟩ := h
  cases hphase with
  | bare timers vars => rw [vars]
  | up queued noMember bounded hasTimer lockState => exact lockState
  | running mirrors hasTimer => exact mirrors.represents.lockState

theorem Shows.init_refused (h : Shows P timer s l) {addr : Handle} {callback : UInt64}
    (hvars : s.vars ≠ {}) (hanswer : l.answer (.init addr callback) = (.left .assertFailed, l)) :
    Answered P timer s l (.init addr callback) := by
  have hstep : StepOf (HlcsLifeCall.exec P (.init addr callback)) s
      (l.answer (.init addr callback)).1 s := by
    rw [hanswer]
    exact stepOf_of_error (run_hlcsInit_of_ne hvars addr callback)
  refine answered_of hstep ?_
  rw [hanswer]
  exact h

/-! ### Without a queue -/

section Bare

variable {entered : Bool} {changed result : UInt64} {outputs : List Output}

theorem Shows.bare_call (h : Shows P timer s ⟨.bare entered, changed, result, outputs⟩)
    (c : HlcsCall) :
    Answered P timer s ⟨.bare entered, changed, result, outputs⟩ (.call c) := by
  obtain ⟨⟨timers, vars⟩, rfl⟩ := h
  have hqueue : s.vars.s_eventQueue = nullptr := by rw [vars]
  have htimer : s.vars.s_timer = 0 := by rw [vars]
  have hkept : Shows P timer s ⟨.bare entered, changed, result, s.outputs⟩ :=
    ⟨.bare timers vars, rfl⟩
  cases c with
  | start option hw =>
    have hrun := run_hlcsStart_bare (P := P) htimer option hw
    rw [run_hlcsSmInitialize_eq, vars] at hrun
    cases entered with
    | true =>
      rw [if_neg (by simp)] at hrun
      cases option <;> exact answered_of (stepOf_of_error hrun) hkept
    | false =>
      cases option with
      | EXECUTION_OPTION_NORMAL =>
        rw [if_neg (by simp)] at hrun
        exact answered_of (stepOf_of_error hrun) hkept
      | EXECUTION_OPTION_UNIT_TEST =>
        rw [if_pos ⟨rfl, rfl, rfl⟩] at hrun
        exact answered_of (stepOf_of_error hrun) ⟨.bare timers rfl, rfl⟩
  | processOneEvent option hw =>
    exact answered_of (stepOf_of_error (run_hlcsProcessOneEvent_bare hqueue option hw)) hkept
  | registerChangeState callback =>
    exact answered_of rfl ⟨.bare timers
      (congrArg (fun v : HlcsVars => { v with s_stateChangedCallback := callback }) vars), rfl⟩
  | registerSelfTestResult callback =>
    exact answered_of rfl ⟨.bare timers
      (congrArg (fun v : HlcsVars => { v with s_selfTestResultCallback := callback }) vars), rfl⟩
  | moveTimeForward duration =>
    obtain ⟨t, ht⟩ := Option.isSome_iff_exists.mp timers
    have hmove : EStateM.run (onWorld (moveTimeForward P duration)) s = .ok () { s with
        world := { s.world with s_fakeTimers := some (P.moveTimeForward t duration) } } := by
      simp [moveTimeForward, assertTimers, theTimers, updateTimers, ht]
    exact answered_of (stepOf_of_ok hmove) ⟨.bare rfl vars, rfl⟩
  | requestLocked => exact answered_of (stepOf_of_error (run_hlcsPushEvent_bare hqueue _)) hkept
  | requestUnlocked => exact answered_of (stepOf_of_error (run_hlcsPushEvent_bare hqueue _)) hkept
  | requestSelfTest => exact answered_of (stepOf_of_error (run_hlcsPushEvent_bare hqueue _)) hkept
  | checkCurrentTimer =>
    exact answered_of (stepOf_of_error (run_hlcsPushEvent_bare hqueue _)) hkept

/-- The setup brings up the queue and the timer. -/
theorem Shows.init (laws : KeepsTimers P.toFakeTimers timer)
    (h : Shows P timer s ⟨.bare entered, changed, result, outputs⟩) {addr : Handle}
    {callback : UInt64} (ha : HlcsLifeCall.Provided P s.world (.init addr callback)) :
    Answered P timer s ⟨.bare entered, changed, result, outputs⟩ (.init addr callback) := by
  have hkept := h
  obtain ⟨⟨timers, vars⟩, rfl⟩ := h
  by_cases hinitial : s.vars = {}
  · have hentered : entered = false := by
      rw [vars] at hinitial
      cases entered with
      | true => exact absurd (congrArg HlcsVars.s_currentState hinitial) (by simp)
      | false => rfl
    have hcallbacks : changed = 0 ∧ result = 0 := by
      rw [vars] at hinitial
      exact ⟨congrArg HlcsVars.s_stateChangedCallback hinitial,
        congrArg HlcsVars.s_selfTestResultCallback hinitial⟩
    obtain ⟨rfl, rfl⟩ := hcallbacks
    subst hentered
    obtain ⟨hvacant, hnotNull⟩ := ha
    obtain ⟨t, ht⟩ := Option.isSome_iff_exists.mp timers
    have htimers : (s.world.withEventQueue addr).s_fakeTimers = some t := ht
    rcases run_xTimerCreate_cases (P := P) htimers (some "current")
      (pdMS_TO_TICKS P.configTICK_RATE_HZ 5000) 0 callback with ⟨w, hcreate⟩ | ⟨period, hcreate⟩
    · obtain ⟨s', hrun⟩ := run_hlcsInit_of_error hinitial hvacant.fresh hcreate
      intro r s'' hstep hd
      obtain ⟨rfl, -⟩ := (stepOf_of_error hrun).deterministic hstep
      exact absurd rfl hd.1
    · have hrun := (run_hlcsInit_eq_ok P).mpr
        ⟨hinitial, hvacant.fresh, _, _, hnotNull t period ht, hcreate, rfl⟩
      refine answered_of (stepOf_of_ok hrun) ⟨.up ⟨rfl, hvacant.fresh.1, ?_⟩ ?_
        (Nat.zero_le _) ⟨hnotNull t period ht, _, rfl, ?_⟩ rfl rfl rfl rfl rfl, rfl⟩
      · exact Lib.lookup_write_self ..
      · exact hvacant.noMember.write addr hvacant.fresh.1.symm
      · rw [pointerToHandle_handleToPointer]
        exact laws.timerLaws.create ..
  · have hanswer : (⟨.bare entered, changed, result, s.outputs⟩ : LockLife).answer
        (.init addr callback) =
        (.left .assertFailed, ⟨.bare entered, changed, result, s.outputs⟩) := by
      cases entered with
      | true => rfl
      | false =>
        refine if_neg fun hcallbacks => hinitial ?_
        obtain ⟨rfl, rfl⟩ := hcallbacks
        exact vars
    exact hkept.init_refused hinitial hanswer

theorem Shows.destroy_bare (h : Shows P timer s ⟨.bare entered, changed, result, outputs⟩) :
    Answered P timer s ⟨.bare entered, changed, result, outputs⟩ .destroy := by
  obtain ⟨⟨timers, vars⟩, rfl⟩ := h
  have hqueue : s.vars.s_eventQueue = nullptr := by rw [vars]
  have htimer : s.vars.s_timer = 0 := by rw [vars]
  exact answered_of (stepOf_of_ok (run_hlcsDestroy_bare hqueue htimer)) ⟨.bare timers rfl, rfl⟩

end Bare

/-! ### Set up -/

section Up

variable {queue : List (DetourEvent LockPosition)} {changed result : UInt64} {outputs : List Output}

/-- A request or a time-out is noted. -/
theorem Shows.note (h : Shows P timer s ⟨.up queue, changed, result, outputs⟩)
    (e : DetourEvent LockPosition) : ∃ s',
      StepOf ((fun _ => .unit) <$> hlcsPushEvent (eventSignal e)) s
        (note ⟨.up queue, changed, result, outputs⟩ queue e).1 s' ∧
      Shows P timer s' (note ⟨.up queue, changed, result, outputs⟩ queue e).2 := by
  have hkept := h
  obtain ⟨hphase, rfl⟩ := h
  cases hphase with
  | @up addr _ queued noMember bounded hasTimer lockState thread currentState changed_eq
      result_eq =>
    have hpush : EStateM.run (hlcsPushEvent (eventSignal e)) s = _ :=
      run_hlcsPush queued .back (eventSignal e)
    rw [List.length_map] at hpush
    rw [LockLife.note]
    by_cases hroom : queue.length < hlcsQueueDepth
    · rw [if_pos hroom] at hpush ⊢
      have hqueued : (s.withEvents addr (BoundedDeque.pushItems
          (queue.map fun e => (eventSignal e).bytes) .back (eventSignal e).bytes)).Queued addr
          ((queue ++ [e]).map fun e => (eventSignal e).bytes) := by
        rw [List.map_append]
        exact queued.withEvents _
      refine ⟨_, stepOf_of_ok hpush, ⟨.up hqueued (noMember.write addr queued.notNull.symm) ?_
        hasTimer lockState thread currentState changed_eq result_eq, rfl⟩⟩
      rw [List.length_append]
      exact hroom
    · rw [if_neg hroom] at hpush ⊢
      exact ⟨s, stepOf_of_error hpush, hkept⟩

/-- A start starts the timer. -/
theorem Shows.start (laws : KeepsTimers P.toFakeTimers timer)
    (h : Shows P timer s ⟨.up queue, changed, result, outputs⟩) (option : ExecutionOption)
    (hw : HwLockCtrl) :
    Answered P timer s ⟨.up queue, changed, result, outputs⟩ (.call (.start option hw)) := by
  obtain ⟨hphase, rfl⟩ := h
  cases hphase with
  | @up addr _ queued noMember bounded hasTimer lockState thread currentState changed_eq
      result_eq =>
    obtain ⟨t, hstart⟩ := hasTimer.run_start laws (s.world.tickCount P)
    have hstarted := hasTimer.start laws.timerLaws hstart
    cases option with
    | EXECUTION_OPTION_NORMAL =>
      have hrun : EStateM.run (hlcsStart P .EXECUTION_OPTION_NORMAL hw) s =
          .ok () { s with world := { s.world with s_fakeTimers := some t } } := by
        simp [hlcsStart, currentState, thread, xTaskCreate, hstart]
      exact answered_of (stepOf_of_ok hrun) ⟨.up (queued.congr rfl rfl) noMember bounded hstarted
        lockState thread currentState changed_eq result_eq, rfl⟩
    | EXECUTION_OPTION_UNIT_TEST =>
      have hinit := run_hlcsSmInitialize_eq hw s
      have hrun : EStateM.run (hlcsStart P .EXECUTION_OPTION_UNIT_TEST hw) s = .ok () { s with
          world := { s.world with s_fakeTimers := some t }
          vars := { s.vars with
            s_currentState := some .HLCS_SmLocked
            s_lockState := .HLCS_LOCK_STATE_LOCKED }
          outputs := s.outputs ++ .HwLockCtrlInit ::
            (LockAction.enter .locked s.vars.s_stateChangedCallback).outputs } := by
        simp [hlcsStart, currentState, thread, hinit, hstart]
      have hlocked := Represents.of_start P queued hrun
      refine answered_of (stepOf_of_ok hrun) ⟨.running ⟨hlocked, (fun _ h => by cases h), bounded,
        changed_eq, result_eq, (List.append_nil _).symm, rfl, noMember⟩ hstarted, ?_⟩
      · rw [changed_eq]
        rfl

/-- Before the start, an event calls a null pointer. -/
theorem Shows.process_up (h : Shows P timer s ⟨.up queue, changed, result, outputs⟩)
    (option : ExecutionOption) (hw : HwLockCtrl) :
    Answered P timer s ⟨.up queue, changed, result, outputs⟩
      (.call (.processOneEvent option hw)) := by
  have hkept := h
  obtain ⟨hphase, rfl⟩ := h
  cases hphase with
  | @up addr _ queued noMember bounded hasTimer lockState thread currentState changed_eq
      result_eq =>
    have hoption := run_hlcsProcessOneEvent_option queued
      (by rw [List.length_map]; exact bounded) option hw
    cases queue with
    | nil =>
      exact answered_of (stepOf_of_ok (hoption.trans (run_hlcsProcessOneEvent_nil queued hw rfl)))
        hkept
    | cons e rest =>
      have hrun := run_hlcsProcessOneEvent_cons queued hw (eventSignal_ne_threadExit e)
        (by rw [List.length_map]; exact bounded)
      let s₁ := s.withEvents addr (rest.map fun e => (eventSignal e).bytes)
      have hnull : EStateM.run (hlcsSmProcess hw (some (eventSignal e))) s₁ =
          .error .undefined s₁ := by
        simp [hlcsSmProcess, callCurrentState, s₁, withEvents, currentState]
      rw [run_map, hnull] at hrun
      intro r s' hstep hd
      obtain ⟨rfl, -⟩ := (stepOf_of_error (hoption.trans hrun)).deterministic hstep
      exact absurd rfl hd.1

theorem Shows.up_call (laws : KeepsTimers P.toFakeTimers timer)
    (h : Shows P timer s ⟨.up queue, changed, result, outputs⟩) (c : HlcsCall) :
    Answered P timer s ⟨.up queue, changed, result, outputs⟩ (.call c) := by
  cases c with
  | start option hw => exact h.start laws option hw
  | processOneEvent option hw => exact h.process_up option hw
  | requestLocked =>
    obtain ⟨s', hstep, hs'⟩ := h.note (.goto .locked)
    exact answered_of hstep hs'
  | requestUnlocked =>
    obtain ⟨s', hstep, hs'⟩ := h.note (.goto .unlocked)
    exact answered_of hstep hs'
  | requestSelfTest =>
    obtain ⟨s', hstep, hs'⟩ := h.note .detour
    exact answered_of hstep hs'
  | checkCurrentTimer =>
    obtain ⟨s', hstep, hs'⟩ := h.note .other
    exact answered_of hstep hs'
  | registerChangeState callback =>
    obtain ⟨hphase, rfl⟩ := h
    cases hphase with
    | up queued noMember bounded hasTimer lockState thread currentState _ result_eq =>
      exact answered_of rfl ⟨.up (queued.congr rfl rfl) noMember bounded hasTimer lockState thread
        currentState rfl result_eq, rfl⟩
  | registerSelfTestResult callback =>
    obtain ⟨hphase, rfl⟩ := h
    cases hphase with
    | up queued noMember bounded hasTimer lockState thread currentState changed_eq =>
      exact answered_of rfl ⟨.up (queued.congr rfl rfl) noMember bounded hasTimer lockState thread
        currentState changed_eq rfl, rfl⟩
  | moveTimeForward duration =>
    obtain ⟨hphase, rfl⟩ := h
    cases hphase with
    | up queued noMember bounded hasTimer lockState thread currentState changed_eq result_eq =>
      obtain ⟨w, hmove, hlib, hmoved⟩ := hasTimer.run_move laws duration
      exact answered_of (stepOf_of_ok (run_onWorld_eq_ok.mpr ⟨w, hmove, rfl⟩))
        ⟨.up (queued.congr hlib rfl) (hlib ▸ noMember) bounded hmoved lockState thread currentState
          changed_eq result_eq, rfl⟩

end Up

/-! ### Running -/

section Running

variable {machine : DetourMachine LockPosition} {changed result : UInt64} {outputs : List Output}

/-- The service goes on as another controller. -/
theorem Shows.resume {addr : Handle} {k : LockController} (hmirrors : s'.Mirrors outputs addr k)
    (hasTimer : HasTimer P timer s') :
    Shows P timer s' (LockLife.resume ⟨.running machine, changed, result, outputs⟩ k) where
  phase := .running ⟨hmirrors.represents, hmirrors.homed, hmirrors.bounded,
    hmirrors.changed, hmirrors.result, (List.append_nil _).symm, hmirrors.s_fakeTimers,
    hmirrors.noMember⟩ hasTimer
  outputs := hmirrors.outputs

theorem HasTimer.keeps (h : HasTimer P timer s) (hkeeps : s.KeepsTimer s') :
    HasTimer P timer s' := by
  rw [HasTimer, World.HasTimer, hkeeps.s_fakeTimers, hkeeps.s_timer]
  exact h

/-- The running service is the controller. -/
theorem Shows.running_call (laws : KeepsTimers P.toFakeTimers timer)
    (h : Shows P timer s ⟨.running machine, changed, result, outputs⟩) (c : HlcsCall) :
    Answered P timer s ⟨.running machine, changed, result, outputs⟩ (.call c) := by
  obtain ⟨hphase, rfl⟩ := h
  cases hphase with
  | @running addr _ mirrors hasTimer =>
    obtain ⟨s', hstep, hs'⟩ := mirrors.answer (P := P) c
    have hkeeps : ∀ {α : Type} {f : α → Value} {x : HlcsApi T α} {r : Reply},
        Ensures KeepsTimer x → StepOf (f <$> x) s r s' → HasTimer P timer s' := fun hx hstep =>
      hasTimer.keeps (StepOf.of_ensures (.map _ hx) hstep)
    have hassign : ∀ f : HlcsVars → HlcsVars, (∀ v, (f v).s_timer = v.s_timer) →
        Ensures (KeepsTimer (T := T)) (hlcsAssign f) := fun f hf s => ⟨rfl, hf s.vars⟩
    refine answered_of hstep (.resume hs' ?_)
    cases c with
    | start option hw =>
      have hstate : ¬ s.vars.s_currentState = none := by simp [mirrors.represents.state]
      have hrun : EStateM.run (hlcsStart P option hw) s = .error .assertFailed s := by
        simp [hlcsStart, hstate]
      obtain ⟨-, rfl⟩ := (stepOf_of_error (f := fun _ => Value.unit) hrun).deterministic hstep
      exact hasTimer
    | processOneEvent option hw =>
      exact hkeeps (ensures_hlcsProcessOneEvent_keepsTimer option hw) hstep
    | registerChangeState callback =>
      exact hkeeps (hassign (fun v => { v with s_stateChangedCallback := callback }) fun _ => rfl)
        hstep
    | registerSelfTestResult callback =>
      exact hkeeps (hassign (fun v => { v with s_selfTestResultCallback := callback }) fun _ => rfl)
        hstep
    | moveTimeForward duration =>
      obtain ⟨w, hmove, -, hmoved⟩ := hasTimer.run_move laws duration
      obtain ⟨-, rfl⟩ := (stepOf_of_ok (f := fun _ => Value.unit)
        (run_onWorld_eq_ok.mpr ⟨w, hmove, rfl⟩)).deterministic hstep
      exact hmoved
    | requestLocked => exact hkeeps (ensures_hlcsPush_keepsTimer _ _) hstep
    | requestUnlocked => exact hkeeps (ensures_hlcsPush_keepsTimer _ _) hstep
    | requestSelfTest => exact hkeeps (ensures_hlcsPush_keepsTimer _ _) hstep
    | checkCurrentTimer => exact hkeeps (ensures_hlcsPush_keepsTimer _ _) hstep

end Running

/-! ### The teardown -/

theorem holds_of_queued {addr : Handle} {queue : List (DetourEvent LockPosition)}
    (h : s.Queued addr (queue.map fun e => (eventSignal e).bytes))
    (hlen : queue.length ≤ hlcsQueueDepth) : s.Holds addr := by
  refine ⟨queue.map eventSignal, by rwa [List.map_map], by rwa [List.length_map], fun hmem => ?_⟩
  obtain ⟨e, -, he⟩ := List.mem_map.mp hmem
  exact eventSignal_ne_threadExit e he

/-- A service with a queue and a timer is torn down if an event can be posted. -/
theorem answered_destroy (laws : KeepsTimers P.toFakeTimers timer) {addr : Handle}
    (hup : s.Up P (fun t h => (timer t h).isSome) addr) (hpending : s.pending = l.phase.pending)
    (hexiting : Shows P timer s.exiting l) : Answered P timer s l .destroy := by
  have houtputs : s.outputs = l.outputs := hexiting.outputs
  by_cases hroom : l.phase.pending < hlcsQueueDepth
  · have hanswer : l.answer .destroy = (.returned .unit, ⟨.bare false, 0, 0, l.outputs⟩) :=
      if_pos hroom
    obtain ⟨s', htorn⟩ := run_hlcsDestroy laws.timerLaws hup (hpending ▸ hroom)
    obtain ⟨t, ht, -⟩ := htorn.timer
    have hquiet := quiet_hlcsDestroy.of_run_eq_ok htorn.completes
    have hstep : StepOf (HlcsLifeCall.exec P .destroy) s (l.answer .destroy).1 s' := by
      rw [hanswer]
      exact stepOf_of_ok htorn.completes
    refine answered_of hstep ?_
    rw [hanswer]
    exact ⟨.bare (by rw [ht]; rfl) htorn.vars, hquiet.trans houtputs⟩
  · have hanswer : l.answer .destroy = (.left .assertFailed, l) := if_neg hroom
    have hstep : StepOf (HlcsLifeCall.exec P .destroy) s (l.answer .destroy).1 s.exiting := by
      rw [hanswer]
      exact stepOf_of_error (run_hlcsDestroy_full hup (hpending ▸ hroom))
    refine answered_of hstep ?_
    rw [hanswer]
    exact hexiting

/-- **A teardown is answered as the machine answers it.** -/
theorem Shows.destroy (laws : KeepsTimers P.toFakeTimers timer) (h : Shows P timer s l) :
    Answered P timer s l .destroy := by
  obtain ⟨phase, changed, result, outputs⟩ := l
  cases phase with
  | bare entered => exact h.destroy_bare
  | up queue =>
    obtain ⟨hphase, rfl⟩ := h
    cases hphase with
    | up queued noMember bounded hasTimer lockState thread currentState changed_eq result_eq =>
      refine answered_destroy laws ⟨holds_of_queued queued bounded, hasTimer⟩ ?_ ?_
      · rw [pending, queued.messagesAt, List.length_map]
        rfl
      · exact ⟨.up (queued.congr rfl rfl) noMember bounded hasTimer lockState thread currentState
          changed_eq result_eq, rfl⟩
  | running machine =>
    obtain ⟨hphase, rfl⟩ := h
    cases hphase with
    | running mirrors hasTimer =>
      have hqueued := mirrors.represents.queued
      refine answered_destroy laws ⟨holds_of_queued hqueued mirrors.bounded, hasTimer⟩ ?_ ?_
      · rw [pending, hqueued.messagesAt, List.length_map]
        rfl
      · obtain ⟨⟨queued, state, lockState, history, lock⟩, homed, bounded, changed_eq, result_eq,
          outputs_eq, timers, noMember⟩ := mirrors
        exact ⟨.running ⟨⟨queued.congr rfl rfl, state, lockState, history, lock⟩, homed, bounded,
          changed_eq, result_eq, outputs_eq, timers, noMember⟩ hasTimer, rfl⟩

/-- **Every call is answered as the machine answers it.** -/
theorem Shows.answers (laws : KeepsTimers P.toFakeTimers timer) (h : Shows P timer s l)
    (ha : c.Provided P s.world) : Answered P timer s l c := by
  cases c with
  | destroy => exact h.destroy laws
  | init addr callback =>
    obtain ⟨phase, changed, result, outputs⟩ := l
    cases phase with
    | bare entered => exact h.init laws ha
    | up queue =>
      refine h.init_refused (fun hvars => ?_) rfl
      cases h.phase with
      | up queued => exact queued.notNull (queued.handle.symm.trans (by rw [hvars]))
    | running machine =>
      refine h.init_refused (fun hvars => ?_) rfl
      cases h.phase with
      | running mirrors =>
        have hqueued := mirrors.represents.queued
        exact hqueued.notNull (hqueued.handle.symm.trans (by rw [hvars]))
  | call c =>
    obtain ⟨phase, changed, result, outputs⟩ := l
    cases phase with
    | bare entered => exact h.bare_call c
    | up queue => exact h.up_call laws c
    | running machine => exact h.running_call laws c

/-- The event queue is in the library. -/
theorem Shows.live (h : Shows P timer s l) (hn : s.vars.s_eventQueue ≠ nullptr) :
    (s.world.lib.lookup s.vars.s_eventQueue).isSome := by
  obtain ⟨phase, changed, result, outputs⟩ := l
  obtain ⟨hphase, -⟩ := h
  cases hphase with
  | bare timers vars => exact absurd (by rw [vars]) hn
  | up queued => rw [queued.handle, queued.lookup, Option.isSome_some]
  | running mirrors =>
    have hqueued := mirrors.represents.queued
    rw [hqueued.handle, hqueued.lookup, Option.isSome_some]

/-- What spares the event queue is not noticed. -/
theorem Shows.withLib (h : Shows P timer s l) {lib : Lib} (hlib : s.vars.s_eventQueue ≠ nullptr →
    Lib.Spares s.vars.s_eventQueue s.world.lib lib) :
    Shows P timer { s with world := { s.world with lib } } l := by
  obtain ⟨phase, changed, result, outputs⟩ := l
  obtain ⟨hphase, houtputs⟩ := h
  refine ⟨?_, houtputs⟩
  cases hphase with
  | bare timers vars => exact .bare timers vars
  | @up addr _ queued noMember bounded hasTimer lockState thread currentState changed_eq
      result_eq =>
    rw [queued.handle] at hlib
    obtain ⟨hno, hlookup⟩ := hlib queued.notNull noMember
    exact .up ⟨queued.handle, queued.notNull, hlookup.trans queued.lookup⟩ hno bounded hasTimer
      lockState thread currentState changed_eq result_eq
  | @running addr machine mirrors hasTimer =>
    have hqueued := mirrors.represents.queued
    rw [hqueued.handle] at hlib
    obtain ⟨hno, hlookup⟩ := hlib hqueued.notNull mirrors.noMember
    exact .running (mirrors.withLib hno hlookup) hasTimer

end LockLife

/-! ## A program with the service -/

/-- The program calls the service, which gets what it needs, or makes another call of the library,
which is not given the service's event queue. Nothing undefined happens. -/
inductive Hlcs.LifeStep : Hlcs T → HlcsLifeCall ⊕ Call → Reply → Hlcs T → Prop
  | service {s s' : Hlcs T} {c : HlcsLifeCall} {r : Reply} (h : StepOf (c.exec P) s r s')
      (hd : r.Defined) (ha : c.Provided P s.world) : LifeStep s (.inl c) r s'
  | others {s : Hlcs T} {c : Call} {r : Reply} {lib : Lib} (h : s.world.lib.Step c r lib)
      (hd : r.Defined) (hh : ∀ h ∈ c.handles, h = nullptr ∨ h ≠ s.vars.s_eventQueue) :
      LifeStep s (.inr c) r { s with world := { s.world with lib } }

variable {P timer}

open LockLife

/-- **The lock service is the machine, over its whole life.** However a program sets it up, starts
it, uses it and tears it down, with other calls of the library in between, the service answers as
the machine does, and it does to the lock, tells its callbacks and reports what the machine does. -/
theorem lockService_life (laws : KeepsTimers P.toFakeTimers timer) {s s' : Hlcs T}
    {tr : List ((HlcsLifeCall ⊕ Call) × Reply)} (hvars : s.vars = {})
    (htimers : s.world.s_fakeTimers.isSome) (hrun : Run (LifeStep P) s tr s') :
    ∃ l, Run LockLife.Step ⟨.bare false, 0, 0, s.outputs⟩ (project Sum.getLeft? tr) l ∧
      s'.outputs = l.outputs ∧
      EStateM.run hlcsGetState s' = .ok l.phase.lockState s' := by
  have hservice : ∀ s l (c : HlcsLifeCall ⊕ Call) c' r s', c.getLeft? = some c' →
      Shows P timer s l → LifeStep P s c r s' →
      ∃ l', LockLife.Step l c' r l' ∧ Shows P timer s' l' := by
    rintro s l c c' r s' hsee hs hstep
    cases hstep with
    | service hstep hd ha =>
      obtain rfl := Option.some.inj hsee
      obtain ⟨hanswer, hs'⟩ := hs.answers laws ha r s' hstep hd
      exact ⟨_, hanswer, hs'⟩
    | others => cases hsee
  have hothers : ∀ s l (c : HlcsLifeCall ⊕ Call) r s', c.getLeft? = none →
      Shows P timer s l → LifeStep P s c r s' → Shows P timer s' l := by
    rintro s l c r s' hsee hs hstep
    cases hstep with
    | service => cases hsee
    | others hstep hd hh =>
      refine hs.withLib fun hn hno => hstep.spares hd hn (fun hmem => ?_) hno
      exact (hh _ hmem).elim hn fun hne => hne rfl
  have hstart : Shows P timer s ⟨.bare false, 0, 0, s.outputs⟩ := ⟨.bare htimers hvars, rfl⟩
  obtain ⟨l, hl, hs'⟩ := hrun.unwind hservice hothers hstart
  exact ⟨l, hl, hs'.outputs, congrArg (EStateM.Result.ok · s') hs'.lockState_eq⟩

/-- In an empty library, the engine with a list provides what the service needs. -/
theorem provided_listed {w : World ListedTimers} {addr : Handle} {callback : UInt64} {n : ℕ}
    (hlib : w.lib = Lib.init) (hn : addr ≠ nullptr)
    (hcreated : w.s_fakeTimers.map ListedTimers.created = some n)
    (hne : handleToPointer Platform.listed (UInt64.ofNat (n + 1)) ≠ 0) :
    HlcsLifeCall.Provided Platform.listed w (.init addr callback) := by
  obtain ⟨t, ht, rfl⟩ := Option.map_eq_some_iff.mp hcreated
  refine ⟨?_, fun t' period ht' => ?_⟩
  · rw [hlib]
    exact ⟨Lib.legal_init.unused ⟨hn, rfl⟩, fun l hl => by cases hl⟩
  · obtain rfl := Option.some.inj (ht.symm.trans ht')
    exact hne

/-- The service is used before it is set up, works, and is torn down; then it is started without a
setup, torn down again, and set up with two requests that wait for the start. -/
def twoLives : List ((HlcsLifeCall ⊕ Call) × Reply) :=
  [(.inl (.call .requestLocked), .left .assertFailed),
    (.inl (.init 1 64), .returned .unit),
    (.inl (.call (.start .EXECUTION_OPTION_UNIT_TEST .working)), .returned .unit),
    (.inl (.call .requestUnlocked), .returned .unit),
    (.inl (.call (.processOneEvent .EXECUTION_OPTION_UNIT_TEST .working)), .returned (.bool true)),
    (.inl .destroy, .returned .unit),
    (.inl (.call (.start .EXECUTION_OPTION_UNIT_TEST .working)), .left .assertFailed),
    (.inl (.init 1 64), .left .assertFailed),
    (.inl .destroy, .returned .unit),
    (.inl (.init 1 64), .returned .unit),
    (.inr (.create 9 4 1 queueQUEUE_TYPE_BASE), .returned (.handle 9)),
    (.inl (.call (.registerChangeState 65)), .returned .unit),
    (.inl (.call .requestSelfTest), .returned .unit),
    (.inl (.call .requestUnlocked), .returned .unit),
    (.inl (.call (.start .EXECUTION_OPTION_UNIT_TEST .working)), .returned .unit),
    (.inl (.call (.processOneEvent .EXECUTION_OPTION_UNIT_TEST .working)), .returned (.bool true))]

theorem twoLives_run : ∃ s : Hlcs ListedTimers,
    Run (LifeStep Platform.listed) Hlcs.ready twoLives s :=
  ⟨_, .cons (.service (stepOf_of_reply (by decide +kernel)) (by decide) trivial)
    (.cons (.service (stepOf_of_reply (by decide +kernel)) (by decide)
      (provided_listed (n := 0) (by decide +kernel) (by decide) (by decide +kernel) (by decide)))
    (.cons (.service (stepOf_of_reply (by decide +kernel)) (by decide) trivial)
    (.cons (.service (stepOf_of_reply (by decide +kernel)) (by decide) trivial)
    (.cons (.service (stepOf_of_reply (by decide +kernel)) (by decide) trivial)
    (.cons (.service (stepOf_of_reply (by decide +kernel)) (by decide) trivial)
    (.cons (.service (stepOf_of_reply (by decide +kernel)) (by decide) trivial)
    (.cons (.service (stepOf_of_reply (by decide +kernel)) (by decide)
      (provided_listed (n := 1) (by decide +kernel) (by decide) (by decide +kernel) (by decide)))
    (.cons (.service (stepOf_of_reply (by decide +kernel)) (by decide) trivial)
    (.cons (.service (stepOf_of_reply (by decide +kernel)) (by decide)
      (provided_listed (n := 1) (by decide +kernel) (by decide) (by decide +kernel) (by decide)))
    (.cons (.others (Lib.step_of_outcome (by decide +kernel)) (by decide)
      (Tenancy.handles_of_all (by decide +kernel)))
    (.cons (.service (stepOf_of_reply (by decide +kernel)) (by decide) trivial)
    (.cons (.service (stepOf_of_reply (by decide +kernel)) (by decide) trivial)
    (.cons (.service (stepOf_of_reply (by decide +kernel)) (by decide) trivial)
    (.cons (.service (stepOf_of_reply (by decide +kernel)) (by decide) trivial)
    (.cons (.service (stepOf_of_reply (by decide +kernel)) (by decide) trivial)
    (.nil _))))))))))))))))⟩

theorem lockService_life_twoLives : ∃ s : Hlcs ListedTimers,
    Run (LifeStep Platform.listed) Hlcs.ready twoLives s ∧
    ∃ l, Run LockLife.Step ⟨.bare false, 0, 0, []⟩ (project Sum.getLeft? twoLives) l ∧
      s.outputs = l.outputs ∧ EStateM.run hlcsGetState s = .ok l.phase.lockState s := by
  obtain ⟨s, hrun⟩ := twoLives_run
  exact ⟨s, hrun, lockService_life ListedTimers.keepsTimers rfl rfl hrun⟩

end FakeFreeRtos
