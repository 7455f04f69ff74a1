import FakeFreeRtos.Foundations.Itinerary
import FakeFreeRtos.Foundations.Lockstep
import FakeFreeRtos.Lock.Teardown
import FakeFreeRtos.Queue.Frame

/-!
# The lock service as its clients see it

`LockController` says what the service is for: a machine with detours that commands the lock when
it enters a position, tests it on a detour, and reports both to the callbacks that are registered at
that time. It answers every call, also one that trips an assertion: a request that finds ten events
pending, and an event that measures a current that is too high.

The service is this controller (`lockService_refines`): in every run, whatever its clients, its
timer and its driver do, and whatever other tasks do with the library meanwhile, each call is
answered as the controller answers it, and the commands and the callbacks are those of the
controller, in order.
-/

namespace FakeFreeRtos

open Foundations Hlcs DetourMode

variable {T : Type}

/-! ## The controller -/

/-- What the service does that can be seen. The callbacks are those registered at that time. -/
inductive LockAction
  | enter (p : LockPosition) (callback : UInt64)
  | selfTest (left : LockPosition) (answer : Bool × HwLockCtrlSelfTestResult) (callback : UInt64)
  | readCurrent
  deriving DecidableEq

/-- The command that sends the lock to a position. -/
def LockPosition.command : LockPosition → Output
  | locked => .HwLockCtrlLock
  | unlocked => .HwLockCtrlUnlock

/-- What is reported of a self test that the driver answers so. -/
def selfTestVerdict (answer : Bool × HwLockCtrlSelfTestResult) : HlcsSelfTestResult :=
  if answer.1 = true ∧ answer.2 = .HW_LOCK_CTRL_SELF_TEST_PASSED then .HLCS_SELF_TEST_RESULT_PASS
  else .HLCS_SELF_TEST_RESULT_FAIL

/-- A callback that is called if one is registered. -/
def reported (callback : UInt64) (o : Output) : List Output := if callback ≠ 0 then [o] else []

def LockAction.outputs : LockAction → List Output
  | enter p callback =>
    p.command :: reported callback (.stateChangedCallback callback p.lockState)
  | selfTest _ answer callback =>
    .HwLockCtrlSelfTest :: reported callback (.selfTestResultCallback callback
      (selfTestVerdict answer))
  | readCurrent => [.HwLockCtrlReadCurrent]

/-- The machine, the registered callbacks, and what the service has done so far. -/
structure LockController where
  machine : DetourMachine LockPosition
  changed : UInt64
  result : UInt64
  actions : List LockAction

/-- An event measures a current that is too high. -/
def Overcurrent (hw : HwLockCtrl) : DetourMode LockPosition → DetourEvent LockPosition → Prop
  | here _, .other => ¬ hw.readCurrent < 2000
  | _, _ => False

instance (hw : HwLockCtrl) (mode : DetourMode LockPosition) (e : DetourEvent LockPosition) :
    Decidable (Overcurrent hw mode e) := by
  unfold Overcurrent
  split <;> infer_instance

namespace LockController

/-- What the first event makes the service do. -/
def acts (k : LockController) (hw : HwLockCtrl) :
    DetourMode LockPosition → DetourEvent LockPosition → List LockAction
  | here p, .goto q => if q = p then [] else [.enter q k.changed]
  | away _, .goto q => [.enter q k.changed]
  | here p, .detour => [.selfTest p hw.selfTest k.result]
  | here _, .other => [.readCurrent]
  | away _, _ => []

/-- An event is posted if there is room. -/
def post (k : LockController) (e : DetourEvent LockPosition) : Reply × LockController :=
  if k.machine.queue.length < hlcsQueueDepth then
    (.returned .unit, { k with machine := k.machine.post e })
  else (.left .assertFailed, k)

/-- The first event is handled, if there is one. A current that is too high trips an assertion once
it is measured. -/
def process (k : LockController) (hw : HwLockCtrl) : Reply × LockController :=
  match k.machine.queue with
  | [] => (.returned (.bool false), k)
  | e :: rest =>
    (if Overcurrent hw k.machine.mode e then .left .assertFailed else .returned (.bool true),
      { k with
        machine := DetourMachine.handle rest k.machine.mode e
        actions := k.actions ++ k.acts hw k.machine.mode e })

theorem process_nil {k : LockController} {hw : HwLockCtrl} (h : k.machine.queue = []) :
    k.process hw = (.returned (.bool false), k) := by
  simp only [process, h]

theorem process_cons {k : LockController} {hw : HwLockCtrl} {e : DetourEvent LockPosition}
    {rest : List (DetourEvent LockPosition)} (h : k.machine.queue = e :: rest) :
    k.process hw =
      (if Overcurrent hw k.machine.mode e then .left .assertFailed else .returned (.bool true),
        { k with
          machine := DetourMachine.handle rest k.machine.mode e
          actions := k.actions ++ k.acts hw k.machine.mode e }) := by
  simp only [process, h]

/-- How a service that has started answers a call. -/
def answer (k : LockController) : HlcsCall → Reply × LockController
  | .start .. => (.left .assertFailed, k)
  | .requestLocked => k.post (.goto .locked)
  | .requestUnlocked => k.post (.goto .unlocked)
  | .requestSelfTest => k.post .detour
  | .checkCurrentTimer => k.post .other
  | .processOneEvent _ hw => k.process hw
  | .registerChangeState callback => (.returned .unit, { k with changed := callback })
  | .registerSelfTestResult callback => (.returned .unit, { k with result := callback })
  | .moveTimeForward _ => (.returned .unit, k)

def Step (k : LockController) (c : HlcsCall) (r : Reply) (k' : LockController) : Prop :=
  k.answer c = (r, k')

/-- The service has just started, with the callbacks that are registered then. -/
def start (v : HlcsVars) : LockController :=
  ⟨⟨here .locked, []⟩, v.s_stateChangedCallback, v.s_selfTestResultCallback, []⟩

end LockController

/-! ## What a call of the service does -/

namespace Hlcs

/-- From `s` to `s'` the service has done `os`, and has left the callbacks, the timers and the set
memberships of the queues as they are. -/
structure Emits (s : Hlcs T) (os : List Output) (s' : Hlcs T) : Prop where
  outputs : s'.outputs = s.outputs ++ os
  changed : s'.vars.s_stateChangedCallback = s.vars.s_stateChangedCallback
  result : s'.vars.s_selfTestResultCallback = s.vars.s_selfTestResultCallback
  s_fakeTimers : s'.world.s_fakeTimers = s.world.s_fakeTimers
  noMember : ∀ h, h ≠ nullptr → s.world.lib.NoMember h → s'.world.lib.NoMember h

namespace Emits

variable {s s' s'' : Hlcs T} {os os' : List Output}

theorem trans (h : s.Emits os s') (h' : s'.Emits os' s'') : s.Emits (os ++ os') s'' where
  outputs := by rw [h'.outputs, h.outputs, List.append_assoc]
  changed := h'.changed.trans h.changed
  result := h'.result.trans h.result
  s_fakeTimers := h'.s_fakeTimers.trans h.s_fakeTimers
  noMember x hx hno := h'.noMember x hx (h.noMember x hx hno)

theorem refl (s : Hlcs T) : s.Emits [] s := ⟨(List.append_nil _).symm, rfl, rfl, rfl, fun _ _ => id⟩

theorem output (s : Hlcs T) (o : Output) : s.Emits [o] { s with outputs := s.outputs ++ [o] } :=
  ⟨rfl, rfl, rfl, rfl, fun _ _ => id⟩

/-- What is done once variables other than the callbacks are assigned. -/
theorem of_assign {v : HlcsVars} (h : ({ s with vars := v } : Hlcs T).Emits os s')
    (hchanged : v.s_stateChangedCallback = s.vars.s_stateChangedCallback)
    (hresult : v.s_selfTestResultCallback = s.vars.s_selfTestResultCallback) : s.Emits os s' :=
  ⟨h.outputs, h.changed.trans hchanged, h.result.trans hresult, h.s_fakeTimers, h.noMember⟩

/-- Messages are moved in the event queue, which is in no set. -/
theorem withEvents (s : Hlcs T) (addr : Handle) (l : List Bytes) :
    s.Emits [] (s.withEvents addr l) :=
  ⟨(List.append_nil _).symm, rfl, rfl, rfl, fun _ hx hno => hno.write addr hx.symm⟩

end Emits

section Emission

variable {hw : HwLockCtrl} {ev : Option Signal} {s s' s₁ : Hlcs T} {rtn v : Option StateFunc}
  {addr : Handle} {l : List Bytes}

theorem emits_hlcsNotifyChangedState (state : HlcsLockState) (s : Hlcs T) :
    ∃ s', EStateM.run (hlcsNotifyChangedState state) s = .ok () s' ∧
      s.Emits (reported s.vars.s_stateChangedCallback
        (.stateChangedCallback s.vars.s_stateChangedCallback state)) s' := by
  by_cases hcb : s.vars.s_stateChangedCallback = 0
  · refine ⟨{ s with vars := { s.vars with s_lockState := state } },
      by simp [hlcsNotifyChangedState, hcb], ?_⟩
    rw [reported, if_neg (not_not.mpr hcb)]
    exact (Emits.refl _).of_assign rfl rfl
  · refine ⟨{ s with
      vars := { s.vars with s_lockState := state }
      outputs := s.outputs ++ [.stateChangedCallback s.vars.s_stateChangedCallback state] },
      by simp [hlcsNotifyChangedState, hcb], ?_⟩
    rw [reported, if_pos hcb]
    exact ⟨rfl, rfl, rfl, rfl, fun _ _ => id⟩

theorem emits_hlcsNotifySelfTestResult (result : HlcsSelfTestResult) (s : Hlcs T) :
    ∃ s', EStateM.run (hlcsNotifySelfTestResult result) s = .ok () s' ∧
      s.Emits (reported s.vars.s_selfTestResultCallback
        (.selfTestResultCallback s.vars.s_selfTestResultCallback result)) s' ∧
      s'.world = s.world ∧ s'.vars = s.vars := by
  by_cases hcb : s.vars.s_selfTestResultCallback = 0
  · refine ⟨s, by simp [hlcsNotifySelfTestResult, hcb], ?_, rfl, rfl⟩
    rw [reported, if_neg (not_not.mpr hcb)]
    exact .refl s
  · refine ⟨{ s with outputs := s.outputs ++
      [.selfTestResultCallback s.vars.s_selfTestResultCallback result] },
      by simp [hlcsNotifySelfTestResult, hcb], ?_, rfl, rfl⟩
    rw [reported, if_pos hcb]
    exact .output s _

/-- Entering a position commands the lock there and reports it. -/
theorem emits_enter (p : LockPosition) (hs : s.vars.s_currentState = some p.stateFunc)
    (h : EStateM.run (callCurrentState hw (some .SM_ENTER)) s = .ok v s') :
    s.Emits (LockAction.enter p s.vars.s_stateChangedCallback).outputs s' := by
  rw [run_callCurrentState p hs] at h
  obtain ⟨s₁, hrun, hemits⟩ := emits_hlcsNotifyChangedState p.lockState
    { s with outputs := s.outputs ++ [p.command] }
  have henter : ∃ v, EStateM.run (p.handler hw (some .SM_ENTER)) s = .ok v s₁ := by
    cases p with
    | locked =>
      rw [LockPosition.lockState, LockPosition.command] at hrun
      exact ⟨_, by simp [LockPosition.handler, hlcsSmLocked, handled, hrun]; rfl⟩
    | unlocked =>
      rw [LockPosition.lockState, LockPosition.command] at hrun
      exact ⟨_, by simp [LockPosition.handler, hlcsSmUnlocked, handled, hrun]; rfl⟩
  obtain ⟨v', henter⟩ := henter
  obtain ⟨-, rfl⟩ := EStateM.Result.ok.inj (h.symm.trans henter)
  exact (Emits.output s p.command).trans hemits

theorem run_hlcsPerformSelfTest (hw : HwLockCtrl) (s : Hlcs T) :
    EStateM.run (hlcsPerformSelfTest hw) s = EStateM.run (do
      hlcsNotifySelfTestResult (selfTestVerdict hw.selfTest)
      let v ← hlcsVars
      if v.s_stateHistory = some .HLCS_SmUnlocked then hlcsPushUrgentEvent .SIG_REQUEST_UNLOCKED
      else hlcsPushUrgentEvent .SIG_REQUEST_LOCKED)
      { s with outputs := s.outputs ++ [.HwLockCtrlSelfTest] } := by
  rw [hlcsPerformSelfTest, EStateM.run_bind, run_hlcsOutput]
  by_cases hpass : hw.selfTest.1 = true ∧ hw.selfTest.2 = .HW_LOCK_CTRL_SELF_TEST_PASSED
  · simp only [selfTestVerdict, if_pos hpass]
  · simp only [selfTestVerdict, if_neg hpass]

/-- Entering the self test tests the lock and reports the verdict. -/
theorem emits_enter_selfTest (left : LockPosition) (hqueued : s.Queued addr l)
    (hs : s.vars.s_currentState = some .HLCS_SmSelfTest)
    (h : EStateM.run (callCurrentState hw (some .SM_ENTER)) s = .ok v s') :
    s.Emits (LockAction.selfTest left hw.selfTest s.vars.s_selfTestResultCallback).outputs s' := by
  obtain ⟨s₁, hnotify, hemits, hworld, hvars⟩ := emits_hlcsNotifySelfTestResult
    (selfTestVerdict hw.selfTest) { s with outputs := s.outputs ++ [.HwLockCtrlSelfTest] }
  have hqueued₁ : s₁.Queued addr l := hqueued.congr (by rw [hworld]) (by rw [hvars])
  have hpush : ∀ {sig : Signal} {u : Unit} {s₂ : Hlcs T},
      EStateM.run (hlcsPushUrgentEvent sig) s₁ = .ok u s₂ → s₁.Emits [] s₂ := by
    intro sig u s₂ hrun
    have hpush := run_hlcsPush hqueued₁ .front sig
    rw [copyPosition, ← hlcsPushUrgentEvent, hrun] at hpush
    split at hpush
    · cases hpush
      exact .withEvents s₁ addr _
    · cases hpush
  rw [run_callCurrentState_selfTest hs, hlcsSmSelfTest] at h
  obtain ⟨_, s₂, hperform, hhandled⟩ := run_bind_eq_ok.mp h
  cases hhandled
  rw [run_hlcsPerformSelfTest] at hperform
  obtain ⟨_, _, hnotify', hreturn⟩ := run_bind_eq_ok.mp hperform
  cases hnotify.symm.trans hnotify'
  obtain ⟨_, _, hvars', hreturn⟩ := run_bind_eq_ok.mp hreturn
  cases hvars'
  have hback : s₁.Emits [] s' := by
    split at hreturn
    · exact hpush hreturn
    · exact hpush hreturn
  have hall := ((Emits.output s .HwLockCtrlSelfTest).trans hemits).trans hback
  rwa [List.append_nil] at hall

/-- What is left of a transition once the old state is left. -/
theorem enter_of_hlcsSmProcess (h : EStateM.run (hlcsSmProcess hw ev) s = .ok () s')
    (hevent : EStateM.run (callCurrentState hw ev) s = .ok rtn s)
    (hne : rtn ≠ s.vars.s_currentState)
    (hexit : EStateM.run (callCurrentState hw (some .SM_EXIT)) s = .ok v s₁) :
    ∃ v', EStateM.run (callCurrentState hw (some .SM_ENTER))
      { s₁ with vars := { s₁.vars with s_currentState := rtn } } = .ok v' s' := by
  rw [hlcsSmProcess, EStateM.run_bind, hevent] at h
  simp only [EStateM.run_bind, run_hlcsVars, if_pos hne, hexit, run_hlcsAssign] at h
  cases henter : EStateM.run (callCurrentState hw (some .SM_ENTER))
      { s₁ with vars := { s₁.vars with s_currentState := rtn } } with
  | ok v' s₂ =>
    rw [henter] at h
    cases h
    exact ⟨v', rfl⟩
  | error e s₂ =>
    rw [henter] at h
    cases h

end Emission

/-! ## The service is the controller -/

/-- The service, with its event queue at `addr`, is the controller `k`, and has done `before` before
that. -/
structure Mirrors (s : Hlcs T) (before : List Output) (addr : Handle) (k : LockController) :
    Prop where
  represents : s.Represents addr k.machine
  homed : k.machine.Homed
  bounded : k.machine.queue.length ≤ hlcsQueueDepth
  changed : s.vars.s_stateChangedCallback = k.changed
  result : s.vars.s_selfTestResultCallback = k.result
  outputs : s.outputs = before ++ k.actions.flatMap LockAction.outputs
  s_fakeTimers : s.world.s_fakeTimers.isSome
  noMember : s.world.lib.NoMember addr

/-- Only the teardown asks the thread to exit. -/
theorem eventSignal_ne_threadExit (e : DetourEvent LockPosition) :
    eventSignal e ≠ .SIG_REQUEST_THREAD_EXIT := by
  cases e with
  | goto p => cases p <;> decide
  | detour => decide
  | other => decide

section Events

variable {s : Hlcs T} {addr : Handle} {k : LockController} {mode : DetourMode LockPosition}
  {e : DetourEvent LockPosition} {rest : List (DetourEvent LockPosition)} {hw : HwLockCtrl}

/-- **An event is handled as the controller handles it.** -/
theorem Represents.acts (h : s.Represents addr ⟨mode, rest⟩)
    (hhomed : (⟨mode, e :: rest⟩ : DetourMachine LockPosition).Homed)
    (hroom : rest.length < hlcsQueueDepth) (hover : ¬ Overcurrent hw mode e)
    (hchanged : s.vars.s_stateChangedCallback = k.changed)
    (hresult : s.vars.s_selfTestResultCallback = k.result) :
    ∃ s', EStateM.run (hlcsSmProcess hw (some (eventSignal e))) s = .ok () s' ∧
      s'.Represents addr (DetourMachine.handle rest mode e) ∧
      s.Emits ((k.acts hw mode e).flatMap LockAction.outputs) s' := by
  cases mode with
  | here p =>
    have hexit := (run_callCurrentState p h.state).trans (run_handler_exit p hw s)
    cases e with
    | goto q =>
      have hevent := (run_callCurrentState p h.state).trans (run_handler_goto p q hw h.state)
      by_cases hq : q = p
      · subst hq
        refine ⟨s, run_hlcsSmProcess_handled (hevent.trans (by rw [h.state]; rfl)), h, ?_⟩
        rw [LockController.acts, if_pos rfl]
        exact .refl s
      · have hne : s.vars.s_currentState ≠ some q.stateFunc := by
          rw [h.state]
          exact fun heq => hq (LockPosition.stateFunc_injective (Option.some.inj heq)).symm
        obtain ⟨s', hrun, hs'⟩ := Represents.goesTo q hevent hne hexit
          (h.queued.congr rfl rfl)
        obtain ⟨_, henter⟩ := enter_of_hlcsSmProcess hrun hevent hne.symm hexit
        have hemits := emits_enter q rfl henter
        refine ⟨s', hrun, hs', ?_⟩
        rw [LockController.acts, if_neg hq, List.flatMap_singleton, ← hchanged]
        exact Emits.of_assign (s := s) hemits rfl rfl
    | detour =>
      obtain ⟨s', hrun, hs'⟩ := h.detours hw hroom
      have hevent := (run_callCurrentState p h.state).trans (run_handler_detour p hw s)
      have hne : some .HLCS_SmSelfTest ≠ s.vars.s_currentState := by
        rw [h.state]
        exact fun heq => LockPosition.stateFunc_ne_selfTest p (Option.some.inj heq).symm
      obtain ⟨_, henter⟩ := enter_of_hlcsSmProcess hrun hevent hne hexit
      have hemits := emits_enter_selfTest p (s := { s with vars := { s.vars with
        s_stateHistory := some p.stateFunc
        s_currentState := some .HLCS_SmSelfTest } }) (h.queued.congr rfl rfl) rfl henter
      refine ⟨s', hrun, hs', ?_⟩
      rw [LockController.acts, List.flatMap_singleton, ← hresult]
      exact Emits.of_assign (s := s) hemits rfl rfl
    | other =>
      have hcurrent : hw.readCurrent < 2000 := not_not.mp hover
      have hevent := (run_callCurrentState p h.state).trans (run_handler_other p hcurrent s)
      obtain ⟨s', hrun, hs'⟩ := h.handle .other hcurrent hroom
      have hhandled : EStateM.run (hlcsSmProcess hw (some (eventSignal .other))) s =
          .ok () { s with outputs := s.outputs ++ [.HwLockCtrlReadCurrent] } :=
        run_hlcsSmProcess_handled hevent
      obtain ⟨-, rfl⟩ := EStateM.Result.ok.inj (hrun.symm.trans hhandled)
      exact ⟨_, hrun, hs', .output s _⟩
  | away p =>
    -- the first event is the way back
    obtain ⟨rest', hback⟩ := hhomed p rfl
    obtain ⟨rfl, rfl⟩ := List.cons_eq_cons.mp hback
    have hevent := (run_callCurrentState_selfTest h.state).trans (run_selfTest_goto p hw s)
    have hexit := (run_callCurrentState_selfTest h.state).trans (run_selfTest_exit hw s)
    have hne : s.vars.s_currentState ≠ some p.stateFunc := by
      rw [h.state]
      exact fun heq => LockPosition.stateFunc_ne_selfTest p (Option.some.inj heq).symm
    obtain ⟨s', hrun, hs'⟩ := Represents.goesTo p hevent hne hexit h.queued
    obtain ⟨_, henter⟩ := enter_of_hlcsSmProcess hrun hevent hne.symm hexit
    have hemits := emits_enter p rfl henter
    refine ⟨s', hrun, hs', ?_⟩
    rw [LockController.acts, List.flatMap_singleton, ← hchanged]
    exact Emits.of_assign (s := s) hemits rfl rfl

/-- A current that is too high trips an assertion; the event is gone, and nothing else. -/
theorem Represents.trips (h : s.Represents addr ⟨mode, rest⟩) (hover : Overcurrent hw mode e) :
    ∃ s', EStateM.run (hlcsSmProcess hw (some (eventSignal e))) s = .error .assertFailed s' ∧
      s'.Represents addr (DetourMachine.handle rest mode e) ∧
      s.Emits ((k.acts hw mode e).flatMap LockAction.outputs) s' := by
  cases mode with
  | away p => cases e <;> exact absurd hover id
  | here p =>
    cases e with
    | goto q => exact absurd hover id
    | detour => exact absurd hover id
    | other =>
      have hhigh : ¬ hw.readCurrent < 2000 := hover
      have hevent : EStateM.run (callCurrentState hw (some .SIG_REQUEST_CURRENT_CHECK)) s =
          .error .assertFailed { s with outputs := s.outputs ++ [.HwLockCtrlReadCurrent] } := by
        rw [run_callCurrentState p h.state]
        cases p <;> simp [LockPosition.handler, hlcsSmLocked, hlcsSmUnlocked, hlcsDoCurrentCheck,
          hhigh]
      refine ⟨{ s with outputs := s.outputs ++ [.HwLockCtrlReadCurrent] }, ?_,
        ⟨h.queued.congr rfl rfl, h.state, h.lockState, h.history, ?_⟩, .output s _⟩
      · rw [eventSignal, hlcsSmProcess, EStateM.run_bind, hevent]
      · exact (physicalLock_append ..).trans h.lock

/-- The fake never waits: whether a call of `HLCS_ProcessOneEvent` may wait makes no difference. -/
theorem run_hlcsProcessOneEvent_option {l : List Bytes} (hs : s.Queued addr l)
    (hl : l.length ≤ hlcsQueueDepth) (option : ExecutionOption) (hw : HwLockCtrl) :
    EStateM.run (hlcsProcessOneEvent option hw) s =
      EStateM.run (hlcsProcessOneEvent .EXECUTION_OPTION_UNIT_TEST hw) s := by
  cases option with
  | EXECUTION_OPTION_UNIT_TEST => rfl
  | EXECUTION_OPTION_NORMAL =>
    have hcount : EStateM.run (uxQueueMessagesWaiting addr) s.world.lib =
        .ok (UInt8.ofNat l.length) s.world.lib := run_uxQueueMessagesWaiting hs.notNull hs.lookup
    cases l with
    | nil =>
      have hreceive := run_xQueueReceive_nil hs.notNull hs.lookup rfl
        (List.replicate sizeofHlcsEvent 0)
      rw [run_hlcsProcessOneEvent_nil hs hw rfl, hlcsProcessOneEvent, EStateM.run_bind,
        run_hlcsVars]
      simp [hs.handle, run_onWorld_of_ok hreceive, pdFALSE]
    | cons bytes rest =>
      have hsome : ¬ 0 = UInt8.ofNat (bytes :: rest).length := by
        rw [← UInt8.toNat_inj, UInt8.toNat_ofNat', UInt8.toNat_zero]
        rw [hlcsQueueDepth, List.length_cons] at hl
        rw [List.length_cons]
        omega
      rw [hlcsProcessOneEvent, hlcsProcessOneEvent, EStateM.run_bind, EStateM.run_bind,
        run_hlcsVars]
      simp only [reduceCtorEq, if_false, if_true, EStateM.run_bind, EStateM.run_pure, run_map,
        hs.handle, run_onWorld_of_ok hcount, decide_eq_false hsome]

end Events

namespace Mirrors

variable {P : Platform T} {s s' : Hlcs T} {before : List Output} {addr : Handle}
  {k : LockController}

/-- The service goes on to another machine, and does `actions`. -/
theorem goOn (h : s.Mirrors before addr k) {m : DetourMachine LockPosition}
    {actions : List LockAction} (hs' : s'.Represents addr m) (hm : m.Homed)
    (hlen : m.queue.length ≤ hlcsQueueDepth)
    (hemits : s.Emits (actions.flatMap LockAction.outputs) s') :
    s'.Mirrors before addr { k with machine := m, actions := k.actions ++ actions } where
  represents := hs'
  homed := hm
  bounded := hlen
  changed := hemits.changed.trans h.changed
  result := hemits.result.trans h.result
  outputs := by rw [hemits.outputs, h.outputs, List.flatMap_append, List.append_assoc]
  s_fakeTimers := hemits.s_fakeTimers ▸ h.s_fakeTimers
  noMember := hemits.noMember addr h.represents.queued.notNull h.noMember

/-- A client or the timer posts an event. -/
theorem post (h : s.Mirrors before addr k) (e : DetourEvent LockPosition) :
    ∃ s', StepOf ((fun _ => .unit) <$> hlcsPushEvent (eventSignal e)) s (k.post e).1 s' ∧
      s'.Mirrors before addr (k.post e).2 := by
  have hpush : EStateM.run (hlcsPushEvent (eventSignal e)) s = _ :=
    run_hlcsPush h.represents.queued .back (eventSignal e)
  rw [List.length_map] at hpush
  rw [LockController.post]
  by_cases hroom : k.machine.queue.length < hlcsQueueDepth
  · obtain ⟨s', hrun, hs'⟩ := h.represents.push e hroom
    rw [if_pos hroom, hrun] at hpush
    obtain ⟨-, rfl⟩ := EStateM.Result.ok.inj hpush
    rw [if_pos hroom]
    have hlen : (k.machine.post e).queue.length ≤ hlcsQueueDepth := by
      rw [DetourMachine.post, List.length_append]
      exact hroom
    have hon := h.goOn hs' (h.homed.post e) hlen
      (show s.Emits (List.flatMap LockAction.outputs []) _ from .withEvents s addr _)
    rw [List.append_nil] at hon
    exact ⟨_, stepOf_of_ok hrun, hon⟩
  · rw [if_neg hroom]
    exact ⟨s, stepOf_of_error (h.represents.push_full e hroom), h⟩

/-- An event is processed. -/
theorem process (h : s.Mirrors before addr k) (option : ExecutionOption) (hw : HwLockCtrl) :
    ∃ s', StepOf (.bool <$> hlcsProcessOneEvent option hw) s (k.process hw).1 s' ∧
      s'.Mirrors before addr (k.process hw).2 := by
  have hoption := run_hlcsProcessOneEvent_option h.represents.queued
    (by rw [List.length_map]; exact h.bounded) option hw
  cases hqueue : k.machine.queue with
  | nil =>
    rw [LockController.process_nil hqueue]
    refine ⟨s, stepOf_of_ok (hoption.trans ?_), h⟩
    exact run_hlcsProcessOneEvent_nil h.represents.queued hw (by rw [hqueue, List.map_nil])
  | cons e rest =>
    have hbounded := h.bounded
    rw [hqueue, List.length_cons] at hbounded
    have hqueued := h.represents.queued
    rw [hqueue, List.map_cons] at hqueued
    have hrun := run_hlcsProcessOneEvent_cons hqueued hw (eventSignal_ne_threadExit e)
      (by rwa [List.length_map])
    have htaken : (s.withEvents addr (rest.map fun e => (eventSignal e).bytes)).Represents addr
        ⟨k.machine.mode, rest⟩ :=
      ⟨hqueued.withEvents _, h.represents.state, h.represents.lockState, h.represents.history,
        h.represents.lock⟩
    have hstep : k.machine.step? = some (DetourMachine.handle rest k.machine.mode e) :=
      DetourMachine.step?_eq_some_iff.mpr ⟨e, rest, hqueue, rfl⟩
    have hhomed : (⟨k.machine.mode, e :: rest⟩ : DetourMachine LockPosition).Homed := by
      rw [← hqueue]
      exact h.homed
    have hon : ∀ {s'}, s'.Represents addr (DetourMachine.handle rest k.machine.mode e) →
        (s.withEvents addr (rest.map fun e => (eventSignal e).bytes)).Emits
          ((k.acts hw k.machine.mode e).flatMap LockAction.outputs) s' →
        s'.Mirrors before addr { k with
          machine := DetourMachine.handle rest k.machine.mode e
          actions := k.actions ++ k.acts hw k.machine.mode e } := fun hs' hemits =>
      h.goOn hs' (h.homed.step hstep) ((DetourMachine.length_step hstep).trans h.bounded)
        ((Emits.withEvents s addr _).trans hemits)
    rw [LockController.process_cons hqueue]
    by_cases hover : Overcurrent hw k.machine.mode e
    · obtain ⟨s', htrip, hs', hemits⟩ := htaken.trips hover
      refine ⟨s', ?_, hon hs' hemits⟩
      rw [if_pos hover]
      refine stepOf_of_error ((hoption.trans hrun).trans ?_)
      rw [run_map, htrip]
    · obtain ⟨s', hact, hs', hemits⟩ := htaken.acts hhomed hbounded hover h.changed h.result
      refine ⟨s', ?_, hon hs' hemits⟩
      rw [if_neg hover]
      refine stepOf_of_ok ((hoption.trans hrun).trans ?_)
      rw [run_map, hact]

/-- **Every call is answered as the controller answers it.** -/
theorem answer (h : s.Mirrors before addr k) (c : HlcsCall) :
    ∃ s', s.Step P c (k.answer c).1 s' ∧ s'.Mirrors before addr (k.answer c).2 := by
  cases c with
  | start option hw =>
    refine ⟨s, stepOf_of_error ?_, h⟩
    have hstate : ¬ s.vars.s_currentState = none := by simp [h.represents.state]
    rw [hlcsStart, EStateM.run_bind, run_hlcsVars]
    simp only [EStateM.run_bind, run_configASSERT_of_not hstate]
  | requestLocked => exact h.post (.goto .locked)
  | requestUnlocked => exact h.post (.goto .unlocked)
  | requestSelfTest => exact h.post .detour
  | checkCurrentTimer => exact h.post .other
  | processOneEvent option hw => exact h.process option hw
  | registerChangeState callback =>
    refine ⟨_, stepOf_of_ok (run_hlcsAssign ..), ?_⟩
    exact ⟨h.represents.register callback _, h.homed, h.bounded, rfl, h.result, h.outputs,
      h.s_fakeTimers, h.noMember⟩
  | registerSelfTestResult callback =>
    refine ⟨_, stepOf_of_ok (run_hlcsAssign ..), ?_⟩
    exact ⟨h.represents.register _ callback, h.homed, h.bounded, h.changed, rfl, h.outputs,
      h.s_fakeTimers, h.noMember⟩
  | moveTimeForward duration =>
    obtain ⟨t, ht⟩ := Option.isSome_iff_exists.mp h.s_fakeTimers
    have hmove : EStateM.run (FakeFreeRtos.moveTimeForward P duration) s.world =
        .ok () { s.world with s_fakeTimers := some (P.moveTimeForward t duration) } := by
      simp [FakeFreeRtos.moveTimeForward, assertTimers, theTimers, updateTimers, ht]
    refine ⟨_, stepOf_of_ok (run_onWorld_eq_ok.mpr ⟨_, hmove, rfl⟩), ?_⟩
    exact ⟨⟨h.represents.queued.congr rfl rfl, h.represents.state, h.represents.lockState,
      h.represents.history, h.represents.lock⟩, h.homed, h.bounded, h.changed, h.result, h.outputs,
      rfl, h.noMember⟩

end Mirrors

end Hlcs

/-! ## Runs -/

/-- A call of the service, or a call that another task makes to the library. -/
inductive LockCall
  | service (c : HlcsCall)
  | other (c : Call)

def LockCall.service? : LockCall → Option HlcsCall
  | service c => some c
  | other _ => none

/-- The calls of the service in a run, with their answers. -/
def serviceCalls (tr : List (LockCall × Reply)) : List (HlcsCall × Reply) :=
  project LockCall.service? tr

variable (P : Platform T)

/-- One step of a program with the service. The calls of other tasks are not given the event queue
of the service. -/
inductive Hlcs.ProgramStep : Hlcs T → LockCall → Reply → Hlcs T → Prop
  | service {s s' : Hlcs T} {c : HlcsCall} {r : Reply} (h : s.Step P c r s') :
    ProgramStep s (.service c) r s'
  | other {s : Hlcs T} {c : Call} {r : Reply} {lib : Lib} (h : s.world.lib.Step c r lib)
      (hd : r.Defined) (hh : s.vars.s_eventQueue ∉ c.handles) :
    ProgramStep s (.other c) r { s with world := { s.world with lib } }

namespace Hlcs

variable {P} {s s' : Hlcs T} {before : List Output} {addr : Handle} {k : LockController}

theorem Mirrors.step (h : s.Mirrors before addr k) {c : HlcsCall} {r : Reply}
    (hstep : s.Step P c r s') : ∃ k', k.Step c r k' ∧ s'.Mirrors before addr k' := by
  obtain ⟨s₁, hs₁, hm⟩ := h.answer (P := P) c
  obtain ⟨rfl, rfl⟩ := hs₁.deterministic hstep
  exact ⟨_, rfl, hm⟩

/-- Another memory with the same event queue. -/
theorem Mirrors.withLib (h : s.Mirrors before addr k) {lib : Lib} (hno : lib.NoMember addr)
    (hlookup : lib.lookup addr = s.world.lib.lookup addr) :
    ({ s with world := { s.world with lib } } : Hlcs T).Mirrors before addr k :=
  ⟨⟨⟨h.represents.queued.handle, h.represents.queued.notNull,
    hlookup.trans h.represents.queued.lookup⟩, h.represents.state, h.represents.lockState,
    h.represents.history, h.represents.lock⟩, h.homed, h.bounded, h.changed, h.result, h.outputs,
    h.s_fakeTimers, hno⟩

/-- The rest of the program does not reach the service. -/
theorem Mirrors.spared (h : s.Mirrors before addr k) {c : Call} {r : Reply} {lib : Lib}
    (hstep : s.world.lib.Step c r lib) (hd : r.Defined) (hh : s.vars.s_eventQueue ∉ c.handles) :
    ({ s with world := { s.world with lib } } : Hlcs T).Mirrors before addr k := by
  rw [h.represents.queued.handle] at hh
  obtain ⟨hno, hlookup⟩ := hstep.spares hd h.represents.queued.notNull hh h.noMember
  exact h.withLib hno hlookup

/-- A run of the program is a run of the controller. -/
theorem Mirrors.run {tr : List (LockCall × Reply)} (h : s.Mirrors before addr k)
    (hrun : Run (ProgramStep P) s tr s') :
    ∃ k', Run LockController.Step k (serviceCalls tr) k' ∧ s'.Mirrors before addr k' := by
  refine hrun.unwind (R := fun s k => s.Mirrors before addr k) ?_ ?_ h
  · rintro s k c c' r s' hc hs (hstep | ⟨hstep, hd, hh⟩)
    · cases hc
      exact hs.step hstep
    · cases hc
  · rintro s k c r s' hc hs (hstep | ⟨hstep, hd, hh⟩)
    · cases hc
    · exact hs.spared hstep hd hh

/-- A command that returns has found the timers set up. -/
theorem isSome_of_timerCommand_start {w w' : World T} {timer : TimerHandle} {tickCount : TickType}
    {r : BaseType} (h : EStateM.run (xTimerGenericCommandFromTask P timer tmrCOMMAND_START
      tickCount) w = .ok r w') : w'.s_fakeTimers.isSome := by
  have hasserts := h
  rw [xTimerGenericCommandFromTask] at hasserts
  obtain ⟨_, w₁, htimers, hasserts⟩ := run_bind_eq_ok.mp hasserts
  obtain ⟨_, w₂, htimer, -⟩ := run_bind_eq_ok.mp hasserts
  obtain ⟨hsome, rfl⟩ := run_configASSERT_eq_ok.mp htimers
  obtain ⟨hne, rfl⟩ := run_configASSERT_eq_ok.mp htimer
  obtain ⟨t, ht⟩ := Option.isSome_iff_exists.mp hsome
  rw [run_timerCommand_start ht hne, run_map_eq_ok] at h
  obtain ⟨_, h, -⟩ := h
  rw [run_checkedOperation ht] at h
  split at h
  · cases h
    rfl
  · cases h

/-- A service that has started is the controller. -/
theorem Mirrors.of_start {hw : HwLockCtrl} (hqueued : s.Queued addr [])
    (h : EStateM.run (hlcsStart P .EXECUTION_OPTION_UNIT_TEST hw) s = .ok () s')
    (hno : s'.world.lib.NoMember s'.vars.s_eventQueue) :
    s'.Mirrors s'.outputs addr (.start s'.vars) := by
  have hs' : s'.Represents addr ⟨here .locked, []⟩ := .of_start P hqueued h
  obtain ⟨-, -, s₁, tickCount, w₁, w₂, -, -, hstart, rfl⟩ := (run_hlcsStart_eq_ok P).mp h
  rw [hs'.queued.handle] at hno
  exact ⟨hs', nofun, Nat.zero_le _, rfl, rfl, (List.append_nil _).symm,
    isSome_of_timerCommand_start hstart, hno⟩

variable (P)

/-- Before the start, nothing is posted. -/
theorem Started.mirrors (h : s.Started P) (hno : s.world.lib.NoMember s.vars.s_eventQueue) :
    ∃ addr, s.Mirrors s.outputs addr (.start s.vars) := by
  obtain ⟨s₀, s₁, s₂, addr, callback, tr, hw, hinit, hrun, hstart⟩ := h
  obtain ⟨-, hfresh, timer, w, -, hcreate, rfl⟩ := (run_hlcsInit_eq_ok P).mp hinit
  have hkeeps := (ensures_xTimerCreate P _ _ _ _ _).of_run_eq_ok hcreate
  have hqueued₁ : Queued ⟨w, { s_eventQueue := addr, s_timer := timer }, s₀.outputs⟩ addr [] :=
    ⟨rfl, hfresh.1, by rw [hkeeps.lib]; exact Lib.lookup_write_self ..⟩
  have hqueued : s₂.Queued addr [] := by
    refine hrun.invariant (I := fun s => s.Queued addr []) ?_ hqueued₁
    rintro s c r s' hs ⟨hstep, callback, rfl | rfl⟩
    · obtain ⟨-, rfl⟩ := (stepOf_of_ok (f := fun _ => Value.unit) (run_hlcsAssign ..)).deterministic
        hstep
      exact hs.congr rfl rfl
    · obtain ⟨-, rfl⟩ := (stepOf_of_ok (f := fun _ => Value.unit) (run_hlcsAssign ..)).deterministic
        hstep
      exact hs.congr rfl rfl
  obtain ⟨⟨⟩, hok, -⟩ := hstart.returned
  exact ⟨addr, .of_start hqueued hok hno⟩

end Hlcs

/-- **The lock service is the controller**: whatever is called, in any order, each call is answered
as the controller answers it, the commands and callbacks are those of the controller, and so are the
reported state and the number of pending events. -/
theorem lockService_refines {s₀ s : Hlcs T} {tr : List (LockCall × Reply)} (h₀ : s₀.Started P)
    (hno : s₀.world.lib.NoMember s₀.vars.s_eventQueue) (hrun : Run (ProgramStep P) s₀ tr s) :
    ∃ k, Run LockController.Step (.start s₀.vars) (serviceCalls tr) k ∧
      s.outputs = s₀.outputs ++ k.actions.flatMap LockAction.outputs ∧
      EStateM.run hlcsGetState s = .ok k.machine.mode.place.lockState s ∧
      s.pending = k.machine.queue.length := by
  obtain ⟨addr, hm₀⟩ := h₀.mirrors P hno
  obtain ⟨k, hk, hm⟩ := hm₀.run hrun
  refine ⟨k, hk, hm.outputs, ?_, hm.represents.pending_eq⟩
  exact congrArg (EStateM.Result.ok · s) hm.represents.lockState

/-- The driver of a motor that draws too much current and fails its self test. -/
def HwLockCtrl.broken : HwLockCtrl := ⟨2000, true, .HW_LOCK_CTRL_SELF_TEST_FAILED_MOTOR⟩

/-- The service that was set up and started with both callbacks registered. -/
def Hlcs.readyReporting : Hlcs ListedTimers :=
  (replyOf (EStateM.run ((HlcsCall.start .EXECUTION_OPTION_UNIT_TEST .working).exec Platform.listed)
    (finalState (EStateM.run (do
      hlcsInit Platform.listed 1 64
      hlcsRegisterChangeStateCallback 65
      hlcsRegisterSelfTestResultCallback 66) Hlcs.ready)))).2

theorem Hlcs.readyReporting_started : Hlcs.readyReporting.Started Platform.listed :=
  ⟨Hlcs.ready, finalState (EStateM.run (hlcsInit Platform.listed 1 64) Hlcs.ready),
    _, 1, 64, [(.registerChangeState 65, .returned .unit),
      (.registerSelfTestResult 66, .returned .unit)], .working, by decide +kernel,
    .cons ⟨stepOf_of_reply rfl, 65, .inl rfl⟩ (.cons ⟨stepOf_of_reply rfl, 66, .inr rfl⟩ (.nil _)),
    stepOf_of_reply (by decide +kernel)⟩

theorem Hlcs.readyReporting_noMember :
    Hlcs.readyReporting.world.lib.NoMember Hlcs.readyReporting.vars.s_eventQueue := by
  have hlib : Hlcs.readyReporting.world.lib = Lib.init.write 1 (hlcsEventQueue []) := by
    decide +kernel
  have hqueue : Hlcs.readyReporting.vars.s_eventQueue = 1 := by decide +kernel
  rw [hlib, hqueue]
  exact Lib.NoMember.write (fun _ _ h => by cases h) 1 (by decide)

/-- The motor breaks while the lock is unlocked: its current trips an assertion, and the self test
that was asked for before fails. Another task has created a queue meanwhile. -/
def brokenMotor : List (LockCall × Reply) :=
  [(.service .requestUnlocked, .returned .unit), (.service .checkCurrentTimer, .returned .unit),
    (.other (.create 9 4 4 queueQUEUE_TYPE_BASE), .returned (.handle 9)),
    (.service .requestSelfTest, .returned .unit),
    (.service (.processOneEvent .EXECUTION_OPTION_UNIT_TEST .working), .returned (.bool true)),
    (.service (.processOneEvent .EXECUTION_OPTION_UNIT_TEST .broken), .left .assertFailed),
    (.service (.processOneEvent .EXECUTION_OPTION_NORMAL .broken), .returned (.bool true)),
    (.service (.processOneEvent .EXECUTION_OPTION_NORMAL .broken), .returned (.bool true))]

theorem brokenMotor_run :
    ∃ s, Run (ProgramStep Platform.listed) Hlcs.readyReporting brokenMotor s :=
  ⟨_, .cons (.service (stepOf_of_reply (by decide +kernel)))
    (.cons (.service (stepOf_of_reply (by decide +kernel)))
    (.cons (.other (Lib.step_of_outcome (by decide +kernel)) (by decide) (by decide +kernel))
    (.cons (.service (stepOf_of_reply (by decide +kernel)))
    (.cons (.service (stepOf_of_reply (by decide +kernel)))
    (.cons (.service (stepOf_of_reply (by decide +kernel)))
    (.cons (.service (stepOf_of_reply (by decide +kernel)))
    (.cons (.service (stepOf_of_reply (by decide +kernel))) (.nil _))))))))⟩

theorem lockService_refines_brokenMotor : ∃ s,
    Run (ProgramStep Platform.listed) Hlcs.readyReporting brokenMotor s ∧
    ∃ k, Run LockController.Step (.start Hlcs.readyReporting.vars) (serviceCalls brokenMotor) k ∧
      s.outputs = Hlcs.readyReporting.outputs ++ k.actions.flatMap LockAction.outputs ∧
      EStateM.run hlcsGetState s = .ok k.machine.mode.place.lockState s ∧
      s.pending = k.machine.queue.length := by
  obtain ⟨s, hrun⟩ := brokenMotor_run
  exact ⟨s, hrun, lockService_refines _ Hlcs.readyReporting_started Hlcs.readyReporting_noMember
    hrun⟩

end FakeFreeRtos
