import FakeFreeRtos.Foundations.Detour
import FakeFreeRtos.Model.HwLockCtrlService
import FakeFreeRtos.Harness.Isolation

/-!
# The lock service is a queued machine with a detour

The lock is in one of two positions, a request for a position sends the service there, and a self
test is a detour from the position it is in (`DetourMachine LockPosition`). `Represents` relates the
memory of the service to the machine; an event that finds room is posted (`Represents.push`), and
processing one event is one step of the machine (`Represents.process`). In particular the event
that a self test posts always finds the slot that the request for the self test has left.
-/

namespace FakeFreeRtos

open Foundations DetourMode

variable {T : Type}

/-! ## Positions -/

/-- Where the lock can be. -/
inductive LockPosition
  | locked
  | unlocked
  deriving DecidableEq

namespace LockPosition

/-- The state of the service in a position. -/
def stateFunc : LockPosition → StateFunc
  | locked => .HLCS_SmLocked
  | unlocked => .HLCS_SmUnlocked

/-- The state that the service reports in a position. -/
def lockState : LockPosition → HlcsLockState
  | locked => .HLCS_LOCK_STATE_LOCKED
  | unlocked => .HLCS_LOCK_STATE_UNLOCKED

/-- The request for a position. -/
def request : LockPosition → Signal
  | locked => .SIG_REQUEST_LOCKED
  | unlocked => .SIG_REQUEST_UNLOCKED

theorem stateFunc_injective : Function.Injective stateFunc := by
  rintro (_ | _) (_ | _) <;> simp [stateFunc]

theorem stateFunc_ne_selfTest (p : LockPosition) : p.stateFunc ≠ .HLCS_SmSelfTest := by
  cases p <;> decide

/-- The function of the state in a position. -/
def handler : LockPosition → HwLockCtrl → Option Signal → HlcsApi T (Option StateFunc)
  | locked => hlcsSmLocked
  | unlocked => hlcsSmUnlocked

end LockPosition

/-- The signal of an event. -/
def eventSignal : DetourEvent LockPosition → Signal
  | .goto p => p.request
  | .detour => .SIG_REQUEST_SELF_TEST
  | .other => .SIG_REQUEST_CURRENT_CHECK

/-- The state of the service in a mode. -/
def modeFunc : DetourMode LockPosition → StateFunc
  | here p => p.stateFunc
  | away _ => .HLCS_SmSelfTest

/-- Where an output leaves the physical lock. -/
def Output.move (position : HlcsLockState) : Output → HlcsLockState
  | .HwLockCtrlLock => .HLCS_LOCK_STATE_LOCKED
  | .HwLockCtrlUnlock => .HLCS_LOCK_STATE_UNLOCKED
  | .HwLockCtrlSelfTest => .HLCS_LOCK_STATE_LOCKED
  | _ => position

/-- Where the outputs leave the physical lock: at the last command, a self test leaving it
locked. -/
def physicalLock (outputs : List Output) : HlcsLockState :=
  outputs.foldl Output.move .HLCS_LOCK_STATE_UNKNOWN

@[simp] theorem physicalLock_append (os os' : List Output) :
    physicalLock (os ++ os') = os'.foldl Output.move (physicalLock os) := List.foldl_append

/-! ## The event queue -/

/-- The event queue with the messages `l`. -/
def hlcsEventQueue (l : List Bytes) : FakeQueue :=
  { freshQueue (UInt8.ofNat hlcsQueueDepth) (UInt8.ofNat sizeofHlcsEvent) queueQUEUE_TYPE_BASE with
    queue := l }

namespace Hlcs

/-- The event queue is live at `addr`, with the messages `l`. -/
structure Queued (s : Hlcs T) (addr : Handle) (l : List Bytes) : Prop where
  handle : s.vars.s_eventQueue = addr
  notNull : addr ≠ nullptr
  lookup : s.world.lib.lookup addr = some (hlcsEventQueue l)

/-- The memory with the messages `l` in the event queue. -/
def withEvents (s : Hlcs T) (addr : Handle) (l : List Bytes) : Hlcs T :=
  { s with world := { s.world with lib := s.world.lib.write addr (hlcsEventQueue l) } }

variable {s s' : Hlcs T} {addr : Handle} {l : List Bytes}

theorem Queued.withEvents (h : s.Queued addr l) (l' : List Bytes) :
    (s.withEvents addr l').Queued addr l' := ⟨h.handle, h.notNull, Lib.lookup_write_self ..⟩

/-- Whatever else changes, the queue stays where it is. -/
theorem Queued.congr (h : s.Queued addr l) (hlib : s'.world.lib = s.world.lib)
    (hqueue : s'.vars.s_eventQueue = s.vars.s_eventQueue) : s'.Queued addr l :=
  ⟨hqueue.trans h.handle, h.notNull, hlib ▸ h.lookup⟩

theorem Queued.messagesAt (h : s.Queued addr l) :
    s.world.lib.messagesAt s.vars.s_eventQueue = l := by
  rw [h.handle, Lib.messagesAt_of_lookup h.lookup]
  rfl

end Hlcs

open Hlcs

section Events

variable {s : Hlcs T} {addr : Handle} {l : List Bytes} (hs : s.Queued addr l)

include hs

/-- An event is posted if there is room, and trips a `configASSERT` otherwise. -/
theorem run_hlcsPush (e : Side) (sig : Signal) :
    EStateM.run (hlcsPush (copyPosition e) sig) s =
      if l.length < hlcsQueueDepth then
        .ok () (s.withEvents addr (BoundedDeque.pushItems l e sig.bytes))
      else .error .assertFailed s := by
  have hsize : (hlcsEventQueue l).itemSize.toNat = sizeofHlcsEvent := rfl
  have hfits : ItemFits (some sig.bytes) (hlcsEventQueue l).itemSize :=
    (hsize.trans sig.length_bytes.symm).le
  have hmessage : message (some sig.bytes) (hlcsEventQueue l).itemSize = sig.bytes := by
    rw [message, hsize, Option.getD_some, ← sig.length_bytes, List.take_length]
  have hrun := run_xQueueGenericSend_noSet hs.notNull hs.lookup hfits rfl e
  rw [pushed, hmessage] at hrun
  have hiff : (hlcsEventQueue l).queue.length < (hlcsEventQueue l).queueLength.toNat ↔
      l.length < hlcsQueueDepth := Iff.rfl
  rw [hlcsPush, EStateM.run_bind, run_hlcsVars]
  simp only [EStateM.run_bind, hs.handle]
  by_cases hroom : l.length < hlcsQueueDepth
  · have htrue : ¬ pdTRUE = 0 := by decide
    rw [if_pos (hiff.mpr hroom)] at hrun
    rw [run_onWorld_of_ok hrun, if_pos hroom]
    simp only [if_neg htrue]
    rfl
  · have hfalse : errQUEUE_FULL = 0 := rfl
    rw [if_neg (mt hiff.mp hroom)] at hrun
    rw [run_onWorld_of_ok hrun, if_neg hroom]
    simp only [if_pos hfalse]
    rfl

/-- With no event, nothing is processed. -/
theorem run_hlcsProcessOneEvent_nil (hw : HwLockCtrl) (hl : l = []) :
    EStateM.run (hlcsProcessOneEvent .EXECUTION_OPTION_UNIT_TEST hw) s = .ok false s := by
  subst hl
  have hcount : EStateM.run (uxQueueMessagesWaiting addr) s.world.lib = .ok 0 s.world.lib :=
    run_uxQueueMessagesWaiting hs.notNull hs.lookup
  rw [hlcsProcessOneEvent, EStateM.run_bind, run_hlcsVars]
  simp only [if_true, EStateM.run_bind, run_map, hs.handle, run_onWorld_of_ok hcount]
  rfl

end Events

/-- The first event is taken from the queue and processed. -/
theorem run_hlcsProcessOneEvent_cons {s : Hlcs T} {addr : Handle} {rest : List Bytes}
    {sig : Signal} (hs : s.Queued addr (sig.bytes :: rest)) (hw : HwLockCtrl)
    (hsig : sig ≠ .SIG_REQUEST_THREAD_EXIT) (hlen : rest.length < hlcsQueueDepth) :
    EStateM.run (hlcsProcessOneEvent .EXECUTION_OPTION_UNIT_TEST hw) s =
      EStateM.run ((fun _ => true) <$> hlcsSmProcess hw (some sig)) (s.withEvents addr rest) := by
  have hcount : EStateM.run (uxQueueMessagesWaiting addr) s.world.lib =
      .ok (UInt8.ofNat (rest.length + 1)) s.world.lib :=
    run_uxQueueMessagesWaiting hs.notNull hs.lookup
  have hsome : decide (0 = UInt8.ofNat (rest.length + 1)) = false := by
    rw [decide_eq_false_iff_not, ← UInt8.toNat_inj, UInt8.toNat_ofNat', UInt8.toNat_zero]
    rw [hlcsQueueDepth] at hlen
    omega
  have hfill : filled (List.replicate sizeofHlcsEvent 0) sig.bytes = sig.bytes := by
    rw [filled, sig.length_bytes, List.drop_replicate, Nat.sub_self, List.replicate_zero,
      List.append_nil]
  have hbuffer : (List.replicate sizeofHlcsEvent (0 : UInt8)).length = sizeofHlcsEvent :=
    List.length_replicate
  have hreceive := run_internalQueueReceive_of_length hs.notNull hs.lookup rfl sig.length_bytes
    hbuffer.ge
  rw [hfill, ← run_xQueueReceive_eq hs.notNull] at hreceive
  have htrue : ¬ pdTRUE = 0 := by decide
  have hsig' : ¬ some sig = some Signal.SIG_REQUEST_THREAD_EXIT := fun he =>
    hsig (Option.some.inj he)
  rw [hlcsProcessOneEvent, EStateM.run_bind, run_hlcsVars]
  simp only [if_true, EStateM.run_bind, run_map, hs.handle, run_onWorld_of_ok hcount, hsome,
    Bool.false_eq_true, if_false, run_onWorld_of_ok hreceive, if_neg htrue, Option.getD_some,
    signalOfBytes_bytes, if_neg hsig']
  rfl

/-! ## The states -/

section States

variable {hw : HwLockCtrl} {ev : Option Signal} {s s' s₁ : Hlcs T} {rtn v v' : Option StateFunc}

theorem run_handled (s : Hlcs T) : EStateM.run handled s = .ok s.vars.s_currentState s := rfl

theorem run_callCurrentState (p : LockPosition)
    (hs : s.vars.s_currentState = some p.stateFunc) :
    EStateM.run (callCurrentState hw ev) s = EStateM.run (p.handler hw ev) s := by
  rw [callCurrentState, EStateM.run_bind, run_hlcsVars]
  cases p <;> simp only [hs, LockPosition.stateFunc] <;> rfl

theorem run_callCurrentState_selfTest (hs : s.vars.s_currentState = some .HLCS_SmSelfTest) :
    EStateM.run (callCurrentState hw ev) s = EStateM.run (hlcsSmSelfTest hw ev) s := by
  rw [callCurrentState, EStateM.run_bind, run_hlcsVars]
  simp only [hs]

/-- An event that the state handles itself. -/
theorem run_hlcsSmProcess_handled
    (h : EStateM.run (callCurrentState hw ev) s = .ok s'.vars.s_currentState s') :
    EStateM.run (hlcsSmProcess hw ev) s = .ok () s' := by
  rw [hlcsSmProcess, EStateM.run_bind, h]
  simp

/-- A transition leaves one state and enters the other. -/
theorem run_hlcsSmProcess_transition
    (h : EStateM.run (callCurrentState hw ev) s = .ok rtn s)
    (hne : rtn ≠ s.vars.s_currentState)
    (hexit : EStateM.run (callCurrentState hw (some .SM_EXIT)) s = .ok v s₁)
    (henter : EStateM.run (callCurrentState hw (some .SM_ENTER))
      { s₁ with vars := { s₁.vars with s_currentState := rtn } } = .ok v' s') :
    EStateM.run (hlcsSmProcess hw ev) s = .ok () s' := by
  rw [hlcsSmProcess, EStateM.run_bind, h]
  simp [hne, hexit, henter]

/-- Reporting a state does nothing else. -/
theorem run_hlcsNotifyChangedState (state : HlcsLockState) (s : Hlcs T) :
    ∃ s', EStateM.run (hlcsNotifyChangedState state) s = .ok () s' ∧ s'.world = s.world ∧
      s'.vars = { s.vars with s_lockState := state } ∧
      physicalLock s'.outputs = physicalLock s.outputs := by
  by_cases hcb : s.vars.s_stateChangedCallback = 0 <;>
    simp [hlcsNotifyChangedState, hcb, Output.move]

theorem run_hlcsNotifySelfTestResult (result : HlcsSelfTestResult) (s : Hlcs T) :
    ∃ s', EStateM.run (hlcsNotifySelfTestResult result) s = .ok () s' ∧ s'.world = s.world ∧
      s'.vars = s.vars ∧ physicalLock s'.outputs = physicalLock s.outputs := by
  by_cases hcb : s.vars.s_selfTestResultCallback = 0 <;>
    simp [hlcsNotifySelfTestResult, hcb, Output.move]

/-- Entering a position commands the lock there and reports it. -/
theorem run_handler_enter (p : LockPosition) (hw : HwLockCtrl) (s : Hlcs T) :
    ∃ s', EStateM.run (p.handler hw (some .SM_ENTER)) s = .ok s.vars.s_currentState s' ∧
      s'.world = s.world ∧ s'.vars = { s.vars with s_lockState := p.lockState } ∧
      physicalLock s'.outputs = p.lockState := by
  cases p with
  | locked =>
    obtain ⟨s', hrun, hworld, hvars, hlock⟩ := run_hlcsNotifyChangedState .HLCS_LOCK_STATE_LOCKED
      { s with outputs := s.outputs ++ [.HwLockCtrlLock] }
    refine ⟨s', ?_, hworld, hvars, hlock.trans (physicalLock_append ..)⟩
    simp [LockPosition.handler, hlcsSmLocked, handled, hrun, hvars]
  | unlocked =>
    obtain ⟨s', hrun, hworld, hvars, hlock⟩ := run_hlcsNotifyChangedState .HLCS_LOCK_STATE_UNLOCKED
      { s with outputs := s.outputs ++ [.HwLockCtrlUnlock] }
    refine ⟨s', ?_, hworld, hvars, hlock.trans (physicalLock_append ..)⟩
    simp [LockPosition.handler, hlcsSmUnlocked, handled, hrun]

/-- Leaving a position records it. -/
theorem run_handler_exit (p : LockPosition) (hw : HwLockCtrl) (s : Hlcs T) :
    EStateM.run (p.handler hw (some .SM_EXIT)) s = .ok s.vars.s_currentState
      { s with vars := { s.vars with s_stateHistory := some p.stateFunc } } := by
  cases p <;> simp [LockPosition.handler, hlcsSmLocked, hlcsSmUnlocked, handled,
    LockPosition.stateFunc]

/-- In a position, a request for a position or a self test is a transition there. -/
theorem run_handler_goto (p q : LockPosition) (hw : HwLockCtrl) {s : Hlcs T}
    (hs : s.vars.s_currentState = some p.stateFunc) :
    EStateM.run (p.handler hw (some q.request)) s = .ok (some q.stateFunc) s := by
  cases p <;> cases q <;> simp [LockPosition.handler, hlcsSmLocked, hlcsSmUnlocked, handled,
    LockPosition.request, LockPosition.stateFunc, hs]

theorem run_handler_detour (p : LockPosition) (hw : HwLockCtrl) (s : Hlcs T) :
    EStateM.run (p.handler hw (some .SIG_REQUEST_SELF_TEST)) s = .ok (some .HLCS_SmSelfTest) s := by
  cases p <;> rfl

/-- A current that is not too high changes nothing. -/
theorem run_handler_other (p : LockPosition) {hw : HwLockCtrl} (hcurrent : hw.readCurrent < 2000)
    (s : Hlcs T) :
    EStateM.run (p.handler hw (some .SIG_REQUEST_CURRENT_CHECK)) s =
      .ok s.vars.s_currentState { s with outputs := s.outputs ++ [.HwLockCtrlReadCurrent] } := by
  cases p <;> simp [LockPosition.handler, hlcsSmLocked, hlcsSmUnlocked, handled,
    hlcsDoCurrentCheck, hcurrent]

/-- In the self test, a request for a position is a transition there. -/
theorem run_selfTest_goto (q : LockPosition) (hw : HwLockCtrl) (s : Hlcs T) :
    EStateM.run (hlcsSmSelfTest hw (some q.request)) s = .ok (some q.stateFunc) s := by
  cases q <;> rfl

theorem run_selfTest_exit (hw : HwLockCtrl) (s : Hlcs T) :
    EStateM.run (hlcsSmSelfTest hw (some .SM_EXIT)) s = .ok s.vars.s_currentState s := rfl

/-- Once a self test has been reported, the way back is posted at the front. -/
theorem run_selfTest_return (p : LockPosition) (result : HlcsSelfTestResult) {s : Hlcs T}
    {addr : Handle} {l : List Bytes} (hs : s.Queued addr l)
    (hhistory : s.vars.s_stateHistory = some p.stateFunc) (hroom : l.length < hlcsQueueDepth) :
    ∃ s', EStateM.run (do
        hlcsNotifySelfTestResult result
        let v ← hlcsVars
        if v.s_stateHistory = some .HLCS_SmUnlocked then hlcsPushUrgentEvent .SIG_REQUEST_UNLOCKED
        else hlcsPushUrgentEvent .SIG_REQUEST_LOCKED) s = .ok () s' ∧
      s'.Queued addr (p.request.bytes :: l) ∧ s'.vars = s.vars ∧
      physicalLock s'.outputs = physicalLock s.outputs := by
  obtain ⟨s₁, hrun, hworld, hvars, hlock⟩ := run_hlcsNotifySelfTestResult result s
  have hs₁ : s₁.Queued addr l := hs.congr (by rw [hworld]) (by rw [hvars])
  have hpush := run_hlcsPush hs₁ .front p.request
  rw [if_pos hroom] at hpush
  refine ⟨s₁.withEvents addr (p.request.bytes :: l), ?_, hs₁.withEvents _, hvars, hlock⟩
  simp only [EStateM.run_bind, hrun, run_hlcsVars, hvars, hhistory]
  cases p <;> exact hpush

/-- Entering the self test leaves the lock locked and posts the way back, for which it needs
room. -/
theorem run_selfTest_enter (p : LockPosition) (hw : HwLockCtrl) {s : Hlcs T} {addr : Handle}
    {l : List Bytes} (hs : s.Queued addr l) (hhistory : s.vars.s_stateHistory = some p.stateFunc)
    (hroom : l.length < hlcsQueueDepth) :
    ∃ s', EStateM.run (hlcsSmSelfTest hw (some .SM_ENTER)) s = .ok s.vars.s_currentState s' ∧
      s'.Queued addr (p.request.bytes :: l) ∧ s'.vars = s.vars ∧
      physicalLock s'.outputs = .HLCS_LOCK_STATE_LOCKED := by
  have hreturn := fun result => run_selfTest_return p result
    (s := { s with outputs := s.outputs ++ [.HwLockCtrlSelfTest] }) (hs.congr rfl rfl) hhistory
    hroom
  rw [hlcsSmSelfTest, EStateM.run_bind, hlcsPerformSelfTest, EStateM.run_bind, run_hlcsOutput]
  by_cases hpass : hw.selfTest.1 = true ∧ hw.selfTest.2 = .HW_LOCK_CTRL_SELF_TEST_PASSED
  · obtain ⟨s', hrun, hqueued, hvars, hlock⟩ := hreturn .HLCS_SELF_TEST_RESULT_PASS
    refine ⟨s', ?_, hqueued, hvars, hlock.trans (physicalLock_append ..)⟩
    simp only [if_pos hpass, hrun, run_handled, hvars]
  · obtain ⟨s', hrun, hqueued, hvars, hlock⟩ := hreturn .HLCS_SELF_TEST_RESULT_FAIL
    refine ⟨s', ?_, hqueued, hvars, hlock.trans (physicalLock_append ..)⟩
    simp only [if_neg hpass, hrun, run_handled, hvars]

end States

/-! ## The machine -/

/-- Where the physical lock is in a mode. -/
def modeLock : DetourMode LockPosition → HlcsLockState
  | here p => p.lockState
  | away _ => .HLCS_LOCK_STATE_LOCKED

namespace Hlcs

/-- The service is the machine `m`, with its event queue at `addr`. -/
structure Represents (s : Hlcs T) (addr : Handle) (m : DetourMachine LockPosition) : Prop where
  queued : s.Queued addr (m.queue.map fun e => (eventSignal e).bytes)
  state : s.vars.s_currentState = some (modeFunc m.mode)
  lockState : s.vars.s_lockState = m.mode.place.lockState
  history : ∀ p, m.mode = away p → s.vars.s_stateHistory = some p.stateFunc
  lock : physicalLock s.outputs = modeLock m.mode

namespace Represents

variable {s : Hlcs T} {addr : Handle} {m m' : DetourMachine LockPosition}
  {mode : DetourMode LockPosition} {rest : List (DetourEvent LockPosition)}

/-- An event that finds room is posted. -/
theorem push (h : s.Represents addr m) (e : DetourEvent LockPosition)
    (hroom : m.queue.length < hlcsQueueDepth) :
    ∃ s', EStateM.run (hlcsPushEvent (eventSignal e)) s = .ok () s' ∧
      s'.Represents addr (m.post e) := by
  have hpush := run_hlcsPush h.queued .back (eventSignal e)
  rw [if_pos (by rwa [List.length_map])] at hpush
  refine ⟨_, hpush, ⟨?_, h.state, h.lockState, h.history, h.lock⟩⟩
  rw [DetourMachine.post, List.map_append]
  exact h.queued.withEvents _

/-- An event that finds no room trips the `configASSERT`. -/
theorem push_full (h : s.Represents addr m) (e : DetourEvent LockPosition)
    (hfull : ¬ m.queue.length < hlcsQueueDepth) :
    EStateM.run (hlcsPushEvent (eventSignal e)) s = .error .assertFailed s := by
  have hpush := run_hlcsPush h.queued .back (eventSignal e)
  rwa [if_neg (by rwa [List.length_map])] at hpush

/-- Entering a position, whatever the service has left. -/
theorem enter {t : Hlcs T} (p : LockPosition) (hw : HwLockCtrl)
    (hqueued : t.Queued addr (rest.map fun e => (eventSignal e).bytes)) :
    ∃ s', EStateM.run (callCurrentState hw (some .SM_ENTER))
        { t with vars := { t.vars with s_currentState := some p.stateFunc } } =
          .ok (some p.stateFunc) s' ∧ s'.Represents addr ⟨here p, rest⟩ := by
  obtain ⟨s', hrun, hworld, hvars, hlock⟩ := run_handler_enter p hw
    { t with vars := { t.vars with s_currentState := some p.stateFunc } }
  refine ⟨s', (run_callCurrentState p rfl).trans hrun, ⟨hqueued.congr ?_ ?_, ?_, ?_, ?_, hlock⟩⟩
  · rw [hworld]
  · rw [hvars]
  · rw [hvars]
    rfl
  · rw [hvars]
    rfl
  · rintro q ⟨⟩

/-- A transition to another position, whatever the service has left. -/
theorem goesTo {t : Hlcs T} {v : Option StateFunc} (q : LockPosition) {hw : HwLockCtrl}
    {ev : Option Signal} (hevent : EStateM.run (callCurrentState hw ev) s = .ok q.stateFunc s)
    (hne : s.vars.s_currentState ≠ some q.stateFunc)
    (hexit : EStateM.run (callCurrentState hw (some .SM_EXIT)) s = .ok v t)
    (hqueued : t.Queued addr (rest.map fun e => (eventSignal e).bytes)) :
    ∃ s', EStateM.run (hlcsSmProcess hw ev) s = .ok () s' ∧ s'.Represents addr ⟨here q, rest⟩ := by
  obtain ⟨s', henter, hs'⟩ := enter q hw hqueued
  exact ⟨s', run_hlcsSmProcess_transition hevent hne.symm hexit henter, hs'⟩

/-- A self test leaves the position and posts the way back to it. -/
theorem detours {p : LockPosition} (h : s.Represents addr ⟨here p, rest⟩) (hw : HwLockCtrl)
    (hroom : rest.length < hlcsQueueDepth) :
    ∃ s', EStateM.run (hlcsSmProcess hw (some .SIG_REQUEST_SELF_TEST)) s = .ok () s' ∧
      s'.Represents addr ⟨away p, .goto p :: rest⟩ := by
  have hevent := (run_callCurrentState p h.state).trans (run_handler_detour p hw s)
  have hexit := (run_callCurrentState p h.state).trans (run_handler_exit p hw s)
  have hne : some .HLCS_SmSelfTest ≠ s.vars.s_currentState := by
    rw [h.state]
    exact fun heq => LockPosition.stateFunc_ne_selfTest p (Option.some.inj heq).symm
  obtain ⟨s', henter, hqueued, hvars, hlock⟩ := run_selfTest_enter p hw
    (s := { s with vars := { s.vars with
      s_stateHistory := some p.stateFunc
      s_currentState := some .HLCS_SmSelfTest } })
    (h.queued.congr rfl rfl) rfl (by rwa [List.length_map])
  rw [← run_callCurrentState_selfTest rfl] at henter
  refine ⟨s', run_hlcsSmProcess_transition hevent hne hexit henter,
    ⟨hqueued, ?_, ?_, ?_, hlock⟩⟩
  · rw [hvars]
    rfl
  · rw [hvars]
    exact h.lockState
  · rintro q ⟨⟩
    rw [hvars]

/-- **An event is handled as the machine handles it**; the slot of the event is free for what the
service posts itself. -/
theorem handle (h : s.Represents addr ⟨mode, rest⟩) (e : DetourEvent LockPosition)
    {hw : HwLockCtrl} (hcurrent : hw.readCurrent < 2000) (hroom : rest.length < hlcsQueueDepth) :
    ∃ s', EStateM.run (hlcsSmProcess hw (some (eventSignal e))) s = .ok () s' ∧
      s'.Represents addr (DetourMachine.handle rest mode e) := by
  cases mode with
  | here p =>
    cases e with
    | goto q =>
      have hevent := (run_callCurrentState p h.state).trans (run_handler_goto p q hw h.state)
      by_cases hq : q = p
      · subst hq
        exact ⟨s, run_hlcsSmProcess_handled (hevent.trans (by rw [h.state]; rfl)), h⟩
      · have hne : s.vars.s_currentState ≠ some q.stateFunc := by
          rw [h.state]
          exact fun heq => hq (LockPosition.stateFunc_injective (Option.some.inj heq)).symm
        exact goesTo q hevent hne ((run_callCurrentState p h.state).trans (run_handler_exit p hw s))
          (h.queued.congr rfl rfl)
    | detour => exact h.detours hw hroom
    | other =>
      have hevent := (run_callCurrentState p h.state).trans (run_handler_other p hcurrent s)
      refine ⟨{ s with outputs := s.outputs ++ [.HwLockCtrlReadCurrent] },
        run_hlcsSmProcess_handled hevent, h.queued.congr rfl rfl, h.state, h.lockState, h.history,
        ?_⟩
      exact (physicalLock_append ..).trans h.lock
  | away p =>
    cases e with
    | goto q =>
      have hne : s.vars.s_currentState ≠ some q.stateFunc := by
        rw [h.state]
        exact fun heq => LockPosition.stateFunc_ne_selfTest q (Option.some.inj heq).symm
      exact goesTo q ((run_callCurrentState_selfTest h.state).trans (run_selfTest_goto q hw s)) hne
        ((run_callCurrentState_selfTest h.state).trans (run_selfTest_exit hw s)) h.queued
    | detour =>
      exact ⟨s, run_hlcsSmProcess_handled (run_callCurrentState_selfTest h.state), h⟩
    | other =>
      exact ⟨s, run_hlcsSmProcess_handled (run_callCurrentState_selfTest h.state), h⟩

/-- With no event, nothing happens. -/
theorem processOneEvent_nil (h : s.Represents addr m) (hw : HwLockCtrl) (hm : m.step? = none) :
    EStateM.run (hlcsProcessOneEvent .EXECUTION_OPTION_UNIT_TEST hw) s = .ok false s :=
  run_hlcsProcessOneEvent_nil h.queued hw
    (by rw [DetourMachine.step?_eq_none_iff.mp hm, List.map_nil])

/-- **Processing one event is one step of the machine.** -/
theorem processOneEvent_step (h : s.Represents addr m) {hw : HwLockCtrl}
    (hcurrent : hw.readCurrent < 2000) (hlen : m.queue.length ≤ hlcsQueueDepth)
    (hm : m.step? = some m') :
    ∃ s', EStateM.run (hlcsProcessOneEvent .EXECUTION_OPTION_UNIT_TEST hw) s = .ok true s' ∧
      s'.Represents addr m' := by
  obtain ⟨e, rest, hqueue, rfl⟩ := DetourMachine.step?_eq_some_iff.mp hm
  have hroom : rest.length < hlcsQueueDepth := by
    rw [hqueue, List.length_cons] at hlen
    omega
  have hqueued := h.queued
  rw [hqueue, List.map_cons] at hqueued
  have hsig : eventSignal e ≠ .SIG_REQUEST_THREAD_EXIT := by
    cases e with
    | goto p => cases p <;> decide
    | detour => decide
    | other => decide
  have htaken : (s.withEvents addr (rest.map fun e => (eventSignal e).bytes)).Represents addr
      ⟨m.mode, rest⟩ := ⟨h.queued.withEvents _, h.state, h.lockState, h.history, h.lock⟩
  obtain ⟨s', hrun, hs'⟩ := htaken.handle e hcurrent hroom
  refine ⟨s', ?_, hs'⟩
  rw [run_hlcsProcessOneEvent_cons hqueued hw hsig (by rwa [List.length_map]), run_map, hrun]

end Represents

end Hlcs

/-! ## Setup -/

section Setup

theorem run_onWorld_eq_ok {α : Type} {x : WorldApi T α} {s s' : Hlcs T} {a : α} :
    EStateM.run (onWorld x) s = .ok a s' ↔
      ∃ w, EStateM.run x s.world = .ok a w ∧ s' = { s with world := w } := by
  rw [run_onWorld]
  cases EStateM.run x s.world with
  | ok b w =>
    constructor
    · rintro ⟨⟩
      exact ⟨w, rfl, rfl⟩
    · rintro ⟨w', ⟨⟩, rfl⟩
      rfl
  | error e w => exact ⟨nofun, nofun⟩

/-- A call of the library that does not touch the queue modules is not noticed by the service. -/
structure Hlcs.Keeps (s s' : Hlcs T) : Prop where
  world : s.world.Keeps s'.world
  vars : s'.vars = s.vars
  outputs : s'.outputs = s.outputs

theorem ensures_onWorld {α : Type} {x : WorldApi T α} (hx : Ensures World.Keeps x) :
    Ensures Hlcs.Keeps (onWorld x) := fun s => by
  have hs := hx s.world
  rw [run_onWorld]
  cases hr : EStateM.run x s.world with
  | ok a w =>
    rw [hr] at hs
    exact ⟨hs, rfl, rfl⟩
  | error e w =>
    rw [hr] at hs
    exact ⟨hs, rfl, rfl⟩

variable (P : Platform T) {s s' : Hlcs T} {addr : Handle} {callback : UInt64}

/-- The memory in which `HLCS_Init` creates the timer. -/
def World.withEventQueue (w : World T) (addr : Handle) : World T :=
  { w with lib := w.lib.write addr (hlcsEventQueue []) }

theorem HlcsVars.eq_initial_iff {v : HlcsVars} : v = {} ↔
    v.s_lockState = .HLCS_LOCK_STATE_UNKNOWN ∧ v.s_thread = 0 ∧ v.s_eventQueue = nullptr ∧
      v.s_timer = 0 ∧ v.s_stateChangedCallback = 0 ∧ v.s_selfTestResultCallback = 0 ∧
      v.s_currentState = none ∧ v.s_stateHistory = none ∧ v.s_exitThread = false := by
  constructor
  · rintro rfl
    exact ⟨rfl, rfl, rfl, rfl, rfl, rfl, rfl, rfl, rfl⟩
  · cases v
    rintro ⟨rfl, rfl, rfl, rfl, rfl, rfl, rfl, rfl, rfl⟩
    rfl

/-- **The setup** asks for every variable to have its initial value. -/
theorem run_hlcsInit_eq_ok :
    EStateM.run (hlcsInit P addr callback) s = .ok () s' ↔
      s.vars = {} ∧ s.world.lib.Fresh addr ∧ ∃ timer w, timer ≠ 0 ∧
        EStateM.run (xTimerCreate P (some "current") (pdMS_TO_TICKS P.configTICK_RATE_HZ 5000)
          pdTRUE 0 callback) (s.world.withEventQueue addr) = .ok timer w ∧
        s' = { world := w, vars := { s_eventQueue := addr, s_timer := timer },
               outputs := s.outputs } := by
  by_cases hvars : s.vars = {}
  · by_cases hfresh : s.world.lib.Fresh addr
    · have hqueue : EStateM.run (xQueueCreate addr hlcsQueueDepth sizeofHlcsEvent) s.world.lib =
          .ok addr (s.world.lib.write addr (hlcsEventQueue [])) := run_xQueueGenericCreate hfresh ..
      rw [World.withEventQueue]
      cases hr : EStateM.run (xTimerCreate P (some "current")
          (pdMS_TO_TICKS P.configTICK_RATE_HZ 5000) pdTRUE 0 callback)
          { s.world with lib := s.world.lib.write addr (hlcsEventQueue []) } with
      | ok timer w =>
        by_cases htimer : timer = 0 <;>
          simp [hlcsInit, hvars, hqueue, hfresh.1, hfresh, hr, htimer, eq_comm (a := s')]
      | error e w => simp [hlcsInit, hvars, hqueue, hfresh.1, hfresh, hr]
    · have hqueue := run_xQueueGenericCreate_not_fresh hfresh (UInt8.ofNat hlcsQueueDepth)
        (UInt8.ofNat sizeofHlcsEvent) queueQUEUE_TYPE_BASE
      simp [hlcsInit, hvars, xQueueCreate, hqueue, hfresh]
  · refine iff_of_false (fun h => hvars (HlcsVars.eq_initial_iff.mpr ?_)) (fun h => hvars h.1)
    simp [-EStateM.run_bind, hlcsInit, run_bind_eq_ok, run_configASSERT_eq_ok] at h
    exact ⟨h.1, h.2.1, h.2.2.1, h.2.2.2.1, h.2.2.2.2.1, h.2.2.2.2.2.1, h.2.2.2.2.2.2.1,
      h.2.2.2.2.2.2.2.1, h.2.2.2.2.2.2.2.2.1⟩

variable {hw : HwLockCtrl} {rest : List (DetourEvent LockPosition)}

/-- The machine starts locked, with what was posted before. -/
theorem run_hlcsSmInitialize (hw : HwLockCtrl)
    (hqueued : s.Queued addr (rest.map fun e => (eventSignal e).bytes)) :
    ∃ s', EStateM.run (hlcsSmInitialize hw) s = .ok () s' ∧
      s'.Represents addr ⟨here .locked, rest⟩ := by
  obtain ⟨s', henter, hs'⟩ := Represents.enter .locked hw
    (t := { s with vars := { s.vars with s_currentState := some .HLCS_SmInitialPseudoState },
                   outputs := s.outputs ++ [.HwLockCtrlInit] }) (hqueued.congr rfl rfl)
  refine ⟨s', ?_, hs'⟩
  have hinitial : EStateM.run (callCurrentState hw (some .SM_ENTER))
      { s with vars := { s.vars with s_currentState := some .HLCS_SmInitialPseudoState } } =
      .ok (some .HLCS_SmLocked)
        { s with vars := { s.vars with s_currentState := some .HLCS_SmInitialPseudoState },
                 outputs := s.outputs ++ [.HwLockCtrlInit] } := rfl
  rw [LockPosition.stateFunc] at henter
  simp [hlcsSmInitialize, hinitial, henter]

theorem Hlcs.Represents.keeps {m : DetourMachine LockPosition} (h : s.Represents addr m)
    (hkeeps : s.Keeps s') : s'.Represents addr m := by
  obtain ⟨hworld, hvars, houtputs⟩ := hkeeps
  exact ⟨h.queued.congr hworld.lib (by rw [hvars]), by rw [hvars, h.state],
    by rw [hvars, h.lockState], fun p hp => by rw [hvars, h.history p hp],
    by rw [houtputs, h.lock]⟩

/-- When the start returns: the timer is started at the current tick count. -/
theorem run_hlcsStart_eq_ok :
    EStateM.run (hlcsStart P .EXECUTION_OPTION_UNIT_TEST hw) s = .ok () s' ↔
      s.vars.s_currentState = none ∧ s.vars.s_thread = 0 ∧ ∃ s₁ tickCount w₁ w₂,
        EStateM.run (hlcsSmInitialize hw) s = .ok () s₁ ∧
        EStateM.run (xTaskGetTickCount P) s₁.world = .ok tickCount w₁ ∧
        EStateM.run (xTimerGenericCommandFromTask P s.vars.s_timer tmrCOMMAND_START tickCount) w₁ =
          .ok pdPASS w₂ ∧ s' = { s₁ with world := w₂ } := by
  simp [-EStateM.run_bind, -run_onWorld, run_bind_eq_ok, hlcsStart, run_configASSERT_eq_ok,
    run_onWorld_eq_ok]
  refine fun _ _ => ⟨?_, fun h => ⟨(), h⟩⟩
  rintro ⟨⟨⟩, h⟩
  exact h

/-- **The service starts as the machine that is locked.** -/
theorem Hlcs.Represents.of_start
    (hqueued : s.Queued addr (rest.map fun e => (eventSignal e).bytes))
    (h : EStateM.run (hlcsStart P .EXECUTION_OPTION_UNIT_TEST hw) s = .ok () s') :
    s'.Represents addr ⟨here .locked, rest⟩ := by
  obtain ⟨-, -, s₁, tickCount, w₁, w₂, hinit, hcount, hstart, rfl⟩ := (run_hlcsStart_eq_ok P).mp h
  obtain ⟨s₂, hinit', hs₂⟩ := run_hlcsSmInitialize hw hqueued
  obtain ⟨-, rfl⟩ := EStateM.Result.ok.inj (hinit'.symm.trans hinit)
  have hcount' := (ensures_xTaskGetTickCount P).of_run_eq_ok hcount
  have hstart' := (ensures_xTimerGenericCommandFromTask P _ _ _).of_run_eq_ok hstart
  exact hs₂.keeps ⟨trans_of _ hcount' hstart', rfl, rfl⟩

end Setup

end FakeFreeRtos
