import FakeFreeRtos.Lock.Service

/-!
# The lock obeys requests in order, and self tests are transparent

Whatever clients, the timer and the harness call on a started service, as long as they find room in
the event queue and the motor's current stays low: while a self test is under way, the first event
is the way back; processing events never fails, and comes to an end; and then the service, what it
reports and the physical lock are all where the latest request sent them (`requests_obeyed`). The
service is a machine with detours all along (`Hlcs.Follows`), and what is said about it is read off
the laws of these machines.
-/

namespace FakeFreeRtos

open Foundations DetourMode

variable {T : Type} (P : Platform T)

/-! ## What is asked of the service -/

/-- The lock or unlock request that a call makes. -/
def HlcsCall.request? : HlcsCall → Option LockPosition
  | .requestLocked => some .locked
  | .requestUnlocked => some .unlocked
  | _ => none

/-- The latest lock or unlock request; a service starts locked. -/
def latestRequest (tr : List (HlcsCall × Reply)) : LockPosition :=
  (tr.filterMap fun cr => cr.1.request?).getLastD .locked

/-- The event that a client or the timer posts. -/
def HlcsCall.posted? : HlcsCall → Option (DetourEvent LockPosition)
  | .requestLocked => some (.goto .locked)
  | .requestUnlocked => some (.goto .unlocked)
  | .requestSelfTest => some .detour
  | .checkCurrentTimer => some .other
  | _ => none

namespace Hlcs

/-- The number of events in the event queue. -/
def pending (s : Hlcs T) : ℕ := (s.world.lib.messagesAt s.vars.s_eventQueue).length

/-- A registration of a callback. -/
structure RegisterStep (s : Hlcs T) (c : HlcsCall) (r : Reply) (s' : Hlcs T) : Prop where
  step : s.Step P c r s'
  registers : ∃ callback, c = .registerChangeState callback ∨ c = .registerSelfTestResult callback

/-- The service after `HLCS_Init`, registrations of callbacks, and `HLCS_Start`. -/
def Started (s : Hlcs T) : Prop :=
  ∃ s₀ s₁ s₂ addr callback tr hw, EStateM.run (hlcsInit P addr callback) s₀ = .ok () s₁ ∧
    Run (RegisterStep P) s₁ tr s₂ ∧
    s₂.Step P (.start .EXECUTION_OPTION_UNIT_TEST hw) (.returned .unit) s

/-- A call on a started service: what it posts finds room, and the motor's current is low when it
processes an event. -/
structure ClientStep (s : Hlcs T) (c : HlcsCall) (r : Reply) (s' : Hlcs T) : Prop where
  step : s.Step P c r s'
  running : ∀ option hw, c ≠ .start option hw
  room : c.posted?.isSome → s.pending < hlcsQueueDepth
  process : ∀ option hw, c = .processOneEvent option hw →
    option = .EXECUTION_OPTION_UNIT_TEST ∧ hw.readCurrent < 2000

/-- The service, what it reports and the physical lock are in the position `p`. -/
structure AtRest (s : Hlcs T) (p : LockPosition) : Prop where
  currentState : s.vars.s_currentState = some p.stateFunc
  getState : EStateM.run hlcsGetState s = .ok p.lockState s
  physicalLock : physicalLock s.outputs = p.lockState

/-- One event is processed, while the driver answers `hw`. -/
abbrev processCall (hw : HwLockCtrl) : HlcsCall := .processOneEvent .EXECUTION_OPTION_UNIT_TEST hw

/-- What the service guarantees when the latest request is for `p`. -/
structure Serves (s : Hlcs T) (p : LockPosition) : Prop where
  /-- During a self test, the first event is the request for the position that was left. -/
  wayBack : s.vars.s_currentState = some .HLCS_SmSelfTest → ∃ left : LockPosition,
    s.vars.s_stateHistory = some left.stateFunc ∧ s.vars.s_lockState = left.lockState ∧
      (s.world.lib.messagesAt s.vars.s_eventQueue).head? = some left.request.bytes
  /-- Processing an event returns: what a self test posts finds room. -/
  returns : ∀ hw : HwLockCtrl, hw.readCurrent < 2000 →
    ∃ b s', s.Step P (processCall hw) (.returned (.bool b)) s'
  /-- Processing events comes to an end, with everything where it should be. -/
  drains : ∀ hw : ℕ → HwLockCtrl, (∀ i, (hw i).readCurrent < 2000) →
    ∃ n s', n ≤ 2 * s.pending ∧ Run (Hlcs.Step P) s (repeated (fun i => processCall (hw i))
      (.returned (.bool true)) (.returned (.bool false)) n) s' ∧ s'.AtRest p
  /-- So is everything whenever there is nothing to process. -/
  rests : ∀ (hw : HwLockCtrl) s', hw.readCurrent < 2000 →
    s.Step P (processCall hw) (.returned (.bool false)) s' → s'.AtRest p

end Hlcs

open Hlcs

/-! ## The service follows the latest request -/

namespace Hlcs

/-- The service is a machine that is headed for `p`. -/
structure Follows (s : Hlcs T) (addr : Handle) (m : DetourMachine LockPosition)
    (p : LockPosition) : Prop where
  represents : s.Represents addr m
  homed : m.Homed
  heading : m.heading = p
  bounded : m.queue.length ≤ hlcsQueueDepth

variable {s s' : Hlcs T} {addr : Handle} {m : DetourMachine LockPosition} {p : LockPosition}
  {c : HlcsCall} {r : Reply}

theorem Represents.pending_eq (h : s.Represents addr m) : s.pending = m.queue.length := by
  rw [pending, h.queued.messagesAt, List.length_map]

/-- One event of a service with events. -/
theorem Follows.process_step (h : s.Follows addr m p) {hw : HwLockCtrl}
    (hcurrent : hw.readCurrent < 2000) {m' : DetourMachine LockPosition}
    (hm : m.step? = some m') :
    ∃ s', s.Step P (processCall hw) (.returned (.bool true)) s' ∧ s'.Follows addr m' p := by
  obtain ⟨s', hrun, hs'⟩ := h.represents.processOneEvent_step hcurrent h.bounded hm
  refine ⟨s', stepOf_of_ok hrun, hs', h.homed.step hm, ?_, ?_⟩
  · rw [DetourMachine.heading_step hm, h.heading]
  · exact (DetourMachine.length_step hm).trans h.bounded

theorem Follows.process_nil (h : s.Follows addr m p) (hw : HwLockCtrl) (hm : m.step? = none) :
    s.Step P (processCall hw) (.returned (.bool false)) s :=
  stepOf_of_ok (h.represents.processOneEvent_nil hw hm)

/-- With no event left, the service is where it was headed. -/
theorem Follows.atRest (h : s.Follows addr m p) (hm : m.step? = none) : s.AtRest p := by
  have hmode := DetourMachine.mode_of_queue_eq_nil h.homed (DetourMachine.step?_eq_none_iff.mp hm)
  rw [h.heading] at hmode
  refine ⟨?_, ?_, ?_⟩
  · rw [h.represents.state, hmode]
    rfl
  · have hstate := h.represents.lockState
    rw [hmode] at hstate
    exact congrArg (EStateM.Result.ok · s) hstate
  · rw [h.represents.lock, hmode]
    rfl

/-- A client posts an event. -/
theorem Follows.post (h : s.Follows addr m p) (e : DetourEvent LockPosition)
    (hroom : s.pending < hlcsQueueDepth)
    (hstep : StepOf ((fun _ => .unit) <$> hlcsPushEvent (eventSignal e)) s r s') :
    s'.Follows addr (m.post e) (DetourMachine.headed p e) := by
  rw [h.represents.pending_eq] at hroom
  obtain ⟨s₁, hrun, hs₁⟩ := h.represents.push e hroom
  obtain ⟨-, rfl⟩ := (stepOf_of_ok hrun).deterministic hstep
  refine ⟨hs₁, h.homed.post e, ?_, ?_⟩
  · rw [DetourMachine.heading_post, h.heading]
  · rw [DetourMachine.post, List.length_append]
    exact hroom

/-- An event is processed. -/
theorem Follows.process (h : s.Follows addr m p) {hw : HwLockCtrl}
    (hcurrent : hw.readCurrent < 2000) (hstep : s.Step P (processCall hw) r s') :
    ∃ m', s'.Follows addr m' p := by
  cases hm : m.step? with
  | none =>
    obtain ⟨-, rfl⟩ := (h.process_nil P hw hm).deterministic hstep
    exact ⟨m, h⟩
  | some m' =>
    obtain ⟨s₁, hs₁, hfollows⟩ := h.process_step P hcurrent hm
    obtain ⟨-, rfl⟩ := hs₁.deterministic hstep
    exact ⟨m', hfollows⟩

/-- A callback is registered. -/
theorem Represents.register (h : s.Represents addr m) (changed result : UInt64) :
    { s with vars := { s.vars with
      s_stateChangedCallback := changed
      s_selfTestResultCallback := result } }.Represents addr m :=
  ⟨h.queued.congr rfl rfl, h.state, h.lockState, h.history, h.lock⟩

/-- **Each call of a client keeps the machine headed for the latest request.** -/
theorem Follows.clientStep (h : s.Follows addr m p) (hstep : s.ClientStep P c r s') :
    ∃ m', s'.Follows addr m' (c.request?.getD p) := by
  cases c with
  | start option hw => exact absurd rfl (hstep.running option hw)
  | requestLocked => exact ⟨_, h.post (.goto .locked) (hstep.room rfl) hstep.step⟩
  | requestUnlocked => exact ⟨_, h.post (.goto .unlocked) (hstep.room rfl) hstep.step⟩
  | requestSelfTest => exact ⟨_, h.post .detour (hstep.room rfl) hstep.step⟩
  | checkCurrentTimer => exact ⟨_, h.post .other (hstep.room rfl) hstep.step⟩
  | processOneEvent option hw =>
    obtain ⟨rfl, hcurrent⟩ := hstep.process option hw rfl
    exact h.process P hcurrent hstep.step
  | registerChangeState callback =>
    obtain ⟨-, rfl⟩ := (stepOf_of_ok (f := fun _ => Value.unit) (run_hlcsAssign ..)).deterministic
      hstep.step
    exact ⟨m, h.represents.register callback _, h.homed, h.heading, h.bounded⟩
  | registerSelfTestResult callback =>
    obtain ⟨-, rfl⟩ := (stepOf_of_ok (f := fun _ => Value.unit) (run_hlcsAssign ..)).deterministic
      hstep.step
    exact ⟨m, h.represents.register _ callback, h.homed, h.heading, h.bounded⟩
  | moveTimeForward duration =>
    have hkeeps := hstep.step.of_ensures (.map _ (ensures_onWorld (ensures_moveTimeForward P _)))
    exact ⟨m, h.represents.keeps hkeeps, h.homed, h.heading, h.bounded⟩

/-- What the message in the event queue costs. -/
def messageCost (bytes : Bytes) : ℕ :=
  if signalOfBytes bytes = some .SIG_REQUEST_SELF_TEST then 2 else 1

/-- The load of the machine, read off the event queue. -/
def load (s : Hlcs T) : ℕ :=
  (s.world.lib.messagesAt s.vars.s_eventQueue).foldr (fun bytes n => messageCost bytes + n) 0

theorem messageCost_eventSignal (e : DetourEvent LockPosition) :
    messageCost (eventSignal e).bytes = DetourMachine.cost e := by
  rw [messageCost, signalOfBytes_bytes]
  cases e with
  | goto q => cases q <;> rfl
  | detour => rfl
  | other => rfl

theorem Represents.load_eq (h : s.Represents addr m) : s.load = m.load := by
  rw [load, h.queued.messagesAt, DetourMachine.load, List.foldr_map]
  simp only [messageCost_eventSignal]

theorem load_le (s : Hlcs T) : s.load ≤ 2 * s.pending := by
  rw [load, pending]
  induction s.world.lib.messagesAt s.vars.s_eventQueue with
  | nil => exact Nat.zero_le _
  | cons bytes l ih =>
    have hcost : messageCost bytes ≤ 2 := by
      rw [messageCost]
      split <;> omega
    rw [List.foldr_cons, List.length_cons]
    omega

/-- Each event that is processed lowers the load. -/
theorem Follows.lowers (p : LockPosition) (s : Hlcs T) (c : HlcsCall)
    (h : ∃ m, s.Follows addr m p)
    (hc : ∃ hw : HwLockCtrl, hw.readCurrent < 2000 ∧ c = processCall hw) :
    (∃ s', s.Step P c (.returned (.bool true)) s' ∧ (∃ m', s'.Follows addr m' p) ∧
      s'.load < s.load) ∨
    ∃ s', s.Step P c (.returned (.bool false)) s' ∧ s'.AtRest p := by
  obtain ⟨m, h⟩ := h
  obtain ⟨hw, hcurrent, rfl⟩ := hc
  cases hm : m.step? with
  | none => exact .inr ⟨s, h.process_nil P hw hm, h.atRest hm⟩
  | some m' =>
    obtain ⟨s', hstep, hs'⟩ := h.process_step P hcurrent hm
    refine .inl ⟨s', hstep, ⟨m', hs'⟩, ?_⟩
    rw [hs'.represents.load_eq, h.represents.load_eq]
    exact DetourMachine.load_step hm

/-- **What a service guarantees that follows the latest request.** -/
theorem Follows.serves (h : s.Follows addr m p) : s.Serves P p := by
  constructor
  · intro hstate
    cases hmode : m.mode with
    | here q =>
      rw [h.represents.state, hmode] at hstate
      exact absurd (Option.some.inj hstate) q.stateFunc_ne_selfTest
    | away left =>
      obtain ⟨rest, hqueue⟩ := h.homed left hmode
      refine ⟨left, h.represents.history left hmode, ?_, ?_⟩
      · rw [h.represents.lockState, hmode]
        rfl
      · rw [h.represents.queued.messagesAt, hqueue]
        rfl
  · intro hw hcurrent
    cases hm : m.step? with
    | none => exact ⟨false, s, h.process_nil P hw hm⟩
    | some m' =>
      obtain ⟨s', hs', -⟩ := h.process_step P hcurrent hm
      exact ⟨true, s', hs'⟩
  · intro hw hcurrent
    obtain ⟨n, s', hn, hrun, hrest⟩ := Run.exists_repeated load (Follows.lowers P p) ⟨m, h⟩
      (fun i => processCall (hw i)) fun i => ⟨hw i, hcurrent i, rfl⟩
    exact ⟨n, s', hn.trans s.load_le, hrun, hrest⟩
  · intro hw s' hcurrent hstep
    cases hm : m.step? with
    | none =>
      obtain ⟨-, rfl⟩ := (h.process_nil P hw hm).deterministic hstep
      exact h.atRest hm
    | some m' =>
      obtain ⟨s₁, hs₁, -⟩ := h.process_step P hcurrent hm
      cases (hs₁.deterministic hstep).1

/-- A started service is locked, and so is the machine. -/
theorem Started.follows (h : s.Started P) : ∃ addr m, s.Follows addr m .locked := by
  obtain ⟨s₀, s₁, s₂, addr, callback, tr, hw, hinit, hrun, hstart⟩ := h
  obtain ⟨-, hfresh, timer, w, -, hcreate, rfl⟩ := (run_hlcsInit_eq_ok P).mp hinit
  have hqueued₁ : Queued ⟨w, { s_eventQueue := addr, s_timer := timer }, s₀.outputs⟩ addr [] := by
    refine ⟨rfl, hfresh.1, ?_⟩
    have hkeeps := (ensures_xTimerCreate P _ _ _ _ _).of_run_eq_ok hcreate
    rw [hkeeps.lib]
    exact Lib.lookup_write_self ..
  have hqueued : s₂.Queued addr [] := by
    refine hrun.invariant (I := fun s => s.Queued addr []) ?_ hqueued₁
    rintro s c r s' hs ⟨hstep, callback, rfl | rfl⟩
    · obtain ⟨-, rfl⟩ := (stepOf_of_ok (f := fun _ => Value.unit) (run_hlcsAssign ..)).deterministic
        hstep
      exact hs.congr rfl rfl
    · obtain ⟨-, rfl⟩ := (stepOf_of_ok (f := fun _ => Value.unit) (run_hlcsAssign ..)).deterministic
        hstep
      exact hs.congr rfl rfl
  obtain ⟨⟨⟩, hok, -⟩ := hstart.returned
  have hlocked : s.Represents addr ⟨here .locked, []⟩ := .of_start P hqueued hok
  exact ⟨addr, _, hlocked, nofun, rfl, Nat.zero_le _⟩

end Hlcs

theorem latestRequest_snoc (tr : List (HlcsCall × Reply)) (c : HlcsCall) (r : Reply) :
    latestRequest (tr ++ [(c, r)]) = c.request?.getD (latestRequest tr) := by
  rw [latestRequest, List.filterMap_append]
  cases hc : c.request? with
  | none => simp [hc, latestRequest]
  | some p => simp [hc]

/-- **The lock service obeys requests in order, and self tests are transparent.** -/
theorem requests_obeyed {s₀ s : Hlcs T} {tr : List (HlcsCall × Reply)} (h₀ : s₀.Started P)
    (hrun : Run (ClientStep P) s₀ tr s) : s.Serves P (latestRequest tr) := by
  obtain ⟨addr, m₀, hm₀⟩ := h₀.follows P
  have hfollows : ∃ m, s.Follows addr m (latestRequest tr) := by
    refine hrun.history (I := fun tr s => ∃ m, s.Follows addr m (latestRequest tr)) ?_ ⟨m₀, hm₀⟩
    rintro tr s c r s' ⟨m, hm⟩ hstep
    rw [latestRequest_snoc]
    exact hm.clientStep P hstep
  obtain ⟨m, hm⟩ := hfollows
  exact hm.serves P

/-- The memory of a test of the service after the setup of the library. -/
def Hlcs.ready : Hlcs ListedTimers where
  world := { (World.start : World ListedTimers) with s_fakeTimers := some (Platform.listed.new 1) }
  vars := {}
  outputs := []

/-- The driver of a motor that works. -/
def HwLockCtrl.working : HwLockCtrl := ⟨0, true, .HW_LOCK_CTRL_SELF_TEST_PASSED⟩

/-- The service that was set up and started there. -/
def Hlcs.readyStarted : Hlcs ListedTimers :=
  (replyOf (EStateM.run ((HlcsCall.start .EXECUTION_OPTION_UNIT_TEST .working).exec Platform.listed)
    (finalState (EStateM.run (hlcsInit Platform.listed 1 64) Hlcs.ready)))).2

theorem Hlcs.readyStarted_started : Hlcs.readyStarted.Started Platform.listed :=
  ⟨Hlcs.ready, _, _, 1, 64, [], .working, by decide +kernel, .nil _,
    stepOf_of_reply (by decide +kernel)⟩

/-- The unlocked position is requested and then a self test, which is under way after two
events. -/
theorem requests_obeyed_selfTest : ∃ s : Hlcs ListedTimers,
    Run (ClientStep Platform.listed) Hlcs.readyStarted [(.requestUnlocked, .returned .unit),
      (.requestSelfTest, .returned .unit), (processCall .working, .returned (.bool true)),
      (processCall .working, .returned (.bool true))] s ∧
    s.vars.s_currentState = some .HLCS_SmSelfTest ∧ s.Serves Platform.listed .unlocked := by
  have hcurrent : ∀ option hw, processCall .working = .processOneEvent option hw →
      option = .EXECUTION_OPTION_UNIT_TEST ∧ hw.readCurrent < 2000 := by
    rintro option hw ⟨⟩
    exact ⟨rfl, by decide⟩
  have hrun : Run (ClientStep Platform.listed) Hlcs.readyStarted [
      (.requestUnlocked, .returned .unit), (.requestSelfTest, .returned .unit),
      (processCall .working, .returned (.bool true)),
      (processCall .working, .returned (.bool true))] _ :=
    .cons ⟨stepOf_of_reply (by decide +kernel), nofun, fun _ => by decide +kernel, nofun⟩
      (.cons ⟨stepOf_of_reply (by decide +kernel), nofun, fun _ => by decide +kernel, nofun⟩
        (.cons ⟨stepOf_of_reply (by decide +kernel), nofun, nofun, hcurrent⟩
          (.cons ⟨stepOf_of_reply (by decide +kernel), nofun, nofun, hcurrent⟩ (.nil _))))
  exact ⟨_, hrun, by decide +kernel, requests_obeyed _ Hlcs.readyStarted_started hrun⟩

end FakeFreeRtos
