import FakeFreeRtos.Clock.Ticks
import FakeFreeRtos.Lock.Requests

/-!
# Tearing the lock service down

`HLCS_Destroy` posts an event to the service's own queue before it releases anything, so it trips
an assertion when the queue is full, and leaves every variable but one as it was. With room in the
queue it deletes the queue and the timer and resets every variable (`tornDown_iff`). What is needed
of the timer engine is that a timer exists from its creation to its deletion (`TimerLaws`).
-/

namespace FakeFreeRtos

open Foundations Hlcs

variable {T : Type} (P : Platform T)

/-! ## The timer -/

/-- What the timer engine promises: a timer exists once it is created, starting a timer and moving
time forward do not end it, and an existing timer can be deleted. -/
structure TimerLaws (F : FakeTimers T) (Live : T → UInt64 → Prop) : Prop where
  create : ∀ t name period behavior context callback,
    Live (F.timerCreate t name period behavior context callback).2
      (F.timerCreate t name period behavior context callback).1
  start : ∀ t handle, Live t handle → Live (F.timerStart t handle).2 handle
  move : ∀ t handle duration, Live t handle → Live (F.moveTimeForward t duration) handle
  delete : ∀ t handle, Live t handle →
    (F.timerDelete t handle).1 = true ∧ ¬ Live (F.timerDelete t handle).2 handle

/-- The timer at `timer` exists. -/
def World.HasTimer (Live : T → UInt64 → Prop) (w : World T) (timer : TimerHandle) : Prop :=
  timer ≠ 0 ∧ ∃ t, w.s_fakeTimers = some t ∧ Live t (pointerToHandle P timer)

section Timer

variable {P} {w w' : World T} {t : T} {timer : TimerHandle}

theorem run_timerCommand_start (h : w.s_fakeTimers = some t) (htimer : timer ≠ 0)
    (tickCount : TickType) :
    EStateM.run (xTimerGenericCommandFromTask P timer tmrCOMMAND_START tickCount) w =
      EStateM.run ((fun _ => pdPASS) <$> checkedOperation fun t =>
        P.timerStart t (pointerToHandle P timer)) w := by
  simp [xTimerGenericCommandFromTask, assertTimers, h, htimer]

theorem run_timerCommand_delete (h : w.s_fakeTimers = some t) (htimer : timer ≠ 0)
    (optionalValue : TickType) :
    EStateM.run (xTimerGenericCommandFromTask P timer tmrCOMMAND_DELETE optionalValue) w =
      EStateM.run ((fun _ => pdPASS) <$> checkedOperation fun t =>
        P.timerDelete t (pointerToHandle P timer)) w := by
  have hne : tmrCOMMAND_DELETE ≠ tmrCOMMAND_START := by decide
  simp [xTimerGenericCommandFromTask, assertTimers, h, htimer, hne]

/-- The handle that a creation returns is that of the timer that the engine has created. -/
theorem of_run_xTimerCreate {name : Option String} {ticks : TickType} {autoReload : BaseType}
    {timerID callback : UInt64}
    (h : EStateM.run (xTimerCreate P name ticks autoReload timerID callback) w = .ok timer w') :
    ∃ t period behavior,
      timer = handleToPointer P (P.timerCreate t name period behavior timerID callback).1 ∧
      w'.s_fakeTimers = some (P.timerCreate t name period behavior timerID callback).2 := by
  rw [xTimerCreate] at h
  obtain ⟨_, _, -, h⟩ := run_bind_eq_ok.mp h
  obtain ⟨t, _, -, h⟩ := run_bind_eq_ok.mp h
  obtain ⟨period, _, -, h⟩ := run_bind_eq_ok.mp h
  obtain ⟨_, _, hupdate, h⟩ := run_bind_eq_ok.mp h
  cases hupdate
  cases h
  exact ⟨t, period, _, rfl, rfl⟩

variable {Live : T → UInt64 → Prop} (laws : TimerLaws P.toFakeTimers Live)

include laws

/-- Starting a timer keeps it. -/
theorem World.HasTimer.start (h : w.HasTimer P Live timer) {tickCount : TickType} {r : BaseType}
    (hrun : EStateM.run (xTimerGenericCommandFromTask P timer tmrCOMMAND_START tickCount) w =
      .ok r w') : w'.HasTimer P Live timer := by
  obtain ⟨hne, t, ht, hexists⟩ := h
  rw [run_timerCommand_start ht hne, run_map_eq_ok] at hrun
  obtain ⟨_, hrun, -⟩ := hrun
  rw [run_checkedOperation ht] at hrun
  split at hrun
  · cases hrun
    exact ⟨hne, _, rfl, laws.start t _ hexists⟩
  · cases hrun

theorem World.HasTimer.move (h : w.HasTimer P Live timer) {duration : ℤ} {u : Unit}
    (hrun : EStateM.run (moveTimeForward P duration) w = .ok u w') :
    w'.HasTimer P Live timer := by
  obtain ⟨hne, t, ht, hexists⟩ := h
  have hmove : EStateM.run (moveTimeForward P duration) w =
      .ok () { w with s_fakeTimers := some (P.moveTimeForward t duration) } := by
    simp [moveTimeForward, assertTimers, theTimers, updateTimers, ht]
  rw [hmove] at hrun
  cases hrun
  exact ⟨hne, _, rfl, laws.move t _ duration hexists⟩

/-- An existing timer can be deleted. -/
theorem World.HasTimer.delete (h : w.HasTimer P Live timer) (optionalValue : TickType) :
    ∃ t, EStateM.run (xTimerGenericCommandFromTask P timer tmrCOMMAND_DELETE optionalValue) w =
        .ok pdPASS { w with s_fakeTimers := some t } ∧
      ¬ Live t (pointerToHandle P timer) := by
  obtain ⟨hne, t, ht, hexists⟩ := h
  obtain ⟨hok, hgone⟩ := laws.delete t _ hexists
  refine ⟨_, ?_, hgone⟩
  rw [run_timerCommand_delete ht hne, run_map, run_checkedOperation ht, if_pos hok]

end Timer

/-! ## What the service retains -/

namespace Hlcs

/-- The event queue is live at `addr` and holds signals, none of which ends the thread. -/
def Holds (s : Hlcs T) (addr : Handle) : Prop :=
  ∃ sigs : List Signal, s.Queued addr (sigs.map Signal.bytes) ∧ sigs.length ≤ hlcsQueueDepth ∧
    Signal.SIG_REQUEST_THREAD_EXIT ∉ sigs

theorem Holds.congr {s s' : Hlcs T} {addr : Handle} (h : s.Holds addr)
    (hlib : s'.world.lib = s.world.lib) (hqueue : s'.vars.s_eventQueue = s.vars.s_eventQueue) :
    s'.Holds addr := by
  obtain ⟨sigs, hqueued, hrest⟩ := h
  exact ⟨sigs, hqueued.congr hlib hqueue, hrest⟩

/-- The event queue stays live, and the timer is left alone. -/
structure Retains (s s' : Hlcs T) : Prop where
  holds : ∀ addr, s.Holds addr → s'.Holds addr
  s_fakeTimers : s'.world.s_fakeTimers = s.world.s_fakeTimers
  s_timer : s'.vars.s_timer = s.vars.s_timer

instance : IsPreorder (Hlcs T) Retains where
  refl _ := ⟨fun _ => id, rfl, rfl⟩
  trans _ _ _ h h' := ⟨fun addr => h'.holds addr ∘ h.holds addr,
    h'.s_fakeTimers.trans h.s_fakeTimers, h'.s_timer.trans h.s_timer⟩

/-- The timer is left alone. -/
structure KeepsTimer (s s' : Hlcs T) : Prop where
  s_fakeTimers : s'.world.s_fakeTimers = s.world.s_fakeTimers
  s_timer : s'.vars.s_timer = s.vars.s_timer

instance : IsPreorder (Hlcs T) KeepsTimer where
  refl _ := ⟨rfl, rfl⟩
  trans _ _ _ h h' := ⟨h'.s_fakeTimers.trans h.s_fakeTimers, h'.s_timer.trans h.s_timer⟩

end Hlcs

section Retains

variable {s : Hlcs T}

theorem ensures_configASSERT_hlcs {R : Hlcs T → Hlcs T → Prop} [IsPreorder (Hlcs T) R] (x : Prop)
    [Decidable x] : Ensures R (configASSERT x) :=
  .of_reads fun s => by by_cases h : x <;> simp [h]

theorem ensures_hlcsVars {R : Hlcs T → Hlcs T → Prop} [IsPreorder (Hlcs T) R] :
    Ensures R hlcsVars := .of_reads fun _ => rfl

theorem ensures_handled {R : Hlcs T → Hlcs T → Prop} [IsPreorder (Hlcs T) R] :
    Ensures R handled := .of_reads fun _ => rfl

/-- No call of the queue modules touches the timer. -/
theorem ensures_onLib {α : Type} (x : Api α) : Ensures (KeepsTimer (T := T)) (onWorld (onLib x)) :=
  fun s => by
    rw [run_onWorld, run_onLib]
    cases EStateM.run x s.world.lib with
    | ok a lib => exact ⟨rfl, rfl⟩
    | error e lib => exact ⟨rfl, rfl⟩

theorem ensures_hlcsPush_keepsTimer (position : BaseType) (sig : Signal) :
    Ensures (KeepsTimer (T := T)) (hlcsPush position sig) :=
  ensures_hlcsVars.bind fun _ => (ensures_onLib _).bind fun _ =>
    .ite (fun _ => ensures_configASSERT_hlcs _) fun _ => .pure _

theorem ensures_hlcsPush (e : Side) {sig : Signal} (hsig : sig ≠ .SIG_REQUEST_THREAD_EXIT) :
    Ensures (Retains (T := T)) (hlcsPush (copyPosition e) sig) := fun s => by
  obtain ⟨htimers, htimer⟩ := ensures_hlcsPush_keepsTimer (copyPosition e) sig s
  refine ⟨fun addr h => ?_, htimers, htimer⟩
  obtain ⟨sigs, hqueued, hlen, hexit⟩ := h
  rw [run_hlcsPush hqueued, List.length_map]
  by_cases hroom : sigs.length < hlcsQueueDepth
  · rw [if_pos hroom, ← BoundedDeque.map_pushItems]
    refine ⟨_, hqueued.withEvents _, ?_, ?_⟩
    · rwa [BoundedDeque.length_pushItems]
    · rw [BoundedDeque.mem_pushItems]
      exact not_or.mpr ⟨hsig.symm, hexit⟩
  · rw [if_neg hroom]
    exact ⟨sigs, hqueued, hlen, hexit⟩

/-- A relation that outputs, assignments to variables other than the queue and the timer, and
postings of a signal that does not end the thread all ensure. -/
structure Hlcs.Allows (R : Hlcs T → Hlcs T → Prop) : Prop where
  output : ∀ o, Ensures R (hlcsOutput o)
  assign : ∀ f : HlcsVars → HlcsVars, (∀ v, (f v).s_eventQueue = v.s_eventQueue) →
    (∀ v, (f v).s_timer = v.s_timer) → Ensures R (hlcsAssign f)
  push : ∀ (e : Side) (sig : Signal), sig ≠ .SIG_REQUEST_THREAD_EXIT →
    Ensures R (hlcsPush (copyPosition e) sig)

namespace Hlcs.Allows

variable {R : Hlcs T → Hlcs T → Prop} [IsPreorder (Hlcs T) R] (hR : Allows R)

include hR

theorem ensures_hlcsNotifyChangedState (state : HlcsLockState) :
    Ensures R (hlcsNotifyChangedState state) :=
  (hR.assign (fun v => { v with s_lockState := state }) (fun _ => rfl)
    fun _ => rfl).bind fun _ => ensures_hlcsVars.bind fun _ =>
      .ite (fun _ => hR.output _) fun _ => .pure _

theorem ensures_hlcsNotifySelfTestResult (result : HlcsSelfTestResult) :
    Ensures R (hlcsNotifySelfTestResult result) :=
  ensures_hlcsVars.bind fun _ => .ite (fun _ => hR.output _) fun _ => .pure _

theorem ensures_hlcsDoCurrentCheck (hw : HwLockCtrl) :
    Ensures R (hlcsDoCurrentCheck hw) :=
  (hR.output _).bind fun _ => ensures_configASSERT_hlcs _

theorem ensures_hlcsPerformSelfTest (hw : HwLockCtrl) :
    Ensures R (hlcsPerformSelfTest hw) := by
  have hreturn : ∀ result, Ensures R (do
      hlcsNotifySelfTestResult result
      let v ← hlcsVars
      if v.s_stateHistory = some .HLCS_SmUnlocked then hlcsPushUrgentEvent .SIG_REQUEST_UNLOCKED
      else hlcsPushUrgentEvent .SIG_REQUEST_LOCKED) := fun result =>
    (hR.ensures_hlcsNotifySelfTestResult result).bind fun _ => ensures_hlcsVars.bind fun _ =>
      .ite (fun _ => hR.push .front _ (by decide)) fun _ =>
        hR.push .front _ (by decide)
  exact (hR.output _).bind fun _ => .ite (fun _ => hreturn _) fun _ => hreturn _

/-- Leaving a position records it. -/
theorem ensures_recordHistory (f : StateFunc) : Ensures R (do
    let rtn ← handled
    hlcsAssign fun v => { v with s_stateHistory := some f }
    pure rtn) :=
  ensures_handled.bind fun _ =>
    (hR.assign (fun v => { v with s_stateHistory := some f }) (fun _ => rfl)
      fun _ => rfl).bind fun _ => .pure _

theorem ensures_hlcsSmLocked (hw : HwLockCtrl) (ev : Option Signal) :
    Ensures R (hlcsSmLocked hw ev) := by
  cases ev with
  | none => exact ensures_handled
  | some sig =>
    cases sig with
    | SM_ENTER =>
      exact (hR.output _).bind fun _ => (hR.ensures_hlcsNotifyChangedState _).bind fun _ =>
        ensures_handled
    | SM_EXIT => exact hR.ensures_recordHistory .HLCS_SmLocked
    | SIG_REQUEST_LOCKED => exact ensures_handled
    | SIG_REQUEST_UNLOCKED => exact .pure _
    | SIG_REQUEST_SELF_TEST => exact .pure _
    | SIG_REQUEST_CURRENT_CHECK =>
      exact (hR.ensures_hlcsDoCurrentCheck hw).bind fun _ => ensures_handled
    | SIG_REQUEST_THREAD_EXIT => exact ensures_handled

theorem ensures_hlcsSmUnlocked (hw : HwLockCtrl) (ev : Option Signal) :
    Ensures R (hlcsSmUnlocked hw ev) := by
  cases ev with
  | none => exact ensures_handled
  | some sig =>
    cases sig with
    | SM_ENTER =>
      exact ensures_handled.bind fun _ => (hR.output _).bind fun _ =>
        (hR.ensures_hlcsNotifyChangedState _).bind fun _ => .pure _
    | SM_EXIT => exact hR.ensures_recordHistory .HLCS_SmUnlocked
    | SIG_REQUEST_LOCKED => exact .pure _
    | SIG_REQUEST_UNLOCKED => exact ensures_handled
    | SIG_REQUEST_SELF_TEST => exact .pure _
    | SIG_REQUEST_CURRENT_CHECK =>
      exact (hR.ensures_hlcsDoCurrentCheck hw).bind fun _ => ensures_handled
    | SIG_REQUEST_THREAD_EXIT => exact ensures_handled

theorem ensures_hlcsSmSelfTest (hw : HwLockCtrl) (ev : Option Signal) :
    Ensures R (hlcsSmSelfTest hw ev) := by
  cases ev with
  | none => exact ensures_handled
  | some sig =>
    cases sig with
    | SM_ENTER => exact (hR.ensures_hlcsPerformSelfTest hw).bind fun _ => ensures_handled
    | SIG_REQUEST_LOCKED => exact .pure _
    | SIG_REQUEST_UNLOCKED => exact .pure _
    | _ => exact ensures_handled

theorem ensures_callCurrentState (hw : HwLockCtrl) (ev : Option Signal) :
    Ensures R (callCurrentState hw ev) := by
  refine ensures_hlcsVars.bind fun v => ?_
  cases v.s_currentState with
  | none => exact .of_reads fun _ => rfl
  | some f =>
    cases f with
    | HLCS_SmInitialPseudoState => exact (hR.output _).bind fun _ => .pure _
    | HLCS_SmLocked => exact hR.ensures_hlcsSmLocked hw ev
    | HLCS_SmUnlocked => exact hR.ensures_hlcsSmUnlocked hw ev
    | HLCS_SmSelfTest => exact hR.ensures_hlcsSmSelfTest hw ev

omit [IsPreorder (Hlcs T) R] in
theorem ensures_setCurrentState (f : Option StateFunc) : Ensures R
    (hlcsAssign fun v => { v with s_currentState := f }) :=
  hR.assign _ (fun _ => rfl) fun _ => rfl

theorem ensures_hlcsSmProcess (hw : HwLockCtrl) (ev : Option Signal) :
    Ensures R (hlcsSmProcess hw ev) :=
  (hR.ensures_callCurrentState hw ev).bind fun _ => ensures_hlcsVars.bind fun _ =>
    .ite (fun _ => (hR.ensures_callCurrentState hw _).bind fun _ =>
      (hR.ensures_setCurrentState _).bind fun _ => (hR.ensures_callCurrentState hw _).bind fun _ =>
        .pure _) fun _ => .pure _

theorem ensures_hlcsSmInitialize (hw : HwLockCtrl) :
    Ensures R (hlcsSmInitialize hw) :=
  (hR.ensures_setCurrentState _).bind fun _ => (hR.ensures_callCurrentState hw _).bind fun _ =>
    (hR.ensures_setCurrentState _).bind fun _ =>
    (hR.ensures_callCurrentState hw _).bind fun _ => .pure _

end Hlcs.Allows

theorem retains_allows : Allows (Retains (T := T)) where
  output _ := fun _ => ⟨fun _ h => h.congr rfl rfl, rfl, rfl⟩
  assign _ hqueue htimer := fun _ => ⟨fun _ h => h.congr rfl (hqueue _), rfl, htimer _⟩
  push e _ hsig := ensures_hlcsPush e hsig

theorem ensures_hlcsProcessOneEvent_keepsTimer (option : ExecutionOption) (hw : HwLockCtrl) :
    Ensures (KeepsTimer (T := T)) (hlcsProcessOneEvent option hw) := by
  have hassign : Ensures (KeepsTimer (T := T))
      (hlcsAssign fun v => { v with s_exitThread := true }) := fun _ => ⟨rfl, rfl⟩
  have hprocess : ∀ ev, Ensures (KeepsTimer (T := T)) (hlcsSmProcess hw ev) := fun ev =>
    (retains_allows.ensures_hlcsSmProcess hw ev).mono fun _ _ h => ⟨h.s_fakeTimers, h.s_timer⟩
  refine ensures_hlcsVars.bind fun v => .ite
    (fun _ => Ensures.bind (.map _ (ensures_onLib _)) ?_) fun _ => Ensures.bind (.pure _) ?_
  all_goals
    refine fun idle => .ite (fun _ => .pure _) fun _ => (ensures_onLib _).bind fun r =>
      .ite (fun _ => .pure _) fun _ => .ite (fun _ => ?_) fun _ => ?_
    · exact hassign.bind fun _ => .pure _
    · exact (hprocess _).bind fun _ => .pure _

/-- **Whatever it does with an event**, the service retains its queue and its timer. -/
theorem ensures_hlcsProcessOneEvent (hw : HwLockCtrl) :
    Ensures (Retains (T := T)) (hlcsProcessOneEvent .EXECUTION_OPTION_UNIT_TEST hw) := fun s => by
  obtain ⟨htimers, htimer⟩ :=
    ensures_hlcsProcessOneEvent_keepsTimer .EXECUTION_OPTION_UNIT_TEST hw s
  refine ⟨fun addr h => ?_, htimers, htimer⟩
  obtain ⟨sigs, hqueued, hlen, hexit⟩ := h
  cases sigs with
  | nil =>
    rw [run_hlcsProcessOneEvent_nil hqueued hw rfl]
    exact ⟨[], hqueued, hlen, hexit⟩
  | cons sig rest =>
    rw [List.mem_cons, not_or] at hexit
    rw [run_hlcsProcessOneEvent_cons hqueued hw (Ne.symm hexit.1) (by rwa [List.length_map])]
    have hrest : (s.withEvents addr (rest.map Signal.bytes)).Holds addr :=
      ⟨rest, hqueued.withEvents _, (Nat.le_succ _).trans hlen, hexit.2⟩
    exact (Ensures.map _ (retains_allows.ensures_hlcsSmProcess hw _) _).holds addr hrest

end Retains

/-! ## The states reached -/

namespace Hlcs

/-- A call, processing without waiting, that returned. -/
structure ReturnedStep (s : Hlcs T) (c : HlcsCall) (r : Reply) (s' : Hlcs T) : Prop where
  step : s.Step P c r s'
  returned : ∃ v, r = .returned v
  unitTest : ∀ option hw, c = .start option hw ∨ c = .processOneEvent option hw →
    option = .EXECUTION_OPTION_UNIT_TEST

/-- The state is reached from `HLCS_Init` by calls that returned. -/
def Reached (s : Hlcs T) : Prop :=
  ∃ s₀ s₁ addr callback tr, EStateM.run (hlcsInit P addr callback) s₀ = .ok () s₁ ∧
    Run (ReturnedStep P) s₁ tr s

/-- The queue is live, and so is the timer. -/
structure Up (Live : T → UInt64 → Prop) (s : Hlcs T) (addr : Handle) : Prop where
  holds : s.Holds addr
  timer : s.world.HasTimer P Live s.vars.s_timer

variable {P} {Live : T → UInt64 → Prop} {s s' : Hlcs T} {addr : Handle} {c : HlcsCall} {r : Reply}

theorem Retains.up (h : s.Retains s') (hs : s.Up P Live addr) : s'.Up P Live addr := by
  refine ⟨h.holds addr hs.holds, ?_⟩
  rw [World.HasTimer, h.s_fakeTimers, h.s_timer]
  exact hs.timer

variable (laws : TimerLaws P.toFakeTimers Live)

include laws

/-- The setup brings both up. -/
theorem Up.of_init {s₀ : Hlcs T} {callback : UInt64}
    (h : EStateM.run (hlcsInit P addr callback) s₀ = .ok () s) : s.Up P Live addr := by
  obtain ⟨-, hfresh, timer, w, htimer, hcreate, rfl⟩ := (run_hlcsInit_eq_ok P).mp h
  have hkeeps := (ensures_xTimerCreate P _ _ _ _ _).of_run_eq_ok hcreate
  refine ⟨⟨[], ⟨rfl, hfresh.1, ?_⟩, Nat.zero_le _, List.not_mem_nil⟩, htimer, ?_⟩
  · rw [hkeeps.lib]
    exact Lib.lookup_write_self ..
  · obtain ⟨t, period, behavior, rfl, hw⟩ := of_run_xTimerCreate hcreate
    rw [pointerToHandle_handleToPointer]
    exact ⟨_, hw, laws.create ..⟩

/-- **Every call that returns** leaves both up. -/
theorem Up.step (hs : s.Up P Live addr) (h : s.ReturnedStep P c r s') : s'.Up P Live addr := by
  have hretains : ∀ {α : Type} {f : α → Value} {x : HlcsApi T α}, Ensures Retains x →
      StepOf (f <$> x) s r s' → s'.Up P Live addr := fun hx hstep =>
    Retains.up (StepOf.of_ensures (.map _ hx) hstep) hs
  obtain ⟨hstep, ⟨v, rfl⟩, hoption⟩ := h
  cases c with
  | start option hw =>
    obtain rfl := hoption option hw (.inl rfl)
    obtain ⟨⟨⟩, hrun, -⟩ := StepOf.returned hstep
    obtain ⟨-, -, s₁, tickCount, w₁, w₂, hinit, hcount, hstart, rfl⟩ :=
      (run_hlcsStart_eq_ok P).mp hrun
    have hretains₁ := (retains_allows.ensures_hlcsSmInitialize hw).of_run_eq_ok hinit
    obtain ⟨hholds₁, htimer₁⟩ := hretains₁.up hs
    rw [run_xTaskGetTickCount] at hcount
    cases hcount
    rw [← hretains₁.s_timer] at hstart
    have hkeeps := (ensures_xTimerGenericCommandFromTask P _ _ _).of_run_eq_ok hstart
    exact ⟨hholds₁.congr hkeeps.lib rfl, htimer₁.start laws hstart⟩
  | requestLocked => exact hretains (ensures_hlcsPush .back (by decide)) hstep
  | requestUnlocked => exact hretains (ensures_hlcsPush .back (by decide)) hstep
  | requestSelfTest => exact hretains (ensures_hlcsPush .back (by decide)) hstep
  | checkCurrentTimer => exact hretains (ensures_hlcsPush .back (by decide)) hstep
  | processOneEvent option hw =>
    obtain rfl := hoption option hw (.inr rfl)
    exact hretains (ensures_hlcsProcessOneEvent hw) hstep
  | registerChangeState callback =>
    exact hretains (retains_allows.assign (fun v => { v with s_stateChangedCallback := callback })
      (fun _ => rfl) fun _ => rfl) hstep
  | registerSelfTestResult callback =>
    exact hretains (retains_allows.assign
      (fun v => { v with s_selfTestResultCallback := callback }) (fun _ => rfl) fun _ => rfl)
      hstep
  | moveTimeForward duration =>
    obtain ⟨⟨⟩, hrun, -⟩ := StepOf.returned hstep
    obtain ⟨w, hmove, rfl⟩ := run_onWorld_eq_ok.mp hrun
    have hkeeps := (ensures_moveTimeForward P duration).of_run_eq_ok hmove
    exact ⟨hs.holds.congr hkeeps.lib rfl, hs.timer.move laws hmove⟩

/-- Both are up in every state reached. -/
theorem Reached.up (h : s.Reached P) : ∃ addr, s.Up P Live addr := by
  obtain ⟨s₀, s₁, addr, callback, tr, hinit, hrun⟩ := h
  refine ⟨addr, hrun.invariant (I := fun s => s.Up P Live addr) ?_ (.of_init laws hinit)⟩
  exact fun _ _ _ _ hs hstep => hs.step laws hstep

end Hlcs

/-! ## The teardown -/

/-- The teardown completes in `s'`: it deletes the queue and the timer and resets every variable. -/
structure TornDown (Live : T → UInt64 → Prop) (s s' : Hlcs T) : Prop where
  completes : EStateM.run (hlcsDestroy P) s = .ok () s'
  queue : s'.world.lib.lookup s.vars.s_eventQueue = none
  timer : ∃ t, s'.world.s_fakeTimers = some t ∧ ¬ Live t (pointerToHandle P s.vars.s_timer)
  vars : s'.vars = {}

variable {P} {Live : T → UInt64 → Prop} {s s' : Hlcs T} {addr : Handle}

/-- After the teardown the service can be set up again, when a queue and a timer can be created. -/
theorem TornDown.init (h : TornDown P Live s s') {timer : TimerHandle} {callback : UInt64}
    {w : World T} (hfresh : s'.world.lib.Fresh addr) (htimer : timer ≠ 0)
    (hcreate : EStateM.run (xTimerCreate P (some "current")
      (pdMS_TO_TICKS P.configTICK_RATE_HZ 5000) pdTRUE 0 callback)
      (s'.world.withEventQueue addr) = .ok timer w) :
    EStateM.run (hlcsInit P addr callback) s' =
      .ok () ⟨w, { s_eventQueue := addr, s_timer := timer }, s'.outputs⟩ :=
  (run_hlcsInit_eq_ok P).mpr ⟨h.vars, hfresh, timer, w, htimer, hcreate, rfl⟩

/-- The first assignment of the teardown. -/
def Hlcs.exiting (s : Hlcs T) : Hlcs T := { s with vars := { s.vars with s_exitThread := true } }

/-- Then an event is posted, for which it needs room. -/
theorem run_hlcsPush_threadExit {l : List Bytes} (h : s.Queued addr l) :
    EStateM.run (hlcsPushUrgentEvent .SIG_REQUEST_THREAD_EXIT) s.exiting =
      if s.pending < hlcsQueueDepth then
        .ok () (s.exiting.withEvents addr (Signal.SIG_REQUEST_THREAD_EXIT.bytes :: l))
      else .error .assertFailed s.exiting := by
  rw [pending, h.messagesAt]
  exact run_hlcsPush (s := s.exiting) (h.congr rfl rfl) .front .SIG_REQUEST_THREAD_EXIT

/-- The teardown of a service whose queue is full trips an assertion. -/
theorem run_hlcsDestroy_full (hs : s.Up P Live addr) (hfull : ¬ s.pending < hlcsQueueDepth) :
    EStateM.run (hlcsDestroy P) s = .error .assertFailed s.exiting := by
  obtain ⟨⟨sigs, hqueued, -, -⟩, -⟩ := hs
  have hqueue : s.vars.s_eventQueue ≠ nullptr := hqueued.handle ▸ hqueued.notNull
  have hpush := run_hlcsPush_threadExit hqueued
  rw [if_neg hfull, exiting] at hpush
  simp [hlcsDestroy, hqueue, hpush, exiting]

/-- With room in the queue it completes. -/
theorem run_hlcsDestroy (laws : TimerLaws P.toFakeTimers Live) (hs : s.Up P Live addr)
    (hroom : s.pending < hlcsQueueDepth) : ∃ s', TornDown P Live s s' := by
  obtain ⟨⟨sigs, hqueued, -, -⟩, htimer⟩ := hs
  have hpush := run_hlcsPush_threadExit hqueued
  rw [if_pos hroom] at hpush
  have hassign : EStateM.run (hlcsAssign fun v => { v with s_exitThread := true }) s =
      .ok () s.exiting := rfl
  obtain ⟨lib, hlib⟩ : ∃ lib, lib = (s.world.lib.write addr (hlcsEventQueue
    (Signal.SIG_REQUEST_THREAD_EXIT.bytes :: sigs.map Signal.bytes))).free addr := ⟨_, rfl⟩
  have hbase : ¬ queueQUEUE_TYPE_BASE = queueQUEUE_TYPE_MUTEX := by decide
  have hqueueDelete : EStateM.run (vQueueDelete addr) (s.exiting.withEvents addr
      (Signal.SIG_REQUEST_THREAD_EXIT.bytes :: sigs.map Signal.bytes)).world.lib = .ok () lib :=
    (run_vQueueDelete hqueued.notNull (Lib.lookup_write_self ..)).trans
      (by rw [hlib]; exact congrArg _ (congrArg (Lib.free · addr) (if_neg hbase)))
  have hdelete : EStateM.run (onWorld (onLib (vQueueDelete addr))) (s.exiting.withEvents addr
      (Signal.SIG_REQUEST_THREAD_EXIT.bytes :: sigs.map Signal.bytes)) =
      .ok () { s.exiting with world := { s.world with lib } } := run_onWorld_of_ok hqueueDelete
  have htask : ∀ s : Hlcs T, EStateM.run (onWorld vTaskDelete) s = .ok () s := fun _ => rfl
  have htimer' : ({ s.world with lib } : World T).HasTimer P Live s.vars.s_timer := htimer
  obtain ⟨t, htimerDelete, hgone⟩ := htimer'.delete laws 0
  have htimerRun : EStateM.run (onWorld (xTimerGenericCommandFromTask P s.vars.s_timer
      tmrCOMMAND_DELETE 0)) { s.exiting with world := { s.world with lib } } =
      .ok pdPASS { s.exiting with world := { s.world with lib, s_fakeTimers := some t } } :=
    run_onWorld_eq_ok.mpr ⟨_, htimerDelete, rfl⟩
  refine ⟨⟨{ s.world with lib, s_fakeTimers := some t }, {}, s.outputs⟩, ?_, ?_, ⟨t, rfl, hgone⟩,
    rfl⟩
  · rw [hlcsDestroy, EStateM.run_bind, run_hlcsVars]
    simp only [EStateM.run_bind, hqueued.handle, ne_eq, hqueued.notNull, not_false_eq_true, if_true,
      hassign, hpush, htask, hdelete, htimer.1, htimerRun]
    rfl
  · rw [hqueued.handle, hlib]
    exact Lib.lookup_free_self ..

/-- **The teardown of a service completes exactly when its event queue is not full.** -/
theorem tornDown_iff (laws : TimerLaws P.toFakeTimers Live) (hs : s.Reached P) :
    (∃ s', TornDown P Live s s') ↔ s.pending < hlcsQueueDepth := by
  obtain ⟨addr, hup⟩ := hs.up laws
  refine ⟨fun h => ?_, run_hlcsDestroy laws hup⟩
  by_contra hfull
  obtain ⟨s', hs'⟩ := h
  cases (run_hlcsDestroy_full hup hfull).symm.trans hs'.completes

/-! ## A service with ten requests -/

namespace ListedTimers

/-- The timer is in the list. -/
def Has (t : ListedTimers) (handle : UInt64) : Prop := ∃ x ∈ t.timers, x.handle = handle

variable {t : ListedTimers} {handle : UInt64}

theorem isSome_find_iff : (t.find handle).isSome ↔ t.Has handle := by
  rw [find, List.find?_isSome, Has]
  simp only [decide_eq_true_eq]

theorem Has.map (h : t.Has handle) {f : ListedTimer → ListedTimer}
    (hf : ∀ x, (f x).handle = x.handle) {now : ℤ} {created : ℕ} :
    (⟨now, created, t.timers.map f⟩ : ListedTimers).Has handle := by
  obtain ⟨x, hx, rfl⟩ := h
  exact ⟨f x, List.mem_map_of_mem hx, hf x⟩

end ListedTimers

/-- The engine with a list of timers is one. -/
theorem listed_laws : TimerLaws FakeTimers.listed ListedTimers.Has where
  create t name period behavior context callback := ⟨_, List.mem_cons_self, rfl⟩
  start t handle h := h.map (f := fun x =>
    if x.handle = handle then { x with expiry := some (t.now + x.period) } else x)
    (fun x => by split <;> rfl)
  move t handle duration h := h.map fun x => by
    rw [ListedTimers.advance]
    cases x.expiry with
    | none => rfl
    | some e =>
      dsimp only
      split
      · rfl
      · cases x.behavior <;> rfl
  delete t handle h := by
    refine ⟨ListedTimers.isSome_find_iff.mpr h, ?_⟩
    rintro ⟨x, hx, hhandle⟩
    rw [FakeTimers.listed] at hx
    exact of_decide_eq_true (List.mem_filter.mp hx).2 hhandle

/-- The service that is set up, with `i` requests pending. -/
def Hlcs.readyRequested (i : ℕ) : Hlcs ListedTimers where
  world := { Hlcs.ready.world with
    lib := Lib.init.write 1 (hlcsEventQueue (List.replicate i Signal.SIG_REQUEST_LOCKED.bytes))
    s_fakeTimers := some ⟨0, 1, [⟨1, some "current", 5000000000, .AutoReload, 0, 64, none⟩]⟩ }
  vars := { s_eventQueue := 1, s_timer := 4097 }
  outputs := []

theorem Hlcs.readyRequested_queued (i : ℕ) : (Hlcs.readyRequested i).Queued 1
    (List.replicate i Signal.SIG_REQUEST_LOCKED.bytes) :=
  ⟨rfl, by decide, Lib.lookup_write_self ..⟩

theorem Hlcs.readyRequested_pending (i : ℕ) : (Hlcs.readyRequested i).pending = i := by
  rw [pending, (Hlcs.readyRequested_queued i).messagesAt, List.length_replicate]

theorem Hlcs.readyRequested_reached {i : ℕ} (hi : i ≤ hlcsQueueDepth) :
    (Hlcs.readyRequested i).Reached Platform.listed := by
  refine ⟨Hlcs.ready, readyRequested 0, 1, 64, List.replicate i (.requestLocked, .returned .unit),
    by decide +kernel, Run.replicate readyRequested fun j hj => ⟨?_, ⟨_, rfl⟩, nofun⟩⟩
  have hpush := run_hlcsPush (readyRequested_queued j) .back .SIG_REQUEST_LOCKED
  rw [List.length_replicate, if_pos (hj.trans_le hi)] at hpush
  have hlib : (readyRequested j).withEvents 1 (BoundedDeque.pushItems
      (List.replicate j Signal.SIG_REQUEST_LOCKED.bytes) .back Signal.SIG_REQUEST_LOCKED.bytes) =
      readyRequested (j + 1) := by
    rw [withEvents, BoundedDeque.pushItems, ← List.replicate_succ']
    simp only [readyRequested, Lib.write_write]
  rw [← hlib]
  exact stepOf_of_ok hpush

/-- Nine pending requests leave room for the event of the teardown. -/
theorem tornDown_nineRequests : (Hlcs.readyRequested 9).pending = 9 ∧
    ∃ s', TornDown Platform.listed ListedTimers.Has (Hlcs.readyRequested 9) s' := by
  have hpending := Hlcs.readyRequested_pending 9
  have hreached := Hlcs.readyRequested_reached (i := 9) (by decide)
  refine ⟨hpending, (tornDown_iff listed_laws hreached).mpr ?_⟩
  rw [hpending]
  decide

/-- Ten do not: the teardown trips an assertion, and the queue, the timer and the variables stay. -/
theorem not_tornDown_tenRequests : (Hlcs.readyRequested 10).Reached Platform.listed ∧
    EStateM.run (hlcsDestroy Platform.listed) (Hlcs.readyRequested 10) =
      .error .assertFailed (Hlcs.readyRequested 10).exiting ∧
    ¬ ∃ s', TornDown Platform.listed ListedTimers.Has (Hlcs.readyRequested 10) s' := by
  have hreached := Hlcs.readyRequested_reached (i := 10) (by decide)
  obtain ⟨addr, hup⟩ := hreached.up listed_laws
  have hrun := run_hlcsDestroy_full hup (by rw [Hlcs.readyRequested_pending]; decide)
  refine ⟨hreached, hrun, ?_⟩
  rintro ⟨s', hs'⟩
  cases hrun.symm.trans hs'.completes

end FakeFreeRtos
