import FakeFreeRtos.Lock.Teardown
import FakeFreeRtos.Queue.Tenancy

/-!
# The lock service is a tenant of the library

A program sets the service up, uses it and tears it down, any number of times and in any order, and
makes calls of its own in between (`Hlcs.SharedStep`). Whatever the service does to its event queue,
also when it fails halfway, stays with it: it deletes the queue before it forgets it
(`lease_hlcsDestroy`), so that the rest of the program finds the library as if there were no
service (`lockService_leavesNoTrace`).
-/

namespace FakeFreeRtos

open Foundations Hlcs Tenancy

variable {T : Type} (P : Platform T)

/-! ## The service works on its queue -/

namespace Hlcs

/-- The library of the program, with the event queue of the service in it. -/
def tenancy (s : Hlcs T) : Tenancy := ⟨s.vars.s_eventQueue, s.world.lib⟩

variable {s s' : Hlcs T}

theorem Keeps.uses (h : s.Keeps s') : Uses tenancy s s' := by
  obtain ⟨hworld, hvars, -⟩ := h
  exact uses_of_eq (by rw [tenancy, tenancy, hworld.lib, hvars])

theorem usesAt_onLib {α : Type} {h : Handle} {x : Api α} (hx : Ensures (Lib.Serves h) x) :
    Ensures (UsesAt (tenancy (T := T)) h) (onWorld (onLib x)) := by
  rintro s rfl
  have hs := hx s.world.lib
  rw [run_onWorld, run_onLib]
  cases hr : EStateM.run x s.world.lib with
  | ok a lib => exact ⟨rfl, by rwa [hr] at hs⟩
  | error e lib => exact ⟨rfl, by rwa [hr] at hs⟩

/-- A function may read the handle of the event queue first. -/
theorem uses_of_handle {α : Type} {f : HlcsVars → HlcsApi T α}
    (hf : ∀ v, Ensures (UsesAt tenancy v.s_eventQueue) (f v)) :
    Ensures (Uses tenancy) (hlcsVars >>= f) := fun s => hf s.vars s rfl

end Hlcs

/-- An assignment to variables other than the queue. -/
theorem uses_hlcsAssign {f : HlcsVars → HlcsVars}
    (hqueue : ∀ v, (f v).s_eventQueue = v.s_eventQueue) :
    Ensures (Uses (tenancy (T := T))) (hlcsAssign f) :=
  fun s => uses_of_eq (congrArg (Tenancy.mk · s.world.lib) (hqueue s.vars))

theorem uses_hlcsPush (position : BaseType) (sig : Signal) :
    Ensures (Uses (tenancy (T := T))) (hlcsPush position sig) :=
  uses_of_handle fun _ => (usesAt_onLib (serves_xQueueGenericSend _ _)).bind fun _ =>
    .ite (fun _ => ensures_configASSERT_hlcs _) fun _ => .pure _

theorem uses_allows : Allows (Uses (tenancy (T := T))) where
  output _ := fun _ => uses_of_eq rfl
  assign _ hqueue _ := uses_hlcsAssign hqueue
  push _ _ _ := uses_hlcsPush _ _

theorem uses_hlcsProcessOneEvent (option : ExecutionOption) (hw : HwLockCtrl) :
    Ensures (Uses (tenancy (T := T))) (hlcsProcessOneEvent option hw) := by
  have hexit : Ensures (Uses (tenancy (T := T)))
      (hlcsAssign fun v => { v with s_exitThread := true }) := uses_hlcsAssign fun _ => rfl
  refine uses_of_handle fun v => .ite
    (fun _ => Ensures.bind (.map _ (usesAt_onLib (ensures_uxQueueMessagesWaiting _))) ?_)
    fun _ => Ensures.bind (.pure _) ?_
  all_goals
    refine fun idle => .ite (fun _ => .pure _) fun _ =>
      (usesAt_onLib (serves_xQueueReceive _)).bind fun r => .ite (fun _ => .pure _) fun _ =>
        .ite (fun _ => ?_) fun _ => ?_
    · exact ensures_usesAt (hexit.bind fun _ => .pure _)
    · exact ensures_usesAt ((uses_allows.ensures_hlcsSmProcess hw _).bind fun _ => .pure _)

/-- A call of the library outside the queue modules. -/
theorem uses_onWorld {α : Type} {x : WorldApi T α} (hx : Ensures World.Keeps x) :
    Ensures (Uses tenancy) (onWorld x) := (ensures_onWorld hx).mono fun _ _ h => h.uses

theorem uses_hlcsStart (option : ExecutionOption) (hw : HwLockCtrl) :
    Ensures (Uses tenancy) (hlcsStart P option hw) := by
  refine ensures_hlcsVars.bind fun v => (ensures_configASSERT_hlcs _).bind fun _ =>
    (ensures_configASSERT_hlcs _).bind fun _ => .ite
      (fun _ => (uses_onWorld (.pure _)).bind fun _ => (ensures_configASSERT_hlcs _).bind ?_)
      fun _ => (uses_allows.ensures_hlcsSmInitialize hw).bind ?_
  all_goals
    exact fun _ => (uses_onWorld (ensures_xTaskGetTickCount P)).bind fun _ =>
      (uses_onWorld (ensures_xTimerGenericCommandFromTask P _ _ _)).bind fun _ =>
        ensures_configASSERT_hlcs _

theorem uses_exec (c : HlcsCall) : Ensures (Uses tenancy) (c.exec P) := by
  cases c with
  | start option hw => exact .map _ (uses_hlcsStart P option hw)
  | requestLocked => exact .map _ (uses_hlcsPush _ _)
  | requestUnlocked => exact .map _ (uses_hlcsPush _ _)
  | requestSelfTest => exact .map _ (uses_hlcsPush _ _)
  | checkCurrentTimer => exact .map _ (uses_hlcsPush _ _)
  | processOneEvent option hw => exact .map _ (uses_hlcsProcessOneEvent option hw)
  | registerChangeState callback => exact .map _ (uses_hlcsAssign fun _ => rfl)
  | registerSelfTestResult callback => exact .map _ (uses_hlcsAssign fun _ => rfl)
  | moveTimeForward duration => exact .map _ (uses_onWorld (ensures_moveTimeForward P duration))

/-! ## Moving in and out -/

section Life

variable {Q : Hlcs T → Hlcs T → Prop} [IsPreorder (Hlcs T) Q] (lease : Lease tenancy Q)

include lease

/-- **The setup** takes a vacant address, also when it fails after that. -/
theorem lease_hlcsInit {s : Hlcs T} {addr : Handle} (ha : s.world.lib.Vacant addr)
    (callback : UInt64) : Q s (finalState (EStateM.run (hlcsInit P addr callback) s)) := by
  have hcreate : EStateM.run (onWorld (onLib (xQueueCreate addr hlcsQueueDepth sizeofHlcsEvent)))
      s = .ok addr { s with world := s.world.withEventQueue addr } :=
    run_onWorld_of_ok (run_xQueueGenericCreate ha.fresh ..)
  refine Ensures.bind_reads rfl ?_
  rintro v ⟨⟩
  refine ensures_configASSERT_bind fun _ => ensures_configASSERT_bind fun _ =>
    ensures_configASSERT_bind fun hqueue => ensures_configASSERT_bind fun _ =>
    ensures_configASSERT_bind fun _ => ensures_configASSERT_bind fun _ =>
    ensures_configASSERT_bind fun _ => ensures_configASSERT_bind fun _ =>
    ensures_configASSERT_bind fun _ => ?_
  rw [EStateM.run_bind, hcreate]
  have hrents : Q s ⟨s.world.withEventQueue addr, { s.vars with s_eventQueue := addr },
      s.outputs⟩ :=
    lease.rents _ _ hqueue ha (Lib.onlyAt_write _ ha.fresh.1 rfl (by decide))
  have hcreate : Ensures (Uses tenancy) (onWorld (xTimerCreate P (some "current")
      (pdMS_TO_TICKS P.configTICK_RATE_HZ 5000) pdTRUE 0 callback)) :=
    uses_onWorld (ensures_xTimerCreate P _ _ _ _ _)
  have htimer : Ensures (Uses tenancy) (do
      configASSERT (addr ≠ nullptr)
      let timer ← onWorld (xTimerCreate P (some "current")
        (pdMS_TO_TICKS P.configTICK_RATE_HZ 5000) pdTRUE 0 callback)
      hlcsAssign fun v => { v with s_timer := timer }
      configASSERT (timer ≠ 0)) :=
    (ensures_configASSERT_hlcs _).bind fun _ => hcreate.bind fun timer =>
      (uses_hlcsAssign (f := fun v => { v with s_timer := timer }) fun _ => rfl).bind fun _ =>
        ensures_configASSERT_hlcs _
  exact trans_of _ hrents (lease.uses _ _ (htimer _))

/-- The service has no queue. -/
def Hlcs.Gone (s : Hlcs T) : Prop :=
  s.vars.s_eventQueue = nullptr ∨ s.world.lib.lookup s.vars.s_eventQueue = none

/-- Clearing the variables, without a queue. -/
theorem lease_clear {s : Hlcs T} (hgone : s.Gone) (timer : TimerHandle) :
    Q s (finalState (EStateM.run (do
      if timer ≠ 0 then
        let _ ← onWorld (xTimerGenericCommandFromTask P timer tmrCOMMAND_DELETE 0)
        hlcsAssign fun v => { v with s_timer := 0 }
      hlcsAssign fun v => { v with
        s_lockState := .HLCS_LOCK_STATE_UNKNOWN
        s_eventQueue := nullptr
        s_stateChangedCallback := 0
        s_selfTestResultCallback := 0
        s_currentState := none
        s_stateHistory := none
        s_exitThread := false
        s_thread := 0 }) s)) := by
  have hforgets : ∀ s' : Hlcs T, s'.Gone → ∀ v : HlcsVars, v.s_eventQueue = nullptr →
      Q s' { s' with vars := v } := fun s' hgone v hv => lease.forgets _ _ hgone hv rfl
  dsimp only
  split
  · have hdelete := uses_onWorld (ensures_xTimerGenericCommandFromTask P timer tmrCOMMAND_DELETE 0)
    refine Ensures.bind_at (lease.uses _ _ (hdelete s)) fun r s₁ hrun => ?_
    obtain ⟨w, hreturn, rfl⟩ := run_onWorld_eq_ok.mp hrun
    have hlib := ((ensures_xTimerGenericCommandFromTask P _ _ _).of_run_eq_ok hreturn).lib
    refine hforgets _ ?_ _ rfl
    rw [Gone, hlib]
    exact hgone
  · exact hforgets s hgone _ rfl

/-- **The teardown** deletes the queue before it forgets it, or leaves both in place. -/
theorem lease_hlcsDestroy : Ensures Q (hlcsDestroy P) := fun s => by
  refine Ensures.bind_reads rfl ?_
  rintro v ⟨⟩
  have hclear : ∀ s' : Hlcs T, s'.Gone → Q s' _ := fun s' hgone =>
    lease_clear P lease hgone s.vars.s_timer
  dsimp only
  split
  · have hexit := uses_hlcsAssign (T := T) (f := fun v => { v with s_exitThread := true })
      fun _ => rfl
    have hpush := uses_hlcsPush (T := T) queueSEND_TO_FRONT .SIG_REQUEST_THREAD_EXIT
    refine Ensures.bind_at (lease.uses _ _ (hexit s)) fun _ s₁ h₁ => ?_
    refine Ensures.bind_at (lease.uses _ _ (hpush s₁)) fun _ s₂ h₂ => ?_
    refine Ensures.bind_at (refl_of _ s₂) fun _ s₃ h₃ => ?_
    cases h₃
    have hhandle : s₂.vars.s_eventQueue = s.vars.s_eventQueue :=
      (hpush.of_run_eq_ok h₂).handle.trans (hexit.of_run_eq_ok h₁).handle
    refine Ensures.bind_at (lease.uses _ _ (usesAt_onLib serves_vQueueDelete s₂ hhandle))
      fun _ s₄ h₄ => hclear s₄ (.inr ?_)
    obtain ⟨w, hdelete, rfl⟩ := run_onWorld_eq_ok.mp h₄
    obtain ⟨lib, hgone, rfl⟩ := run_onLib_eq_ok.mp hdelete
    exact hhandle ▸ lookup_of_run_vQueueDelete hgone
  · exact hclear s (.inl (not_not.mp ‹_›))

end Life

/-! ## A program with the service -/

/-- A call of the service over its whole life. -/
inductive HlcsLifeCall
  | init (addr : Handle) (callback : UInt64)
  | call (c : HlcsCall)
  | destroy

/-- The function that a call calls. -/
def HlcsLifeCall.exec : HlcsLifeCall → HlcsApi T Value
  | .init addr callback => (fun _ => .unit) <$> hlcsInit P addr callback
  | .call c => c.exec P
  | .destroy => (fun _ => .unit) <$> hlcsDestroy P

/-- The allocator answers a vacant address. -/
def HlcsLifeCall.Granted (lib : Lib) : HlcsLifeCall → Prop
  | .init addr _ => lib.Vacant addr
  | _ => True

/-- The program calls the service, for which the allocator answers a vacant address, or makes
another call of the library, which is not given the service's event queue. Nothing undefined
happens. -/
inductive Hlcs.SharedStep : Hlcs T → HlcsLifeCall ⊕ Call → Reply → Hlcs T → Prop
  | service {s s' : Hlcs T} {c : HlcsLifeCall} {r : Reply} (h : StepOf (c.exec P) s r s')
      (hd : r.Defined) (ha : c.Granted s.world.lib) :
      SharedStep s (.inl c) r s'
  | others {s : Hlcs T} {c : Call} {r : Reply} {lib : Lib} (h : s.world.lib.Step c r lib)
      (hd : r.Defined) (hh : ∀ h ∈ c.handles, h = nullptr ∨ h ≠ s.vars.s_eventQueue) :
      SharedStep s (.inr c) r { s with world := { s.world with lib } }

variable {P} {s s' : Hlcs T} {tr : List ((HlcsLifeCall ⊕ Call) × Reply)}

/-- The whole life of the service keeps to the lease. -/
theorem HlcsLifeCall.keeps {Q : Hlcs T → Hlcs T → Prop} [IsPreorder (Hlcs T) Q]
    (lease : Lease tenancy Q) {c : HlcsLifeCall} {r : Reply} (hstep : StepOf (c.exec P) s r s')
    (ha : c.Granted s.world.lib) : Q s s' := by
  cases c with
  | init addr callback =>
    rw [← hstep.finalState_eq, HlcsLifeCall.exec, finalState_run_map]
    exact lease_hlcsInit P lease ha callback
  | call c => exact lease.uses _ _ (StepOf.of_ensures (uses_exec P c) hstep)
  | destroy => exact StepOf.of_ensures (.map _ (lease_hlcsDestroy P lease)) hstep

/-- **The lock service leaves no trace.** However a program sets the service up, uses it and tears
it down, its own calls of the library are answered as if there were no service, and every queue but
that of the service is as if there were none. -/
theorem lockService_leavesNoTrace (hdown : s.vars.s_eventQueue = nullptr)
    (hrun : Run (SharedStep P) s tr s') :
    ∃ t, Run Lib.Step s.world.lib (project Sum.getRight? tr) t ∧
      (∀ x, x ≠ nullptr → x ≠ s'.vars.s_eventQueue → s'.world.lib.lookup x = t.lookup x) ∧
      s'.world.lib.s_mutexes = t.s_mutexes := by
  have hothers : ∀ (s : Hlcs T) c r s', s.SharedStep P (.inr c) r s' →
      s'.vars.s_eventQueue = s.vars.s_eventQueue ∧
      (∀ h ∈ c.handles, h = nullptr ∨ h ≠ s.vars.s_eventQueue) ∧
      s.world.lib.Step c r s'.world.lib := fun s c r s' h => by
    cases h with
    | others hstep hd hh => exact ⟨rfl, hh, hstep⟩
  have hown : ∀ (s : Hlcs T) c r s', s.SharedStep P (.inl c) r s' →
      Discreet ∅ tenancy s s' := fun _ _ _ _ h => by
    cases h with
    | service hstep hd ha => exact HlcsLifeCall.keeps (discreet_lease ∅) hstep ha
  obtain ⟨t, htrun, hhidden⟩ := Tenancy.leavesNoTrace hown hothers hrun hdown
  refine ⟨t, htrun, fun x hn hx => hhidden.lookup_eq hn ?_, hhidden.s_mutexes⟩
  exact fun hroom => hx hroom.2

/-- The service comes and goes; then another queue takes the address of its event queue. -/
def cameAndWent : List ((HlcsLifeCall ⊕ Call) × Reply) :=
  [(.inl (.init 1 64), .returned .unit),
    (.inr (.create 9 4 1 queueQUEUE_TYPE_BASE), .returned (.handle 9)),
    (.inl (.call (.start .EXECUTION_OPTION_UNIT_TEST .working)), .returned .unit),
    (.inl (.call .requestUnlocked), .returned .unit),
    (.inr (.send 9 (some [7]) queueSEND_TO_BACK), .returned (.code pdTRUE)),
    (.inl .destroy, .returned .unit),
    (.inr (.create 1 2 1 queueQUEUE_TYPE_BASE), .returned (.handle 1)),
    (.inr (.messagesWaiting 9), .returned (.count 1))]

theorem lockService_leavesNoTrace_cameAndWent : ∃ s : Hlcs ListedTimers,
    Run (SharedStep Platform.listed) Hlcs.ready cameAndWent s ∧
    ∃ t, Run Lib.Step Hlcs.ready.world.lib (project Sum.getRight? cameAndWent) t ∧
      (∀ x, x ≠ nullptr → x ≠ s.vars.s_eventQueue → s.world.lib.lookup x = t.lookup x) ∧
      s.world.lib.s_mutexes = t.s_mutexes := by
  have hvacant : Hlcs.ready.world.lib.Vacant 1 :=
    ⟨Lib.legal_init.unused (by simp [Lib.Fresh, nullptr]), fun l hl => by cases hl⟩
  have hrun : ∃ s : Hlcs ListedTimers, Run (SharedStep Platform.listed) Hlcs.ready cameAndWent s :=
    ⟨_, .cons (.service (stepOf_of_reply (by decide +kernel)) (by decide) hvacant)
      (.cons (.others (Lib.step_of_outcome (by decide +kernel)) (by decide)
        (handles_of_all (by decide +kernel)))
      (.cons (.service (stepOf_of_reply (by decide +kernel)) (by decide) trivial)
      (.cons (.service (stepOf_of_reply (by decide +kernel)) (by decide) trivial)
      (.cons (.others (Lib.step_of_outcome (by decide +kernel)) (by decide)
        (handles_of_all (by decide +kernel)))
      (.cons (.service (stepOf_of_reply (by decide +kernel)) (by decide) trivial)
      (.cons (.others (Lib.step_of_outcome (by decide +kernel)) (by decide)
        (handles_of_all (by decide +kernel)))
      (.cons (.others (Lib.step_of_outcome (by decide +kernel)) (by decide)
        (handles_of_all (by decide +kernel)))
      (.nil _))))))))⟩
  obtain ⟨s, hrun⟩ := hrun
  exact ⟨s, hrun, lockService_leavesNoTrace rfl hrun⟩

end FakeFreeRtos
