import FakeFreeRtos.Button.Delivery
import FakeFreeRtos.Queue.Tenancy

/-!
# The button service is a tenant of the library

A program sets the service up, uses it and tears it down, any number of times and in any order,
buttons change at any time, and the program makes calls of its own in between
(`ButtonMemory.SharedStep`). The semaphore stays with the service, and the rest of the program finds
the library as if there were no service (`buttonService_leavesNoTrace`).
-/

namespace FakeFreeRtos

open Foundations Tenancy

variable {D T : Type} (R : ButtonReader D)

namespace ButtonMemory

/-- The library of the program, with the semaphore of the service in it. -/
def tenancy (m : ButtonMemory D T) : Tenancy := ⟨m.vars.s_eventSema, m.world.lib⟩

end ButtonMemory

open ButtonMemory

/-! ## The service works on its semaphore -/

theorem usesAt_withWorld {α : Type} {h : Handle} {x : Api α} (hx : Ensures (Lib.Serves h) x) :
    Ensures (UsesAt (tenancy (D := D) (T := T)) h) (withWorld (onLib x)) := by
  rintro m rfl
  have hm := hx m.world.lib
  rw [run_withWorld, run_onLib]
  cases hr : EStateM.run x m.world.lib with
  | ok a lib => exact ⟨rfl, by rwa [hr] at hm⟩
  | error e lib => exact ⟨rfl, by rwa [hr] at hm⟩

/-- A function may read the handle of the semaphore first. -/
theorem uses_of_sema {α : Type} {f : ButtonVars → ButtonApi D T α}
    (hf : ∀ v, Ensures (UsesAt tenancy v.s_eventSema) (f v)) :
    Ensures (Uses tenancy) (buttonVars >>= f) := fun m => hf m.vars m rfl

theorem ensures_configASSERT_button {Q : ButtonMemory D T → ButtonMemory D T → Prop}
    [IsPreorder (ButtonMemory D T) Q] (p : Prop) [Decidable p] : Ensures Q (configASSERT p) :=
  .of_reads fun m => by by_cases h : p <;> simp [h]

theorem ensures_buttonVars {Q : ButtonMemory D T → ButtonMemory D T → Prop}
    [IsPreorder (ButtonMemory D T) Q] : Ensures Q buttonVars := .of_reads fun _ => rfl

/-- What changes neither the library nor the handle. -/
theorem uses_modify {f : ButtonMemory D T → ButtonMemory D T}
    (hf : ∀ m, (f m).tenancy = m.tenancy) :
    Ensures (Uses tenancy) (modify f : ButtonApi D T PUnit) := fun m => uses_of_eq (hf m)

theorem uses_buttonEvent (e : ButtonEvent) :
    Ensures (Uses (tenancy (D := D) (T := T))) (buttonEvent e) := uses_modify fun _ => rfl

theorem uses_buttonReaderRead : Ensures (Uses (tenancy (T := T))) (buttonReaderRead R) := fun _ =>
  uses_of_eq rfl

theorem uses_buttonServiceInitialize :
    Ensures (Uses (tenancy (T := T))) (buttonServiceInitialize R) := fun _ => uses_of_eq rfl

theorem uses_emit (bits : UInt16) (state : ButtonState) :
    Ensures (Uses (tenancy (D := D) (T := T))) (emit bits state) :=
  ensures_buttonVars.bind fun _ => .ite (fun _ => uses_buttonEvent _) fun _ => .pure _

theorem uses_buttonServiceIsrCallback :
    Ensures (Uses (tenancy (D := D) (T := T))) buttonServiceIsrCallback :=
  uses_of_sema fun _ => (usesAt_withWorld serves_xQueueGiveFromISR).bind fun _ => .pure _

theorem uses_buttonChange (c : Changes) : Ensures (Uses (tenancy (T := T))) (buttonChange R c) := by
  have hchange : Ensures (Uses (tenancy (D := D) (T := T)))
      (modify fun m => { m with driver := R.change c m.driver }) := uses_modify fun _ => rfl
  refine hchange.bind fun _ => (uses_buttonEvent _).bind fun _ =>
    (Ensures.of_reads (x := get) fun _ => rfl).bind fun m => ?_
  cases m.isrCallback with
  | none => exact .pure _
  | some isr => exact uses_buttonServiceIsrCallback

theorem uses_next (p : Point) : Ensures (Uses (tenancy (T := T))) (p.next R) := by
  cases p with
  | check option =>
    exact .ite (fun _ => uses_of_sema fun _ =>
      (usesAt_withWorld (ensures_uxQueueMessagesWaiting _)).bind fun _ =>
        .ite (fun _ => .pure _) fun _ => .pure _) fun _ => .pure _
  | take =>
    exact uses_of_sema fun _ => (usesAt_withWorld serves_xQueueSemaphoreTake).bind fun _ =>
      .ite (fun _ => .pure _) fun _ => .pure _
  | read =>
    exact (uses_buttonReaderRead R).bind fun _ => (ensures_configASSERT_button _).bind fun _ =>
      .pure _
  | notify pressed released =>
    exact ensures_buttonVars.bind fun _ => .ite (fun _ => .pure _) fun _ => .pure _
  | emitPressed pressed released =>
    exact .ite (fun _ => (uses_emit _ _).bind fun _ => .pure _) fun _ => .pure _
  | emitReleased released =>
    exact .ite (fun _ => (uses_emit _ _).bind fun _ => .pure _) fun _ => .pure _

/-- What every point ensures, the function ensures. -/
theorem ensures_finish {Q : ButtonMemory D T → ButtonMemory D T → Prop}
    [IsPreorder (ButtonMemory D T) Q] (h : ∀ p : Point, Ensures Q (p.next R)) (n : ℕ) (p : Point) :
    Ensures Q (p.finish R n) := by
  induction n generalizing p with
  | zero => exact .of_reads fun _ => rfl
  | succ n ih =>
    refine (h p).bind fun o => ?_
    cases o with
    | inl p' => exact ih p'
    | inr b => exact .pure b

theorem uses_buttonServiceStart (option : ExecutionOption) :
    Ensures (Uses (tenancy (T := T))) (buttonServiceStart R option) :=
  ensures_buttonVars.bind fun _ => (ensures_configASSERT_button _).bind fun _ =>
    .ite (fun _ => Ensures.bind (.of_reads fun _ => rfl) fun _ => ensures_configASSERT_button _)
      fun _ => uses_buttonServiceInitialize R

/-! ## Moving in and out -/

section Life

variable {Q : ButtonMemory D T → ButtonMemory D T → Prop} [IsPreorder (ButtonMemory D T) Q]
  (lease : Lease tenancy Q)

include lease

/-- **The setup** takes a vacant address. -/
theorem lease_buttonServiceInit {m : ButtonMemory D T} {addr : Handle}
    (ha : m.world.lib.Vacant addr) :
    Q m (finalState (EStateM.run (buttonServiceInit addr) m)) := by
  have hcreate : EStateM.run (withWorld (onLib (xSemaphoreCreateBinary addr))) m = .ok addr { m with
      world := { m.world with
        lib := m.world.lib.write addr (freshQueue 1 0 queueQUEUE_TYPE_BINARY_SEMAPHORE) } } :=
    run_withWorld_of_ok (run_xQueueGenericCreate ha.fresh ..)
  refine Ensures.bind_reads rfl ?_
  rintro v ⟨⟩
  refine ensures_configASSERT_bind fun _ => ensures_configASSERT_bind fun hsema =>
    ensures_configASSERT_bind fun _ => ensures_configASSERT_bind fun _ =>
    ensures_configASSERT_bind fun _ => ?_
  rw [EStateM.run_bind, hcreate]
  have hrents : Q m { m with
      world := { m.world with
        lib := m.world.lib.write addr (freshQueue 1 0 queueQUEUE_TYPE_BINARY_SEMAPHORE) }
      vars := { m.vars with s_eventSema := addr } } :=
    lease.rents _ _ hsema ha (Lib.onlyAt_write _ ha.fresh.1 rfl (by decide))
  exact trans_of _ hrents (ensures_configASSERT_button _ _)

/-- **The teardown** deletes the semaphore before it forgets it. -/
theorem lease_buttonServiceDestroy : Ensures Q buttonServiceDestroy := fun m => by
  have hclear : ∀ m' : ButtonMemory D T, (m'.vars.s_eventSema = nullptr ∨
      m'.world.lib.lookup m'.vars.s_eventSema = none) → Q m' { m' with vars := {} } :=
    fun m' hgone => lease.forgets _ _ hgone rfl rfl
  refine Ensures.bind_reads rfl ?_
  rintro v ⟨⟩
  dsimp only
  split
  · have hexit : Ensures (Uses (tenancy (D := D) (T := T)))
        (buttonAssign fun v => { v with s_exitThread := true }) := uses_modify fun _ => rfl
    have hgive := usesAt_withWorld (D := D) (T := T) (h := m.vars.s_eventSema)
      (serves_xQueueGenericSend none queueSEND_TO_BACK)
    refine Ensures.bind_at (lease.uses _ _ (hexit m)) fun _ m₁ h₁ => ?_
    have hhandle₁ : m₁.vars.s_eventSema = m.vars.s_eventSema := (hexit.of_run_eq_ok h₁).handle
    refine Ensures.bind_at (lease.uses _ _ (hgive m₁ hhandle₁)) fun _ m₂ h₂ => ?_
    have hhandle₂ : m₂.vars.s_eventSema = m.vars.s_eventSema :=
      (hgive.of_run_eq_ok h₂ hhandle₁).handle.trans hhandle₁
    refine Ensures.bind_at (refl_of _ m₂) fun _ m₃ h₃ => ?_
    cases h₃
    refine Ensures.bind_at (lease.uses _ _ (usesAt_withWorld serves_vQueueDelete m₂ hhandle₂))
      fun _ m₄ h₄ => hclear m₄ (.inr ?_)
    obtain ⟨w, hdelete, rfl⟩ := run_withWorld_eq_ok.mp h₄
    obtain ⟨lib, hgone, rfl⟩ := run_onLib_eq_ok.mp hdelete
    exact hhandle₂ ▸ lookup_of_run_vQueueDelete hgone
  · exact hclear m (.inl (not_not.mp ‹_›))

end Life

/-! ## A program with the service -/

/-- The allocator answers a vacant address. -/
def ButtonCall.Granted (lib : Lib) : ButtonCall → Prop
  | .init addr => lib.Vacant addr
  | _ => True

/-- The program calls the service, for which the allocator answers a vacant address, or buttons
change, or the program makes another call of the library, which is not given the semaphore of the
service. Nothing undefined happens. -/
inductive ButtonMemory.SharedStep :
    ButtonMemory D T → ButtonCall ⊕ Call → Reply → ButtonMemory D T → Prop
  | service {m m' : ButtonMemory D T} {c : ButtonCall} {r : Reply} (h : StepOf (c.exec R) m r m')
      (hd : r.Defined) (ha : c.Granted m.world.lib) : SharedStep m (.inl c) r m'
  | others {m : ButtonMemory D T} {c : Call} {r : Reply} {lib : Lib} (h : m.world.lib.Step c r lib)
      (hd : r.Defined) (hh : ∀ h ∈ c.handles, h = nullptr ∨ h ≠ m.vars.s_eventSema) :
      SharedStep m (.inr c) r { m with world := { m.world with lib } }

variable {R} {m m' : ButtonMemory D T} {tr : List ((ButtonCall ⊕ Call) × Reply)}

/-- The whole life of the service keeps to the lease. -/
theorem ButtonCall.keeps {Q : ButtonMemory D T → ButtonMemory D T → Prop}
    [IsPreorder (ButtonMemory D T) Q] (lease : Lease tenancy Q) {c : ButtonCall} {r : Reply}
    (hstep : StepOf (c.exec R) m r m') (ha : c.Granted m.world.lib) : Q m m' := by
  have huses {α : Type} {x : ButtonApi D T α} (hx : Ensures (Uses tenancy) x) : Ensures Q x :=
    hx.mono lease.uses
  rw [← hstep.finalState_eq]
  cases c with
  | init addr =>
    rw [ButtonCall.exec, finalState_run_map]
    exact lease_buttonServiceInit lease ha
  | start option => exact Ensures.map _ (huses (uses_buttonServiceStart R option)) m
  | register callback context => exact lease.uses _ _ (uses_of_eq rfl)
  | processOneEvent option =>
    rw [ButtonCall.exec, ← finish_check]
    exact Ensures.map _ (huses (ensures_finish R (uses_next R) 6 _)) m
  | simulateIsr => exact Ensures.map _ (huses uses_buttonServiceIsrCallback) m
  | change c => exact Ensures.map _ (huses (uses_buttonChange R c)) m
  | destroy => exact Ensures.map _ (lease_buttonServiceDestroy lease) m

/-- **The button service leaves no trace.** However a program sets the service up, uses it and tears
it down, and whenever buttons change, its own calls of the library are answered as if there were no
service, and every queue but the semaphore of the service is as if there were none. -/
theorem buttonService_leavesNoTrace (hdown : m.vars.s_eventSema = nullptr)
    (hrun : Run (SharedStep R) m tr m') :
    ∃ t, Run Lib.Step m.world.lib (project Sum.getRight? tr) t ∧
      (∀ x, x ≠ nullptr → x ≠ m'.vars.s_eventSema → m'.world.lib.lookup x = t.lookup x) ∧
      m'.world.lib.s_mutexes = t.s_mutexes := by
  have hothers : ∀ (m : ButtonMemory D T) c r m', SharedStep R m (.inr c) r m' →
      m'.vars.s_eventSema = m.vars.s_eventSema ∧
      (∀ h ∈ c.handles, h = nullptr ∨ h ≠ m.vars.s_eventSema) ∧
      m.world.lib.Step c r m'.world.lib := fun m c r m' h => by
    cases h with
    | others hstep hd hh => exact ⟨rfl, hh, hstep⟩
  have hown : ∀ (m : ButtonMemory D T) c r m', SharedStep R m (.inl c) r m' →
      Discreet ∅ tenancy m m' := fun _ _ _ _ h => by
    cases h with
    | service hstep hd ha => exact ButtonCall.keeps (discreet_lease ∅) hstep ha
  obtain ⟨t, htrun, hhidden⟩ := Tenancy.leavesNoTrace hown hothers hrun hdown
  refine ⟨t, htrun, fun x hn hx => hhidden.lookup_eq hn ?_, hhidden.s_mutexes⟩
  exact fun hroom => hx hroom.2

/-- A program before the first call of the service. -/
def ButtonMemory.ready : ButtonMemory Changes Unit :=
  ⟨⟨Lib.init, none, 0, false⟩, {}, ⊥, none, []⟩

/-- The service comes and goes, and another queue takes the address of its semaphore; the driver
still runs its callback when a button changes then. -/
def lateChange : List ((ButtonCall ⊕ Call) × Reply) :=
  [(.inl (.init 1), .returned .unit),
    (.inr (.create 9 4 1 queueQUEUE_TYPE_BASE), .returned (.handle 9)),
    (.inl (.start .EXECUTION_OPTION_UNIT_TEST), .returned .unit),
    (.inl (.register 7 8), .returned .unit),
    (.inl (.change ⟨ON_OFF_BIT, 0⟩), .returned .unit),
    (.inr (.send 9 (some [7]) queueSEND_TO_BACK), .returned (.code pdTRUE)),
    (.inl (.processOneEvent .EXECUTION_OPTION_UNIT_TEST), .returned (.bool true)),
    (.inl .destroy, .returned .unit),
    (.inr (.create 1 2 1 queueQUEUE_TYPE_BASE), .returned (.handle 1)),
    (.inl (.change ⟨0, ON_OFF_BIT⟩), .left .assertFailed),
    (.inr (.messagesWaiting 9), .returned (.count 1))]

theorem lateChange_run :
    ∃ m, Run (SharedStep ButtonReader.register) ButtonMemory.ready lateChange m :=
  ⟨_, .cons (.service (stepOf_of_reply (by decide +kernel)) (by decide)
      ⟨Lib.legal_init.unused (by simp [Lib.Fresh, nullptr]), fun l hl => by cases hl⟩)
    (.cons (.others (Lib.step_of_outcome (by decide +kernel)) (by decide)
        (handles_of_all (by decide +kernel)))
    (.cons (.service (stepOf_of_reply (by decide +kernel)) (by decide) trivial)
    (.cons (.service (stepOf_of_reply (by decide +kernel)) (by decide) trivial)
    (.cons (.service (stepOf_of_reply (by decide +kernel)) (by decide) trivial)
    (.cons (.others (Lib.step_of_outcome (by decide +kernel)) (by decide)
        (handles_of_all (by decide +kernel)))
    (.cons (.service (stepOf_of_reply (by decide +kernel)) (by decide) trivial)
    (.cons (.service (stepOf_of_reply (by decide +kernel)) (by decide) trivial)
    (.cons (.others (Lib.step_of_outcome (by decide +kernel)) (by decide)
        (handles_of_all (by decide +kernel)))
    (.cons (.service (stepOf_of_reply (by decide +kernel)) (by decide) trivial)
    (.cons (.others (Lib.step_of_outcome (by decide +kernel)) (by decide)
        (handles_of_all (by decide +kernel)))
    (.nil _)))))))))))⟩

theorem buttonService_leavesNoTrace_lateChange : ∃ m,
    Run (SharedStep ButtonReader.register) ButtonMemory.ready lateChange m ∧
    ∃ t, Run Lib.Step ButtonMemory.ready.world.lib (project Sum.getRight? lateChange) t ∧
      (∀ x, x ≠ nullptr → x ≠ m.vars.s_eventSema → m.world.lib.lookup x = t.lookup x) ∧
      m.world.lib.s_mutexes = t.s_mutexes := by
  obtain ⟨m, hrun⟩ := lateChange_run
  exact ⟨m, hrun, buttonService_leavesNoTrace rfl hrun⟩

end FakeFreeRtos
