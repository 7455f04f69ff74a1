import FakeFreeRtos.Button.Life
import FakeFreeRtos.Lock.Life

/-!
# A program with both services

A program has the lock service and the button service, each with variables of its own, and both work
on the library, which the rest of the program uses too (`ServiceProgram.Step`). Setups, teardowns,
interrupts and calls of the library may come in any order; the rest of the program does not pass the
handles that the services keep. Nobody notices anybody else: the program is the machine of the lock
service, the machine of the button service and a library that is nobody else's, side by side
(`services_parallel`).
-/

namespace FakeFreeRtos

open Foundations Tenancy LockLife ButtonLife

/-- The memory of a program with both services. -/
structure ServiceProgram (D T : Type) where
  world : World T
  lock : HlcsVars
  outputs : List Output
  button : ButtonVars
  driver : D
  isrCallback : Option ButtonReaderIsrCallback
  events : List ButtonEvent

namespace ServiceProgram

variable {D T : Type}

/-- What the lock service works on. -/
def hlcs (m : ServiceProgram D T) : Hlcs T := ⟨m.world, m.lock, m.outputs⟩

/-- What the button service and its driver work on. -/
def buttons (m : ServiceProgram D T) : ButtonMemory D T :=
  ⟨m.world, m.button, m.driver, m.isrCallback, m.events⟩

def withHlcs (m : ServiceProgram D T) (s : Hlcs T) : ServiceProgram D T := { m with
  world := s.world
  lock := s.vars
  outputs := s.outputs }

def withButtons (m : ServiceProgram D T) (b : ButtonMemory D T) : ServiceProgram D T := { m with
  world := b.world
  button := b.vars
  driver := b.driver
  isrCallback := b.isrCallback
  events := b.events }

/-- A call of the lock service; a call of the button service, an interrupt or a change of a button;
or another call of the library, which is given neither the event queue nor the semaphore. Nothing
undefined happens. -/
inductive Step (P : Platform T) (R : ButtonReader D) :
    ServiceProgram D T → HlcsLifeCall ⊕ ButtonCall ⊕ Call → Reply → ServiceProgram D T → Prop
  | lock {m : ServiceProgram D T} {s : Hlcs T} {c : HlcsLifeCall} {r : Reply}
      (h : StepOf (c.exec P) m.hlcs r s) (hd : r.Defined) (ha : c.Provided P m.world) :
      Step P R m (.inl c) r (m.withHlcs s)
  | button {m : ServiceProgram D T} {b : ButtonMemory D T} {c : ButtonCall} {r : Reply}
      (h : StepOf (c.exec R) m.buttons r b) (hd : r.Defined) (ha : c.Granted m.world.lib) :
      Step P R m (.inr (.inl c)) r (m.withButtons b)
  | others {m : ServiceProgram D T} {c : Call} {r : Reply} {lib : Lib}
      (h : m.world.lib.Step c r lib) (hd : r.Defined)
      (hlock : ∀ h ∈ c.handles, h = nullptr ∨ h ≠ m.lock.s_eventQueue)
      (hbutton : ∀ h ∈ c.handles, h = nullptr ∨ h ≠ m.button.s_eventSema) :
      Step P R m (.inr (.inr c)) r { m with world := { m.world with lib } }

/-! ## Side by side -/

variable (P : Platform T) (timer : T → UInt64 → Option EngineTimer) (R : ButtonReader D)

/-- The memory shows the services in the states `k` and `l` of their lives; the rest of the program
sees the library `t`. -/
structure SideBySide (m : ServiceProgram D T) (k : LockLife) (l : ButtonLife) (t : Lib) :
    Prop where
  lock : Shows P timer m.hlcs k
  button : Shown R m.buttons l
  apart : m.lock.s_eventQueue ≠ nullptr → m.lock.s_eventQueue ≠ m.button.s_eventSema
  hidden : Hidden (room m.lock.s_eventQueue ∪ room m.button.s_eventSema) m.world.lib t

namespace SideBySide

variable {P timer R} {m : ServiceProgram D T} {k : LockLife} {l : ButtonLife} {t lib : Lib}
  {r : Reply}

theorem lock_apart (h : SideBySide P timer R m k l t) :
    Apart (room m.button.s_eventSema) m.hlcs.tenancy where
  standalone := h.hidden.standalone_of fun hn => .inl (mem_room hn)
  ne_nullptr u hu := hu.1
  ne_handle := by
    rintro u ⟨hn, rfl⟩ he
    exact h.apart (fun hq => hn (he.trans hq)) he.symm
  live := by
    rintro u ⟨hn, rfl⟩
    exact h.button.live hn

theorem button_apart (h : SideBySide P timer R m k l t) :
    Apart (room m.lock.s_eventQueue) m.buttons.tenancy where
  standalone := h.hidden.standalone_of fun hn => .inr (mem_room hn)
  ne_nullptr u hu := hu.1
  ne_handle := by
    rintro u ⟨hn, rfl⟩
    exact h.apart hn
  live := by
    rintro u ⟨hn, rfl⟩
    exact h.lock.live hn

/-- A call of the lock service. -/
theorem lock_step (laws : KeepsTimers P.toFakeTimers timer) (h : SideBySide P timer R m k l t)
    {c : HlcsLifeCall} {s : Hlcs T} (hstep : StepOf (c.exec P) m.hlcs r s) (hd : r.Defined)
    (ha : c.Provided P m.world) :
    ∃ k', LockLife.Step k c r k' ∧ SideBySide P timer R (m.withHlcs s) k' l t := by
  obtain ⟨hanswer, hlock⟩ := h.lock.answers laws ha r s hstep hd
  have hdiscreet : Discreet (room m.button.s_eventSema) Hlcs.tenancy m.hlcs s :=
    HlcsLifeCall.keeps (discreet_lease _) hstep ha.granted
  obtain ⟨hapart, hspares, hhidden⟩ := hdiscreet h.lock_apart
  refine ⟨_, hanswer, hlock, ?_, fun hn he => ?_, hhidden t h.hidden⟩
  · exact h.button.withWorld fun hn => hspares _ (mem_room hn)
  · exact hapart.ne_handle _ (he ▸ mem_room hn) he.symm

/-- A call of the button service. -/
theorem button_step (h : SideBySide P timer R m k l t) {c : ButtonCall} {b : ButtonMemory D T}
    (hstep : StepOf (c.exec R) m.buttons r b) (ha : c.Granted m.world.lib) :
    ∃ l', ButtonLife.Step l c r l' ∧ SideBySide P timer R (m.withButtons b) k l' t := by
  obtain ⟨hanswer, hbutton, lib, hworld⟩ := h.button.answers hstep ha
  have hdiscreet : Discreet (room m.lock.s_eventQueue) ButtonMemory.tenancy m.buttons b :=
    ButtonCall.keeps (discreet_lease _) hstep ha
  obtain ⟨hapart, hspares, hhidden⟩ := hdiscreet h.button_apart
  refine ⟨_, hanswer, ?_, hbutton, fun hn he => ?_, ?_⟩
  · have hlib : m.lock.s_eventQueue ≠ nullptr →
        Lib.Spares m.lock.s_eventQueue m.world.lib lib := fun hn => by
      have hspared := hspares _ (mem_room hn)
      rwa [ButtonMemory.tenancy, ButtonMemory.tenancy, hworld] at hspared
    rw [hlcs, withButtons, hworld]
    exact h.lock.withLib hlib
  · exact hapart.ne_handle _ (mem_room hn) he
  · rw [Set.union_comm]
    refine hhidden t ?_
    rw [Set.union_comm]
    exact h.hidden

/-- A call of the rest of the program. -/
theorem others_step (h : SideBySide P timer R m k l t) {c : Call} (hstep : m.world.lib.Step c r lib)
    (hd : r.Defined) (hlock : ∀ h ∈ c.handles, h = nullptr ∨ h ≠ m.lock.s_eventQueue)
    (hbutton : ∀ h ∈ c.handles, h = nullptr ∨ h ≠ m.button.s_eventSema) :
    ∃ t', t.Step c r t' ∧
      SideBySide P timer R { m with world := { m.world with lib } } k l t' := by
  have hspares : ∀ u, u ≠ nullptr → (∀ h ∈ c.handles, h = nullptr ∨ h ≠ u) →
      Lib.Spares u m.world.lib lib := fun u hn hu =>
    hstep.spares hd hn fun hmem => (hu u hmem).elim hn fun hne => hne rfl
  have hh : ∀ h ∈ c.handles, h = nullptr ∨
      h ∉ room m.lock.s_eventQueue ∪ room m.button.s_eventSema := fun x hx => by
    rcases not_mem_room (hlock x hx) with hn | hq
    · exact .inl hn
    · exact (not_mem_room (hbutton x hx)).imp_right fun hs hmem => hmem.elim hq hs
  obtain ⟨t', ht, hhidden⟩ := h.hidden.call hh hstep
  exact ⟨t', ht, h.lock.withLib fun hn => hspares _ hn hlock,
    h.button.withWorld fun hn => hspares _ hn hbutton, h.apart, hhidden⟩

end SideBySide

end ServiceProgram

open ServiceProgram

variable {D T : Type} {P : Platform T} {timer : T → UInt64 → Option EngineTimer}
  {R : ButtonReader D}

/-- **The services and the rest of the program are independent.** In whatever order a program sets
its services up, uses them and tears them down, interrupts come and the library is called, every
call is answered as by three systems that share nothing: the machine of the lock service, that of
the button service, and a library for the rest of the program. The services have done and report
what their machines have, and away from their queues the library is that of the rest. -/
theorem services_parallel (laws : KeepsTimers P.toFakeTimers timer) {m m' : ServiceProgram D T}
    {tr : List ((HlcsLifeCall ⊕ ButtonCall ⊕ Call) × Reply)} (hlock : m.lock = {})
    (hbutton : m.button = {}) (hisr : m.isrCallback = none)
    (htimers : m.world.s_fakeTimers.isSome) (hrun : Run (Step P R) m tr m') :
    ∃ (k : LockLife) (l : ButtonLife) (t : Lib),
      Run (Parallel LockLife.Step (Parallel ButtonLife.Step Lib.Step))
        (⟨.bare false, 0, 0, m.outputs⟩,
          ⟨false, false, false, R.unread m.driver, 0, 0, m.events⟩, m.world.lib) tr (k, l, t) ∧
      m'.outputs = k.outputs ∧ m'.events = l.events ∧
      EStateM.run hlcsGetState m'.hlcs = .ok k.phase.lockState m'.hlcs ∧
      (∀ x, x ≠ nullptr → x ≠ m'.lock.s_eventQueue → x ≠ m'.button.s_eventSema →
        m'.world.lib.lookup x = t.lookup x) ∧
      m'.world.lib.s_mutexes = t.s_mutexes := by
  have hstart : SideBySide P timer R m ⟨.bare false, 0, 0, m.outputs⟩
      ⟨false, false, false, R.unread m.driver, 0, 0, m.events⟩ m.world.lib := by
    obtain ⟨world, lock, outputs, button, driver, isrCallback, events⟩ := m
    obtain rfl : lock = {} := hlock
    obtain rfl : button = {} := hbutton
    obtain rfl : isrCallback = none := hisr
    refine ⟨⟨.bare htimers rfl, rfl⟩, ⟨world, nullptr, driver, rfl, fun _ => rfl,
      (fun h => by cases h), rfl⟩, fun hn => absurd rfl hn, ?_⟩
    rw [room_nullptr, Set.union_empty]
    exact hidden_empty _
  have hstep : ∀ m (x : LockLife × ButtonLife × Lib) c r m',
      SideBySide P timer R m x.1 x.2.1 x.2.2 → Step P R m c r m' →
      ∃ x', Parallel LockLife.Step (Parallel ButtonLife.Step Lib.Step) x c r x' ∧
        SideBySide P timer R m' x'.1 x'.2.1 x'.2.2 := by
    rintro m ⟨k, l, t⟩ c r m' h hstep
    cases hstep with
    | lock hstep hd ha =>
      obtain ⟨k', hk, h'⟩ := h.lock_step laws hstep hd ha
      exact ⟨(k', l, t), .left hk, h'⟩
    | button hstep hd ha =>
      obtain ⟨l', hl, h'⟩ := h.button_step hstep ha
      exact ⟨(k, l', t), .right (.left hl), h'⟩
    | others hstep hd hlock hbutton =>
      obtain ⟨t', ht, h'⟩ := h.others_step hstep hd hlock hbutton
      exact ⟨(k, l, t'), .right (.right ht), h'⟩
  obtain ⟨⟨k, l, t⟩, hparallel, h⟩ := hrun.simulate hstep (t := (_, _, _)) hstart
  refine ⟨k, l, t, hparallel, h.lock.outputs, h.button.events_eq,
    congrArg (EStateM.Result.ok · m'.hlcs) h.lock.lockState_eq, fun x hn hq hs => ?_,
    h.hidden.s_mutexes⟩
  exact h.hidden.lookup_eq hn fun hmem => hmem.elim (fun hr => hq hr.2) fun hr => hs hr.2

/-- A program before the first call. -/
def ServiceProgram.ready : ServiceProgram Changes ListedTimers :=
  ⟨Hlcs.ready.world, {}, [], {}, ⊥, none, []⟩

/-- Both services are set up and used; the lock service is torn down, and another queue takes the
address of its event queue while a button changes. -/
def bothServices : List ((HlcsLifeCall ⊕ ButtonCall ⊕ Call) × Reply) :=
  [(.inl (.init 1 64), .returned .unit),
    (.inl (.call (.registerChangeState 65)), .returned .unit),
    (.inl (.call (.start .EXECUTION_OPTION_UNIT_TEST .working)), .returned .unit),
    (.inr (.inl (.init 2)), .returned .unit),
    (.inr (.inl (.register 7 0)), .returned .unit),
    (.inr (.inl (.start .EXECUTION_OPTION_UNIT_TEST)), .returned .unit),
    (.inr (.inr (.create 9 4 1 queueQUEUE_TYPE_BASE)), .returned (.handle 9)),
    (.inl (.call .requestUnlocked), .returned .unit),
    (.inr (.inl (.change ⟨ON_OFF_BIT, 0⟩)), .returned .unit),
    (.inr (.inr (.send 9 (some [7]) queueSEND_TO_BACK)), .returned (.code pdTRUE)),
    (.inl (.call (.processOneEvent .EXECUTION_OPTION_UNIT_TEST .working)), .returned (.bool true)),
    (.inl .destroy, .returned .unit),
    (.inr (.inr (.create 1 2 1 queueQUEUE_TYPE_BASE)), .returned (.handle 1)),
    (.inr (.inl (.change ⟨0, ON_OFF_BIT⟩)), .returned .unit),
    (.inr (.inl (.processOneEvent .EXECUTION_OPTION_UNIT_TEST)), .returned (.bool true)),
    (.inr (.inl .destroy), .returned .unit),
    (.inr (.inr (.messagesWaiting 9)), .returned (.count 1))]

theorem bothServices_run : ∃ m, Run (Step Platform.listed ButtonReader.register)
    ServiceProgram.ready bothServices m :=
  ⟨_, .cons (.lock (stepOf_of_reply (by decide +kernel)) (by decide)
      (provided_listed (n := 0) (by decide +kernel) (by decide) (by decide +kernel) (by decide)))
    (.cons (.lock (stepOf_of_reply (by decide +kernel)) (by decide) trivial)
    (.cons (.lock (stepOf_of_reply (by decide +kernel)) (by decide) trivial)
    (.cons (.button (stepOf_of_reply (by decide +kernel)) (by decide)
      (Lib.vacant_of_allLive (by decide) (by decide +kernel) (by decide +kernel)
        (by decide +kernel)))
    (.cons (.button (stepOf_of_reply (by decide +kernel)) (by decide) trivial)
    (.cons (.button (stepOf_of_reply (by decide +kernel)) (by decide) trivial)
    (.cons (.others (Lib.step_of_outcome (by decide +kernel)) (by decide)
      (handles_of_all (by decide +kernel)) (handles_of_all (by decide +kernel)))
    (.cons (.lock (stepOf_of_reply (by decide +kernel)) (by decide) trivial)
    (.cons (.button (stepOf_of_reply (by decide +kernel)) (by decide) trivial)
    (.cons (.others (Lib.step_of_outcome (by decide +kernel)) (by decide)
      (handles_of_all (by decide +kernel)) (handles_of_all (by decide +kernel)))
    (.cons (.lock (stepOf_of_reply (by decide +kernel)) (by decide) trivial)
    (.cons (.lock (stepOf_of_reply (by decide +kernel)) (by decide) trivial)
    (.cons (.others (Lib.step_of_outcome (by decide +kernel)) (by decide)
      (handles_of_all (by decide +kernel)) (handles_of_all (by decide +kernel)))
    (.cons (.button (stepOf_of_reply (by decide +kernel)) (by decide) trivial)
    (.cons (.button (stepOf_of_reply (by decide +kernel)) (by decide) trivial)
    (.cons (.button (stepOf_of_reply (by decide +kernel)) (by decide) trivial)
    (.cons (.others (Lib.step_of_outcome (by decide +kernel)) (by decide)
      (handles_of_all (by decide +kernel)) (handles_of_all (by decide +kernel)))
    (.nil _)))))))))))))))))⟩

theorem services_parallel_bothServices : ∃ m, Run (Step Platform.listed ButtonReader.register)
      ServiceProgram.ready bothServices m ∧
    ∃ (k : LockLife) (l : ButtonLife) (t : Lib),
      Run (Parallel LockLife.Step (Parallel ButtonLife.Step Lib.Step))
        (⟨.bare false, 0, 0, []⟩, ⟨false, false, false, ⊥, 0, 0, []⟩,
          ServiceProgram.ready.world.lib) bothServices (k, l, t) ∧
      m.outputs = k.outputs ∧ m.events = l.events ∧
      EStateM.run hlcsGetState m.hlcs = .ok k.phase.lockState m.hlcs ∧
      (∀ x, x ≠ nullptr → x ≠ m.lock.s_eventQueue → x ≠ m.button.s_eventSema →
        m.world.lib.lookup x = t.lookup x) ∧
      m.world.lib.s_mutexes = t.s_mutexes := by
  obtain ⟨m, hrun⟩ := bothServices_run
  exact ⟨m, hrun, services_parallel ListedTimers.keepsTimers rfl rfl rfl rfl hrun⟩

end FakeFreeRtos
