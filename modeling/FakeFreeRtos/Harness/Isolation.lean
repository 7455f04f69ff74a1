import FakeFreeRtos.Model.Harness
import FakeFreeRtos.Mutex.Tracking
import FakeFreeRtos.Queue.Budget

/-!
# Isolation of tests

Each test should find the library as the first one did, and so its setup should succeed, whatever
the tests before it did (`Isolated`). `LibTeardownAll` runs the teardowns of the modules in order,
and that of the mutex tracking leaves through `FAIL_TEST` when a mutex is locked: the timers are
then not destroyed and the setup of the next test trips an assertion.
`tests_isolated_iff` shows that nothing else can go wrong: a sequence of tests is isolated
throughout exactly when every teardown finds the tracked mutexes live and unlocked.
-/

namespace FakeFreeRtos

open Foundations

variable {T : Type} (P : Platform T)

/-! ## What is asked of a test -/

/-- No timers, no tracking, tick count zero. -/
structure World.Clean (w : World T) : Prop where
  s_fakeTimers : w.s_fakeTimers = none
  s_mutexes : w.lib.s_mutexes = none
  s_tickCount : w.s_tickCount = 0

/-- The setup of the test succeeds, and its teardown, which returns or fails the test, leaves the
library clean. -/
structure Isolated (w : World T) (body : List TestCall) : Prop where
  setup : (runTest P body w).1.setup = none
  teardown : (runTest P body w).1.teardown = none ∨
    (runTest P body w).1.teardown = some .testFailed
  clean : (runTest P body w).2.Clean

/-- The mutex at `h` is live and its token is there. -/
def Lib.Released (s : Lib) (h : Handle) : Prop := ∃ q, s.lookup h = some q ∧ q.queue ≠ []

/-- The teardown of the test finds the tracked mutexes live and unlocked. -/
def ReleasesMutexes (w : World T) (body : List TestCall) : Prop :=
  ∀ l, (runSetupAndBody P body w).2.lib.s_mutexes = some l →
    ∀ h ∈ l, (runSetupAndBody P body w).2.lib.Released h

/-! ## Setup and teardown -/

/-- What the setup of a clean library makes of it. -/
def World.setUp (w : World T) : World T where
  lib := { w.lib with s_mutexes := some [] }
  s_fakeTimers := some (P.new (P.configTICK_RATE_HZ.toNat * 1 / 1000))
  s_tickCount := 0
  m_printAssert := true

theorem run_libInitAll {w : World T} (hw : w.Clean) :
    EStateM.run (libInitAll P) w = .ok () (w.setUp P) := by
  simp [libInitAll, taskInit, assertOutputEnable, timersInit, updateTimers, run_configASSERT_of,
    run_mutexTrackingInit, hw.s_fakeTimers, hw.s_mutexes, World.setUp]

theorem run_anyLocked_false_iff {s : Lib} (hw : s.WellFormed) {l : List Handle} :
    EStateM.run (anyLocked l) s = .ok false s ↔ ∀ h ∈ l, s.Released h := by
  induction l with
  | nil => exact iff_of_true rfl fun _ hh => by cases hh
  | cons h l ih =>
    rw [anyLocked, EStateM.run_bind, uxSemaphoreGetCount, List.forall_mem_cons, ← ih]
    cases hq : s.lookup h with
    | none =>
      have hnot : ¬ s.Released h := by
        rintro ⟨q, hq', -⟩
        rw [hq] at hq'
        cases hq'
      refine iff_of_false (fun hrun => ?_) fun hall => hnot hall.1
      by_cases hn : h = nullptr
      · simp [uxQueueMessagesWaiting, hn] at hrun
      · simp [uxQueueMessagesWaiting, hn, run_deref_none hq] at hrun
    | some q =>
      have hreleased : s.Released h ↔ q.queue ≠ [] := by
        refine ⟨?_, fun he => ⟨q, hq, he⟩⟩
        rintro ⟨q', hq', he⟩
        rw [hq, Option.some.injEq] at hq'
        exact hq' ▸ he
      have hcount := (hw.queue h q hq).waiting_eq_zero_iff
      rw [run_uxQueueMessagesWaiting (hw.ne_nullptr hq) hq, hreleased]
      by_cases he : q.queue = []
      · simp [he]
      · simp [mt hcount.mp he, he]

/-- The teardown of a library whose timers and tracking are on returns with a clean library when
the tracked mutexes are live and unlocked. -/
theorem run_libTeardownAll {w : World T} (ht : w.s_fakeTimers.isSome) {l : List Handle}
    (hl : w.lib.s_mutexes = some l) (hw : w.lib.WellFormed) (hall : ∀ h ∈ l, w.lib.Released h) :
    EStateM.run libTeardownAll w = .ok () { w with
      lib := { w.lib with s_mutexes := none }, s_fakeTimers := none, s_tickCount := 0 } := by
  have hrun := run_mutexTrackingTeardown hl ((run_anyLocked_false_iff hw).mpr hall)
  simp [libTeardownAll, hrun, timersDestroy, assertTimers, ht, taskDestroy]

/-- It leaves the timers on otherwise. -/
theorem run_libTeardownAll_error {w : World T} {l : List Handle} (hl : w.lib.s_mutexes = some l)
    (hw : w.lib.WellFormed) (hall : ¬ ∀ h ∈ l, w.lib.Released h) :
    ∃ e s, EStateM.run libTeardownAll w = .error e { w with lib := s } := by
  have hreads := ensures_anyLocked (R := Eq) l w.lib
  cases hr : EStateM.run (anyLocked l) w.lib with
  | error e s =>
    have hrun := run_mutexTrackingTeardown_error hl hr
    exact ⟨e, s, by simp [libTeardownAll, hrun]⟩
  | ok b s =>
    obtain rfl : w.lib = s := by rw [hr] at hreads; exact hreads
    cases b with
    | false => exact absurd ((run_anyLocked_false_iff hw).mp hr) hall
    | true =>
      have hrun := run_mutexTrackingTeardown hl hr
      exact ⟨.testFailed, { w.lib with s_mutexes := none }, by simp [libTeardownAll, hrun]⟩

/-! ## The body of a test -/

/-- The queue modules are left alone, and timers that are on stay on. -/
structure World.Keeps (w w' : World T) : Prop where
  lib : w'.lib = w.lib
  s_fakeTimers : w.s_fakeTimers.isSome → w'.s_fakeTimers.isSome

namespace World

instance : IsPreorder (World T) Keeps where
  refl _ := ⟨rfl, id⟩
  trans _ _ _ h h' := ⟨h'.lib.trans h.lib, h'.s_fakeTimers ∘ h.s_fakeTimers⟩

end World

section Keeps

theorem ensures_assertTimers : Ensures (World.Keeps (T := T)) assertTimers :=
  .of_reads fun w => by
    rw [assertTimers, EStateM.run_bind, EStateM.run_get]
    by_cases h : w.s_fakeTimers.isSome <;> simp [h]

theorem ensures_theTimers : Ensures (World.Keeps (T := T)) theTimers :=
  .of_reads fun w => by
    cases h : w.s_fakeTimers <;> simp [theTimers, h]

theorem ensures_toNanoseconds (ms : ℤ) : Ensures (World.Keeps (T := T)) (toNanoseconds ms) :=
  .ite (fun _ => .pure _) fun _ => .of_reads fun _ => rfl

theorem ensures_updateTimers (t : T) : Ensures World.Keeps (updateTimers t) :=
  fun _ => ⟨rfl, fun _ => rfl⟩

theorem ensures_configASSERT_world (x : Prop) [Decidable x] :
    Ensures (World.Keeps (T := T)) (configASSERT x) :=
  .of_reads fun w => by by_cases h : x <;> simp [h]

theorem ensures_timersIsActive : Ensures (World.Keeps (T := T)) timersIsActive :=
  .of_reads fun _ => rfl

theorem ensures_getCurrentInternalTime : Ensures World.Keeps (getCurrentInternalTime P) :=
  ensures_timersIsActive.bind fun _ => .ite
    (fun _ => ensures_theTimers.bind fun _ => .pure _) fun _ => .pure _

theorem ensures_moveTimeForward (duration : ℤ) :
    Ensures World.Keeps (moveTimeForward P duration) :=
  ensures_assertTimers.bind fun _ => ensures_theTimers.bind fun _ => ensures_updateTimers _

theorem ensures_vTaskDelay (ticks : TickType) : Ensures World.Keeps (vTaskDelay P ticks) :=
  ensures_timersIsActive.bind fun _ => .ite
    (fun _ => (ensures_toNanoseconds _).bind fun _ => ensures_moveTimeForward P _)
    fun _ _ => ⟨rfl, id⟩

theorem ensures_xTaskGetTickCount : Ensures World.Keeps (xTaskGetTickCount P) :=
  ensures_timersIsActive.bind fun _ => .ite
    (fun _ => (ensures_getCurrentInternalTime P).bind fun _ => .pure _)
    fun _ => .of_reads fun _ => rfl

theorem ensures_xTaskDelayUntil (previous : Option TickType) (increment : TickType) :
    Ensures World.Keeps (xTaskDelayUntil P previous increment) :=
  (ensures_configASSERT_world _).bind fun _ => (ensures_xTaskGetTickCount P).bind fun _ =>
    .ite (fun _ => .pure _) fun _ => (ensures_vTaskDelay P _).bind fun _ => .pure _

theorem ensures_checkedOperation (r : T → Bool × T) : Ensures World.Keeps (checkedOperation r) :=
  ensures_theTimers.bind fun _ => (ensures_updateTimers _).bind fun _ =>
    ensures_configASSERT_world _

theorem ensures_xTimerGenericCommandFromTask (timer : TimerHandle) (commandID : BaseType)
    (optionalValue : TickType) :
    Ensures World.Keeps (xTimerGenericCommandFromTask P timer commandID optionalValue) := by
  refine ensures_assertTimers.bind fun _ => (ensures_configASSERT_world _).bind fun _ => ?_
  have hop : ∀ r : T → Bool × T,
      Ensures World.Keeps (checkedOperation r >>= fun _ => (pure pdPASS : WorldApi T BaseType)) :=
    fun r => (ensures_checkedOperation r).bind fun _ => .pure _
  refine .ite (fun _ => hop _) fun _ => .ite (fun _ => hop _) fun _ => .ite (fun _ => hop _)
    fun _ => .ite (fun _ => ?_) fun _ => .ite (fun _ => hop _) fun _ => ?_
  · exact (ensures_toNanoseconds _).bind fun _ => hop _
  · exact (ensures_configASSERT_world _).bind fun _ => .pure _

/-- A function that only reads the timers. -/
theorem ensures_readsTimers {α : Type} {f : T → WorldApi T α}
    (hf : ∀ t, Ensures World.Keeps (f t)) :
    Ensures World.Keeps (do assertTimers; let t ← theTimers; f t) :=
  ensures_assertTimers.bind fun _ => ensures_theTimers.bind hf

theorem ensures_xTimerCreate (name : Option String) (period : TickType) (autoReload : BaseType)
    (timerID callback : UInt64) :
    Ensures World.Keeps (xTimerCreate P name period autoReload timerID callback) :=
  ensures_readsTimers fun _ => (ensures_toNanoseconds _).bind fun _ =>
    (ensures_updateTimers _).bind fun _ => .pure _

/-- Every call of a body but those of the queue modules leaves the queue modules and the timers
as they are. -/
theorem TestCall.ensures_keeps {c : TestCall} (hc : ∀ q, c ≠ .queues q) :
    Ensures World.Keeps (c.exec P) := by
  cases c with
  | queues q => exact absurd rfl (hc q)
  | taskCreate => exact .map _ (.pure _)
  | taskDelete => exact .pure _
  | delay => exact ensures_vTaskDelay P _
  | tickCount => exact .map _ (ensures_xTaskGetTickCount P)
  | delayUntil => exact .map _ (ensures_xTaskDelayUntil P _ _)
  | assertOutputEnable => exact fun _ => ⟨rfl, id⟩
  | assertOutputDisable => exact fun _ => ⟨rfl, id⟩
  | timersIsActive => exact .map _ ensures_timersIsActive
  | moveTimeForward => exact ensures_moveTimeForward P _
  | currentInternalTime => exact .map _ (ensures_getCurrentInternalTime P)
  | timerCreate => exact .map _ (ensures_xTimerCreate P _ _ _ _ _)
  | timerCommand => exact .map _ (ensures_xTimerGenericCommandFromTask P _ _ _)
  | timerIsActive =>
    exact .map _ (ensures_readsTimers fun _ => .ite (fun _ => .pure _) fun _ => .pure _)
  | timerGetID => exact .map _ (ensures_readsTimers fun _ => .pure _)
  | timerSetID => exact ensures_readsTimers fun _ => ensures_updateTimers _
  | timerGetName => exact .map _ (ensures_readsTimers fun _ => .pure _)
  | timerGetReloadMode =>
    exact .map _ (ensures_readsTimers fun _ => .ite (fun _ => .pure _) fun _ => .pure _)
  | timerSetReloadMode => exact ensures_readsTimers fun _ => ensures_updateTimers _
  | timerGetPeriod => exact .map _ (ensures_readsTimers fun _ => .pure _)
  | timerGetExpiryTime => exact .map _ (ensures_readsTimers fun _ => .pure _)

end Keeps

/-- What holds throughout the body of a test whose setup succeeded. -/
structure World.Ready (w : World T) : Prop where
  s_fakeTimers : w.s_fakeTimers.isSome
  s_mutexes : w.lib.s_mutexes.isSome
  wellFormed : w.lib.WellFormed

theorem ended_snd {α : Type} (r : EStateM.Result Exit (World T) α) :
    (ended r).2 = finalState r := by
  cases r <;> rfl

/-- One call of a body. -/
theorem TestCall.exec_ready {c : TestCall} (hc : c.InBody) {w : World T} (hw : w.Ready)
    (hd : (ended (EStateM.run (c.exec P) w)).1 ≠ some .undefined) :
    (ended (EStateM.run (c.exec P) w)).2.Ready := by
  by_cases hq : ∃ q, c = .queues q
  · obtain ⟨q, rfl⟩ := hq
    have hnot : q ≠ .trackingInit ∧ q ≠ .trackingTeardown :=
      ⟨fun h => hc.1 (h ▸ rfl), fun h => hc.2 (h ▸ rfl)⟩
    -- the call on the queue modules, as a step with a reply
    have hkey : ∀ r s', w.lib.Step q r s' → r ≠ .left .undefined →
        (World.Ready { w with lib := s' }) := by
      intro r s' hstep hr
      have heff := hstep.effect ⟨hr, hstep.ne_outOfFuel⟩
      exact ⟨hw.s_fakeTimers, by rw [heff.isSome_s_mutexes hnot.1 hnot.2]; exact hw.s_mutexes,
        heff.wellFormed hw.wellFormed⟩
    rw [TestCall.exec, run_map, run_onLib] at hd ⊢
    cases hr : EStateM.run q.exec w.lib with
    | ok v s' => exact hkey _ s' (Lib.step_returned_iff.mpr hr) (by simp)
    | error e s' =>
      rw [hr] at hd
      refine hkey _ s' (Lib.step_left_iff.mpr hr) fun he => hd ?_
      obtain rfl := Reply.left.inj he
      rfl
  · have hkeeps := TestCall.ensures_keeps P (fun q h => hq ⟨q, h⟩) w
    rw [ended_snd]
    exact ⟨hkeeps.s_fakeTimers hw.s_fakeTimers, hkeeps.lib ▸ hw.s_mutexes,
      hkeeps.lib ▸ hw.wellFormed⟩

/-- **A body keeps the timers and the tracking on**, wherever it is cut short. -/
theorem runBody_ready {body : List TestCall} (hb : ∀ c ∈ body, c.InBody) {w : World T}
    (hw : w.Ready) (hd : (ended (EStateM.run (runBody P body) w)).1 ≠ some .undefined) :
    (ended (EStateM.run (runBody P body) w)).2.Ready := by
  induction body generalizing w with
  | nil => exact hw
  | cons c body ih =>
    have hstep := TestCall.exec_ready P (hb c List.mem_cons_self) hw
    rw [runBody, EStateM.run_bind] at hd ⊢
    cases hr : EStateM.run (c.exec P) w with
    | ok _ w' =>
      rw [hr] at hd hstep
      exact ih (fun c' hc' => hb c' (List.mem_cons_of_mem _ hc')) (hstep (by simp [ended])) hd
    | error e w' =>
      rw [hr] at hd hstep
      exact hstep hd

/-! ## Sequences of tests -/

variable {P}

theorem World.Test.deterministic {w w₁ w₂ : World T} {body : List TestCall} {r : Report}
    (h₁ : w.Test P body r w₁) (h₂ : w.Test P body r w₂) : w₁ = w₂ :=
  (Prod.mk.inj (h₁.2.1.symm.trans h₂.2.1)).2

/-- What the teardown of a test finds, when the test started from a clean library. -/
theorem World.Test.ready {w w' : World T} {body : List TestCall} {r : Report}
    (h : w.Test P body r w') (hw : w.Clean) (hl : w.lib.WellFormed) :
    (runSetupAndBody P body w).1.1 = none ∧ (runSetupAndBody P body w).2.Ready := by
  obtain ⟨hb, hrun, hd⟩ := h
  have hr : r.body = (runSetupAndBody P body w).1.2 := by
    rw [← (Prod.mk.inj hrun).1]
  rw [hr] at hd
  have hparts : runSetupAndBody P body w =
      ((none, (ended (EStateM.run (runBody P body) (w.setUp P))).1),
        (ended (EStateM.run (runBody P body) (w.setUp P))).2) := by
    rw [runSetupAndBody, run_libInitAll P hw]
  rw [hparts] at hd ⊢
  exact ⟨rfl, runBody_ready P hb ⟨rfl, rfl, hl.congr fun _ => rfl⟩ hd⟩

/-- **A test from a clean library is isolated exactly when it releases its mutexes.** -/
theorem isolated_iff_releasesMutexes {w w' : World T} {body : List TestCall} {r : Report}
    (h : w.Test P body r w') (hw : w.Clean) (hl : w.lib.WellFormed) :
    Isolated P w body ↔ ReleasesMutexes P w body := by
  obtain ⟨hsetup, hready⟩ := h.ready hw hl
  obtain ⟨l, hl⟩ := Option.isSome_iff_exists.mp hready.s_mutexes
  have hiff : ReleasesMutexes P w body ↔ ∀ h ∈ l, (runSetupAndBody P body w).2.lib.Released h :=
    ⟨fun hall => hall l hl, fun hall l' hl' => by
      obtain rfl := Option.some.inj (hl.symm.trans hl')
      exact hall⟩
  rw [hiff]
  by_cases hall : ∀ h ∈ l, (runSetupAndBody P body w).2.lib.Released h
  · have hrun := run_libTeardownAll hready.s_fakeTimers hl hready.wellFormed hall
    refine iff_of_true ⟨hsetup, .inl ?_, ?_⟩ hall
    · simp [runTest, hrun, ended]
    · simp only [runTest, hrun, ended]
      exact ⟨rfl, rfl, rfl⟩
  · obtain ⟨e, s, hrun⟩ := run_libTeardownAll_error hl hready.wellFormed hall
    refine iff_of_false (fun hisolated => ?_) hall
    have hclean := hisolated.clean.s_fakeTimers
    simp only [runTest, hrun, ended] at hclean
    have hsome := hready.s_fakeTimers
    rw [hclean] at hsome
    cases hsome

/-- An isolated test leaves the library as the next test expects it. -/
theorem World.Test.isolated {w w' : World T} {body : List TestCall} {r : Report}
    (h : w.Test P body r w') (hw : w.Clean) (hl : w.lib.WellFormed) (hi : Isolated P w body) :
    w'.Clean ∧ w'.lib.WellFormed := by
  have hw' : w' = (runTest P body w).2 := by rw [h.2.1]
  obtain ⟨-, hready⟩ := h.ready hw hl
  obtain ⟨l, hl'⟩ := Option.isSome_iff_exists.mp hready.s_mutexes
  have hall := (isolated_iff_releasesMutexes h hw hl).mp hi l hl'
  have hrun := run_libTeardownAll hready.s_fakeTimers hl' hready.wellFormed hall
  refine ⟨hw' ▸ hi.clean, ?_⟩
  rw [hw']
  simp only [runTest, hrun, ended]
  exact hready.wellFormed.congr fun _ => rfl

theorem World.start_clean : (World.start : World T).Clean := ⟨rfl, rfl, rfl⟩

/-- **When tests are isolated.** In every sequence of tests from the start of the program, every
test is isolated if and only if the teardown of every test finds the tracked mutexes live and
unlocked. -/
theorem tests_isolated_iff {tr : List (List TestCall × Report)} {w : World T}
    (hrun : Run (World.Test P) World.start tr w) :
    EveryStep (World.Test P) (Isolated P) World.start tr ↔
      EveryStep (World.Test P) (ReleasesMutexes P) World.start tr := by
  refine everyStep_congr (I := fun w => w.Clean ∧ w.lib.WellFormed) ?_ ?_ ?_ hrun
    ⟨World.start_clean, Lib.sound_init.wellFormed⟩
  · exact fun _ _ _ _ _ => World.Test.deterministic
  · exact fun _ _ _ _ hI h => isolated_iff_releasesMutexes h hI.1 hI.2
  · exact fun _ _ _ _ hI h hi => h.isolated hI.1 hI.2 hi

/-- The memory after a test that created the mutex `m` at 1, and nothing else. -/
def World.afterMutex (m : FakeQueue) : World ℤ :=
  { World.start with lib := Lib.init.write 1 m }

/-- A mutex is taken and given back, a task delays, and another test follows. -/
theorem tests_isolated_givenBack : ∃ w tr, tr.map Prod.fst =
      [[.queues (.createMutex 1 queueQUEUE_TYPE_MUTEX), .queues (.semaphoreTake 1), .delay 5,
        .queues (.send 1 none queueSEND_TO_BACK)], []] ∧
    Run (World.Test Platform.standard) World.start tr w ∧
    EveryStep (World.Test Platform.standard) (Isolated Platform.standard) World.start tr := by
  let body : List TestCall := [.queues (.createMutex 1 queueQUEUE_TYPE_MUTEX),
    .queues (.semaphoreTake 1), .delay 5, .queues (.send 1 none queueSEND_TO_BACK)]
  let w := World.afterMutex (freshMutex queueQUEUE_TYPE_MUTEX)
  have h₁ : World.start.Test Platform.standard body ⟨none, none, none⟩ w :=
    ⟨by simp [body, TestCall.InBody], by decide +kernel, by decide⟩
  have h₂ : w.Test Platform.standard [] ⟨none, none, none⟩ w :=
    ⟨by simp, by decide +kernel, by decide⟩
  have hrun := Run.cons h₁ (.cons h₂ (.nil _))
  refine ⟨_, _, rfl, hrun, (tests_isolated_iff hrun).mpr ?_⟩
  have hdet := fun w c r w₁ w₂ (h : World.Test Platform.standard w c r w₁)
    (h' : World.Test Platform.standard w c r w₂) => h.deterministic h'
  rw [everyStep_cons (hdet _ _ _) h₁, everyStep_cons (hdet _ _ _) h₂]
  refine ⟨fun l hl h hh => ?_, fun l hl h hh => ?_, everyStep_nil⟩
  · have hl' : (runSetupAndBody Platform.standard body World.start).2.lib.s_mutexes = some [1] := by
      decide +kernel
    have hq : (runSetupAndBody Platform.standard body World.start).2.lib.lookup 1 =
        some (freshMutex queueQUEUE_TYPE_MUTEX) := by decide +kernel
    obtain rfl := Option.some.inj (hl'.symm.trans hl)
    obtain rfl := List.mem_singleton.mp hh
    exact ⟨_, hq, by decide⟩
  · have hl' : (runSetupAndBody Platform.standard [] w).2.lib.s_mutexes = some [] := by
      decide +kernel
    obtain rfl := Option.some.inj (hl'.symm.trans hl)
    cases hh

/-- A test that leaves a mutex locked fails, as it should, and leaves the timers on; the setup of
the next test, which does nothing wrong, trips an assertion. -/
theorem tests_not_isolated : ∃ w, Run (World.Test Platform.standard) World.start
      [([.queues (.createMutex 1 queueQUEUE_TYPE_MUTEX), .queues (.semaphoreTake 1)],
        ⟨none, none, some .testFailed⟩), ([], ⟨some .assertFailed, none, none⟩)] w ∧
    ¬ EveryStep (World.Test Platform.standard) (Isolated Platform.standard) World.start
      [([.queues (.createMutex 1 queueQUEUE_TYPE_MUTEX), .queues (.semaphoreTake 1)],
        ⟨none, none, some .testFailed⟩), ([], ⟨some .assertFailed, none, none⟩)] := by
  let body : List TestCall := [.queues (.createMutex 1 queueQUEUE_TYPE_MUTEX),
    .queues (.semaphoreTake 1)]
  let locked : FakeQueue := { freshMutex queueQUEUE_TYPE_MUTEX with queue := [] }
  let w₁ : World ℤ := { World.afterMutex locked with s_fakeTimers := some 0 }
  have h₁ : World.start.Test Platform.standard body ⟨none, none, some .testFailed⟩ w₁ :=
    ⟨by simp [body, TestCall.InBody], by decide +kernel, by decide⟩
  have h₂ : w₁.Test Platform.standard [] ⟨some .assertFailed, none, none⟩
      (World.afterMutex locked) := ⟨by simp, by decide +kernel, by decide⟩
  refine ⟨_, .cons h₁ (.cons h₂ (.nil _)), fun hall => ?_⟩
  have hclean := (hall [] body _ _ _ rfl (.nil _)).clean.s_fakeTimers
  rw [h₁.2.1] at hclean
  cases hclean

end FakeFreeRtos
