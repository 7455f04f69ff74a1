import FakeFreeRtos.Queue.Receive

/-!
# Mutex tracking

While tracking is on, `s_mutexes` should list the mutexes that were created since and are not yet
deleted. An observer keeps that list (`Roster`), and `Roster.Exact` compares the two and says what
follows for the check at the end of a test. The library forgets one path: `vQueueDelete` takes a
standard mutex off the list, but not a recursive one. `tracking_exact_iff` shows that this is the
only flaw: in every run the tracking is exact throughout exactly when no recursive mutex created
since is deleted.
-/

namespace FakeFreeRtos

open Foundations

/-- The mutex at `h` is live and its token is out. -/
def Lib.Held (s : Lib) (h : Handle) : Prop := ∃ q, s.lookup h = some q ∧ q.queue = []

/-! ## Checking live mutexes -/

theorem run_anyLocked {s : Lib} (hw : s.WellFormed) {l : List Handle}
    (hl : ∀ h ∈ l, ∃ q, s.lookup h = some q) :
    ∃ b, EStateM.run (anyLocked l) s = .ok b s ∧ (b = true ↔ ∃ h ∈ l, s.Held h) := by
  induction l with
  | nil => exact ⟨false, rfl, by simp⟩
  | cons h l ih =>
    obtain ⟨q, hq⟩ := hl h List.mem_cons_self
    obtain ⟨b, hrun, hb⟩ := ih fun x hx => hl x (List.mem_cons_of_mem _ hx)
    have hcount := (hw.queue h q hq).waiting_eq_zero_iff
    rw [anyLocked, EStateM.run_bind, uxSemaphoreGetCount,
      run_uxQueueMessagesWaiting (hw.ne_nullptr hq) hq]
    simp only [List.mem_cons, exists_eq_or_imp]
    by_cases he : q.queue = []
    · exact ⟨true, by rw [if_pos (hcount.mpr he)]; rfl, by simpa using .inl ⟨q, hq, he⟩⟩
    · refine ⟨b, by rw [if_neg (mt hcount.mp he), hrun], ?_⟩
      have hnot : ¬ s.Held h := by
        rintro ⟨q', hq', he'⟩
        obtain rfl : q = q' := Option.some.inj (hq.symm.trans hq')
        exact he he'
      rw [hb, or_iff_right hnot]

theorem run_isAnyMutexLocked {s : Lib} {l : List Handle} (hl : s.s_mutexes = some l) :
    EStateM.run isAnyMutexLocked s = EStateM.run (anyLocked l) s := by
  rw [isAnyMutexLocked, EStateM.run_bind, EStateM.run_get]
  simp only [hl]

/-- The teardown reports what the check answers, if it does. -/
theorem run_mutexTrackingTeardown {s : Lib} {l : List Handle} (hl : s.s_mutexes = some l) {b : Bool}
    (hb : EStateM.run (anyLocked l) s = .ok b s) :
    EStateM.run mutexTrackingTeardown s =
      if b then .error .testFailed { s with s_mutexes := none }
      else .ok () { s with s_mutexes := none } := by
  rw [mutexTrackingTeardown, EStateM.run_bind, EStateM.run_get]
  simp only [hl, reduceCtorEq, ↓reduceIte, EStateM.run_bind, run_isAnyMutexLocked hl, hb]
  cases b <;> rfl

theorem run_mutexTrackingTeardown_error {s s' : Lib} {l : List Handle} (hl : s.s_mutexes = some l)
    {e : Exit} (he : EStateM.run (anyLocked l) s = .error e s') :
    EStateM.run mutexTrackingTeardown s = .error e s' := by
  rw [mutexTrackingTeardown, EStateM.run_bind, EStateM.run_get]
  simp only [hl, reduceCtorEq, ↓reduceIte, EStateM.run_bind, run_isAnyMutexLocked hl, he]

/-! ## The roster of mutexes -/

/-- The memory, and the mutexes created since the tracking was turned on and not yet deleted. -/
structure Roster where
  lib : Lib
  mutexes : List Handle

namespace Roster

/-- What a call does to the roster. -/
def observe (w : Roster) (c : Call) (r : Reply) (s' : Lib) : Roster :=
  match c, r with
  | .createMutex _ _, .returned (.handle h) => ⟨s', w.mutexes ++ [h]⟩
  | .delete queue, .returned _ => ⟨s', w.mutexes.filter (· ≠ queue)⟩
  | _, _ => ⟨s', w.mutexes⟩

/-- The calls of a program that uses mutexes: mutexes of both types and other queues are created;
live ones are taken, given and deleted. -/
def TrackCall (w : Roster) : Call → Prop
  | .create _ _ _ t => ¬ IsMutexType t
  | .createSet .. | .createCountingSemaphore .. => True
  | .createMutex _ t => IsMutexType t
  | .send queue item pos =>
    (w.lib.lookup queue).isSome ∧ item = none ∧ pos = queueSEND_TO_BACK
  | .semaphoreTake queue | .takeMutexRecursive queue | .giveMutexRecursive queue
  | .delete queue => (w.lib.lookup queue).isSome
  | _ => False

/-- One call of such a program, observed. -/
def Step (w : Roster) (c : Call) (r : Reply) (w' : Roster) : Prop :=
  w.TrackCall c ∧ r.Defined ∧ ∃ s', w.lib.Step c r s' ∧ w' = w.observe c r s'

/-- The tracking is exact: the library's list has the mutexes of the roster, no others, and the
check reports a locked mutex exactly when one of them is held. -/
structure Exact (w : Roster) : Prop where
  tracked : ∃ l, w.lib.s_mutexes = some l ∧ ∀ h, h ∈ l ↔ h ∈ w.mutexes
  locked : ∃ b, w.lib.Step .isAnyMutexLocked (.returned (.bool b)) w.lib ∧
    (b = true ↔ ∃ h ∈ w.mutexes, w.lib.Held h)
  teardown : ∃ r s', w.lib.Step .trackingTeardown r s' ∧ s'.s_mutexes = none ∧
    (r = .returned .unit ∨ r = .left .testFailed) ∧
    (r = .left .testFailed ↔ ∃ h ∈ w.mutexes, w.lib.Held h)

/-- The call deletes no recursive mutex of the roster. -/
def KeepsRecursive (w : Roster) (c : Call) : Prop :=
  ∀ queue q, c = .delete queue → queue ∈ w.mutexes → w.lib.lookup queue = some q →
    q.queueType ≠ queueQUEUE_TYPE_RECURSIVE_MUTEX

/-! ## The invariant -/

/-- The library tracks the roster, whose mutexes are live. -/
structure Inv (w : Roster) : Prop where
  sound : w.lib.Sound
  tracked : w.lib.s_mutexes = some w.mutexes
  live : ∀ h ∈ w.mutexes, ∃ q, w.lib.lookup h = some q ∧ IsMutexType q.queueType

variable {w w' : Roster} {c : Call} {r : Reply} {s' : Lib}

theorem Inv.exact (h : w.Inv) : w.Exact := by
  obtain ⟨b, hrun, hb⟩ := run_anyLocked h.sound.wellFormed fun x hx =>
    (h.live x hx).imp fun _ hq => hq.1
  have hlocked := (run_isAnyMutexLocked h.tracked).trans hrun
  have hteardown := run_mutexTrackingTeardown h.tracked hrun
  refine ⟨⟨_, h.tracked, fun _ => Iff.rfl⟩, ⟨b, Lib.step_of_ok rfl hlocked, hb⟩, ?_⟩
  cases b with
  | true =>
    exact ⟨_, _, Lib.step_of_error rfl hteardown, rfl, .inr rfl, iff_of_true rfl (hb.mp rfl)⟩
  | false =>
    exact ⟨_, _, Lib.step_of_ok rfl hteardown, rfl, .inl rfl,
      iff_of_false (by simp) fun hheld => by simpa using hb.mpr hheld⟩

theorem TrackCall.mutexesByCreateMutex (h : w.TrackCall c) : c.MutexesByCreateMutex := by
  cases c with
  | create => exact not_or.mp h
  | _ => trivial

/-- A mutex is created at a fresh address, tracked and entered in the roster. -/
theorem Inv.createMutex (hI : w.Inv) {addr : Handle} {t : UInt8} (ht : IsMutexType t)
    (hstep : w.lib.Step (.createMutex addr t) r s') (hd : r.Defined) :
    (w.observe (.createMutex addr t) r s').Inv := by
  by_cases hf : w.lib.Fresh addr
  · obtain ⟨rfl, rfl⟩ := hstep.deterministic (Lib.step_of_ok rfl (run_xQueueCreateMutex hf ht))
    refine ⟨(hI.sound.write hf.1 (freshMutex_sound t)).congr fun _ => rfl, ?_, fun h hh => ?_⟩
    · exact congrArg (Option.map (· ++ [addr])) hI.tracked
    · rcases List.mem_append.mp hh with hh | hh
      · obtain ⟨q, hq, hqt⟩ := hI.live h hh
        have hne : h ≠ addr := by
          rintro rfl
          rw [hf.2] at hq
          cases hq
        exact ⟨q, (Lib.lookup_write_of_ne _ _ hne).trans hq, hqt⟩
      · obtain rfl := List.mem_singleton.mp hh
        exact ⟨_, Lib.lookup_write_self .., ht⟩
  · exact absurd hd (hstep.not_defined rfl (run_xQueueCreateMutex_not_fresh hf t))

theorem step_delete {s s' : Lib} (hw : s.WellFormed) {queue : Handle} {q : FakeQueue}
    (hq : s.lookup queue = some q) (hstep : s.Step (.delete queue) r s') :
    r = .returned .unit ∧
      s' = (if q.queueType = queueQUEUE_TYPE_MUTEX then s.untrack queue else s).free queue :=
  hstep.deterministic
    (Lib.step_of_ok (f := fun _ => .unit) rfl (run_vQueueDelete (hw.ne_nullptr hq) hq))

/-- A deleted queue leaves the roster; the library takes it off its list, unless it is a recursive
mutex. -/
theorem Inv.delete (hI : w.Inv) {queue : Handle} {q : FakeQueue}
    (hq : w.lib.lookup queue = some q) (hstep : w.lib.Step (.delete queue) r s')
    (hok : w.KeepsRecursive (.delete queue)) : (w.observe (.delete queue) r s').Inv := by
  obtain ⟨rfl, rfl⟩ := step_delete hI.sound.wellFormed hq hstep
  refine ⟨?_, ?_, fun h hh => ?_⟩
  · refine Lib.Sound.free ?_ _
    split
    · exact hI.sound.congr fun _ => rfl
    · exact hI.sound
  · by_cases ht : q.queueType = queueQUEUE_TYPE_MUTEX
    · simp only [observe, ht, ↓reduceIte, Lib.s_mutexes_free, Lib.untrack, hI.tracked,
        Option.map_some]
    · -- the deleted queue is neither a standard mutex nor, being kept, a recursive one
      have hnot : queue ∉ w.mutexes := by
        intro hmem
        obtain ⟨q', hq', hmt⟩ := hI.live queue hmem
        obtain rfl : q = q' := Option.some.inj (hq.symm.trans hq')
        exact hok queue q rfl hmem hq (hmt.resolve_left ht)
      have hfilter : w.mutexes.filter (· ≠ queue) = w.mutexes :=
        List.filter_eq_self.mpr fun h hh => by
          rw [decide_eq_true_eq]
          rintro rfl
          exact hnot hh
      simp only [observe, ht, ↓reduceIte, Lib.s_mutexes_free, hI.tracked, hfilter]
  · obtain ⟨hh, hne⟩ := List.mem_filter.mp hh
    obtain ⟨q', hq', hqt⟩ := hI.live h hh
    refine ⟨q', ?_, hqt⟩
    simp only [observe]
    rw [Lib.lookup_free_of_ne _ (of_decide_eq_true hne)]
    split <;> exact hq'

/-- Every other call keeps the mutexes and the list. -/
theorem Inv.other (hI : w.Inv) (hc : w.TrackCall c) (hd : r.Defined)
    (hstep : w.lib.Step c r s') (hm : ∀ addr t, c ≠ .createMutex addr t)
    (hdel : ∀ queue, c ≠ .delete queue) : (w.observe c r s').Inv := by
  have hseen : w.observe c r s' = ⟨s', w.mutexes⟩ := by
    cases c with
    | createMutex addr t => exact absurd rfl (hm addr t)
    | delete queue => exact absurd rfl (hdel queue)
    | _ => rfl
  have heff := hstep.effect hd
  rw [hseen]
  refine ⟨heff.sound hc.mutexesByCreateMutex hI.sound, ?_, fun h hh => ?_⟩
  · cases heff with
    | evolves _ h => exact h.s_mutexes.trans hI.tracked
    | unchanged => exact hI.tracked
    | creates => exact hI.tracked
    | createsMutex => exact absurd rfl (hm _ _)
    | deletes => exact absurd rfl (hdel _)
    | tracksOn => exact absurd hc id
    | tracksOff => exact absurd hc id
  · obtain ⟨q, hq, hqt⟩ := hI.live h hh
    cases heff with
    | evolves _ he =>
      obtain ⟨q', hq', hk⟩ := he.exists_lookup hq
      exact ⟨q', hq', (congrArg (fun k => k.2.2) hk : q'.queueType = q.queueType) ▸ hqt⟩
    | unchanged => exact ⟨q, hq, hqt⟩
    | @creates _ addr _ _ hf =>
      have hne : h ≠ addr := by
        rintro rfl
        rw [hf.2] at hq
        cases hq
      exact ⟨q, (Lib.lookup_write_of_ne _ _ hne).trans hq, hqt⟩
    | createsMutex => exact absurd rfl (hm _ _)
    | deletes => exact absurd rfl (hdel _)
    | tracksOn => exact absurd hc id
    | tracksOff => exact absurd hc id

theorem Inv.step (hI : w.Inv) (h : w.Step c r w') (hok : w.KeepsRecursive c) : w'.Inv := by
  obtain ⟨hc, hd, s', hstep, rfl⟩ := h
  by_cases hm : ∃ addr t, c = .createMutex addr t
  · obtain ⟨addr, t, rfl⟩ := hm
    exact hI.createMutex hc hstep hd
  by_cases hdel : ∃ queue, c = .delete queue
  · obtain ⟨queue, rfl⟩ := hdel
    obtain ⟨q, hq⟩ := Option.isSome_iff_exists.mp hc
    exact hI.delete hq hstep hok
  · exact hI.other hc hd hstep (fun addr t he => hm ⟨addr, t, he⟩)
      (fun queue he => hdel ⟨queue, he⟩)

/-- Deleting a recursive mutex of the roster leaves its handle on the library's list. -/
theorem Inv.not_exact (hI : w.Inv) (h : w.Step c r w') (hok : ¬ w.KeepsRecursive c) :
    ¬ w'.Exact := by
  obtain ⟨hc, hd, s', hstep, rfl⟩ := h
  simp only [KeepsRecursive, not_forall, not_not] at hok
  obtain ⟨queue, q, rfl, hmem, hq, ht⟩ := hok
  obtain ⟨rfl, rfl⟩ := step_delete hI.sound.wellFormed hq hstep
  have hne : q.queueType ≠ queueQUEUE_TYPE_MUTEX := by rw [ht]; decide
  rintro ⟨⟨l, hl, hiff⟩, -, -⟩
  simp only [observe, hne, ↓reduceIte, Lib.s_mutexes_free, hI.tracked] at hl
  obtain rfl := Option.some.inj hl
  exact (List.mem_filter.mp ((hiff queue).mp hmem)).2 |> of_decide_eq_true |> absurd rfl

theorem Step.deterministic {w₁ w₂ : Roster} (h₁ : w.Step c r w₁) (h₂ : w.Step c r w₂) :
    w₁ = w₂ := by
  obtain ⟨-, -, s₁, hs₁, rfl⟩ := h₁
  obtain ⟨-, -, s₂, hs₂, rfl⟩ := h₂
  rw [(hs₁.deterministic hs₂).2]

end Roster

/-- **When mutex tracking is exact.** From a call of `MutexTrackingInit` on, in every run, the
tracking is exact in every state if and only if no step deletes a recursive mutex that was created
since. -/
theorem tracking_exact_iff {s s' : Lib} (hs : s.Reachable)
    (hinit : s.Step .trackingInit (.returned .unit) s') {tr : List (Call × Reply)} {w : Roster}
    (hrun : Run Roster.Step ⟨s', []⟩ tr w) :
    EveryState Roster.Step Roster.Exact ⟨s', []⟩ tr ↔
      EveryStep Roster.Step Roster.KeepsRecursive ⟨s', []⟩ tr := by
  have hs' : s' = { s with s_mutexes := some [] } := by
    rw [Lib.step_returned_iff, Call.exec, run_map, run_mutexTrackingInit] at hinit
    by_cases hm : s.s_mutexes = none
    · rw [if_pos hm] at hinit
      cases hinit
      rfl
    · rw [if_neg hm] at hinit
      cases hinit
  subst hs'
  have h₀ : Roster.Inv ⟨{ s with s_mutexes := some [] }, []⟩ :=
    ⟨hs.sound.congr fun _ => rfl, rfl, fun _ hh => by cases hh⟩
  exact everyState_iff_everyStep (fun _ _ _ _ _ => Roster.Step.deterministic)
    (fun _ => Roster.Inv.exact) (fun _ _ _ _ hI h hok => hI.step h hok)
    (fun _ _ _ _ hI h hok => hI.not_exact h hok) hrun h₀

/-- The memory just after the tracking is turned on, nothing else having happened. -/
def trackingOn : Lib := { Lib.init with s_mutexes := some [] }

theorem trackingOn_of_init : Lib.init.Step .trackingInit (.returned .unit) trackingOn := by
  decide +kernel

/-- A standard mutex is taken and then deleted, beside a recursive mutex that stays. -/
theorem tracking_exact_standard : ∃ w tr, tr.map Prod.fst =
      [.createMutex 1 queueQUEUE_TYPE_MUTEX, .createMutex 2 queueQUEUE_TYPE_RECURSIVE_MUTEX,
        .semaphoreTake 1, .delete 1] ∧
    Run Roster.Step ⟨trackingOn, []⟩ tr w ∧ w.mutexes = [2] ∧
    EveryState Roster.Step Roster.Exact ⟨trackingOn, []⟩ tr := by
  let s₁ : Lib := (trackingOn.write 1 (freshMutex queueQUEUE_TYPE_MUTEX)).track 1
  let s₂ : Lib := (s₁.write 2 (freshMutex queueQUEUE_TYPE_RECURSIVE_MUTEX)).track 2
  let s₃ : Lib := s₂.write 1 { freshMutex queueQUEUE_TYPE_MUTEX with queue := [] }
  let s₄ : Lib := (s₃.untrack 1).free 1
  have h₁ : trackingOn.Step (.createMutex 1 queueQUEUE_TYPE_MUTEX) (.returned (.handle 1)) s₁ := by
    decide +kernel
  have h₂ : s₁.Step (.createMutex 2 queueQUEUE_TYPE_RECURSIVE_MUTEX) (.returned (.handle 2))
      s₂ := by
    decide +kernel
  have h₃ : s₂.Step (.semaphoreTake 1) (.returned (.code pdTRUE)) s₃ := by decide +kernel
  have h₄ : s₃.Step (.delete 1) (.returned .unit) s₄ := by decide +kernel
  have hlive₂ : (s₂.lookup 1).isSome := by decide +kernel
  have hlive₃ : (s₃.lookup 1).isSome := by decide +kernel
  have hw₁ : Roster.Step ⟨trackingOn, []⟩ (.createMutex 1 queueQUEUE_TYPE_MUTEX)
      (.returned (.handle 1)) ⟨s₁, [1]⟩ := ⟨.inl rfl, by decide, s₁, h₁, rfl⟩
  have hw₂ : Roster.Step ⟨s₁, [1]⟩ (.createMutex 2 queueQUEUE_TYPE_RECURSIVE_MUTEX)
      (.returned (.handle 2)) ⟨s₂, [1, 2]⟩ := ⟨.inr rfl, by decide, s₂, h₂, rfl⟩
  have hw₃ : Roster.Step ⟨s₂, [1, 2]⟩ (.semaphoreTake 1) (.returned (.code pdTRUE))
      ⟨s₃, [1, 2]⟩ := ⟨hlive₂, by decide, s₃, h₃, rfl⟩
  have hw₄ : Roster.Step ⟨s₃, [1, 2]⟩ (.delete 1) (.returned .unit) ⟨s₄, [2]⟩ :=
    ⟨hlive₃, by decide, s₄, h₄, rfl⟩
  have hrun := Run.cons hw₁ (.cons hw₂ (.cons hw₃ (.cons hw₄ (.nil _))))
  refine ⟨_, _, rfl, hrun, rfl,
    (tracking_exact_iff ⟨[], .nil _⟩ trackingOn_of_init hrun).mpr ?_⟩
  have hdet := fun w c r w₁ w₂ (h₁ : Roster.Step w c r w₁) (h₂ : Roster.Step w c r w₂) =>
    h₁.deterministic h₂
  rw [everyStep_cons (hdet _ _ _) hw₁, everyStep_cons (hdet _ _ _) hw₂,
    everyStep_cons (hdet _ _ _) hw₃, everyStep_cons (hdet _ _ _) hw₄]
  refine ⟨?_, ?_, ?_, fun queue q he hmem hq => ?_, everyStep_nil⟩
  · exact fun _ _ he => by cases he
  · exact fun _ _ he => by cases he
  · exact fun _ _ he => by cases he
  · cases he
    have hq' : s₃.lookup 1 = some { freshMutex queueQUEUE_TYPE_MUTEX with queue := [] } := by
      decide +kernel
    obtain rfl := Option.some.inj (hq'.symm.trans hq)
    exact (by decide : queueQUEUE_TYPE_MUTEX ≠ queueQUEUE_TYPE_RECURSIVE_MUTEX)

/-- A recursive mutex that is deleted stays on the list, and the next check reads the freed
queue. -/
theorem tracking_not_exact : ∃ w, Run Roster.Step ⟨trackingOn, []⟩
      [(.createMutex 1 queueQUEUE_TYPE_RECURSIVE_MUTEX, .returned (.handle 1)),
        (.takeMutexRecursive 1, .returned (.code pdTRUE)), (.delete 1, .returned .unit)] w ∧
    ¬ w.Exact ∧ w.lib.Step .isAnyMutexLocked (.left .undefined) w.lib := by
  let m : FakeQueue := freshMutex queueQUEUE_TYPE_RECURSIVE_MUTEX
  let s₁ : Lib := (trackingOn.write 1 m).track 1
  let s₂ : Lib := s₁.write 1 { m with queue := [], recursiveCallCount := 1 }
  let s₃ : Lib := s₂.free 1
  have h₁ : trackingOn.Step (.createMutex 1 queueQUEUE_TYPE_RECURSIVE_MUTEX)
      (.returned (.handle 1)) s₁ := by decide +kernel
  have h₂ : s₁.Step (.takeMutexRecursive 1) (.returned (.code pdTRUE)) s₂ := by decide +kernel
  have h₃ : s₂.Step (.delete 1) (.returned .unit) s₃ := by decide +kernel
  have hread : s₃.Step .isAnyMutexLocked (.left .undefined) s₃ := by decide +kernel
  have hlive₁ : (s₁.lookup 1).isSome := by decide +kernel
  have hlive₂ : (s₂.lookup 1).isSome := by decide +kernel
  refine ⟨⟨s₃, []⟩, .cons ⟨.inr rfl, by decide, s₁, h₁, rfl⟩ (.cons ⟨hlive₁, by decide, s₂, h₂, rfl⟩
    (.cons ⟨hlive₂, by decide, s₃, h₃, rfl⟩ (.nil _))), fun hexact => ?_, hread⟩
  obtain ⟨b, hb, -⟩ := hexact.locked
  have := (hread.deterministic hb).1
  cases this

end FakeFreeRtos
