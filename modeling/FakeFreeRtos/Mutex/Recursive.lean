import FakeFreeRtos.Queue.Frame
import FakeFreeRtos.Queue.Receive

/-!
# Recursive mutexes

Who holds a recursive mutex is told by two things that different functions update: the token in
the queue and `recursiveCallCount`. They agree in every run (`recursiveMutex_matches`): the count
is the takes less the gives that succeeded, and the token is there exactly when it is 0. So the
mutex is released by the last matching give, and gives beyond that are refused.
-/

namespace FakeFreeRtos

open Foundations

/-- `xSemaphoreTakeRecursive`. -/
def Call.TakesRecursive (mutex : Handle) (c : Call) : Prop := c = .takeMutexRecursive mutex

/-- `xSemaphoreGiveRecursive`. -/
def Call.GivesRecursive (mutex : Handle) (c : Call) : Prop := c = .giveMutexRecursive mutex

/-- The calls for semaphores that assert that they are not given a recursive mutex. -/
def Call.TriesSemaphore (mutex : Handle) (c : Call) : Prop :=
  c = .semaphoreTake mutex ∨ c = .giveFromISR mutex

instance (mutex : Handle) : DecidablePred (Call.TakesRecursive mutex) := fun _ =>
  inferInstanceAs (Decidable (_ = _))

instance (mutex : Handle) : DecidablePred (Call.GivesRecursive mutex) := fun _ =>
  inferInstanceAs (Decidable (_ = _))

theorem Call.TakesRecursive.handles {mutex : Handle} {c : Call} (h : c.TakesRecursive mutex) :
    mutex ∈ c.handles := by
  subst h
  exact List.mem_singleton.mpr rfl

theorem Call.GivesRecursive.handles {mutex : Handle} {c : Call} (h : c.GivesRecursive mutex) :
    mutex ∈ c.handles := by
  subst h
  exact List.mem_singleton.mpr rfl

theorem Call.TakesRecursive.not_gives {mutex : Handle} {c : Call} (h : c.TakesRecursive mutex) :
    ¬ c.GivesRecursive mutex := by
  subst h
  exact Call.noConfusion

/-- One step of a program that takes and gives the mutex, or tries to use it as a semaphore, and
does what it likes elsewhere. -/
abbrev Lib.RecursiveStep (mutex : Handle) : Lib → Call → Reply → Lib → Prop :=
  Lib.UsesOnly mutex fun c =>
    c.TakesRecursive mutex ∨ c.GivesRecursive mutex ∨ c.TriesSemaphore mutex

/-- What the mutex is like after the given numbers of successful takes and gives. -/
structure Lib.HeldAfter (s : Lib) (mutex : Handle) (takes gives : ℕ) : Prop where
  callCount : ∃ q, s.lookup mutex = some q ∧ q.recursiveCallCount.toNat + gives = takes
  count : EStateM.run (uxSemaphoreGetCount mutex) s = .ok (if takes = gives then 1 else 0) s
  take : ∀ c, c.TakesRecursive mutex → ∃ s', s.Step c (.returned (.code pdTRUE)) s'
  give : ∀ c, c.GivesRecursive mutex → ∃ b s', s.Step c (.returned (.code b)) s' ∧
    (b = pdTRUE ∧ gives < takes ∨ b = pdFALSE ∧ ¬ gives < takes)
  semaphore : ∀ c, c.TriesSemaphore mutex → s.Step c (.left .assertFailed) s

/-! ## The mutex in memory -/

/-- A recursive mutex that is held `n` times. -/
def recursiveMutex (n : ℕ) : FakeQueue :=
  { freshMutex queueQUEUE_TYPE_RECURSIVE_MUTEX with
    queue := if n = 0 then [[]] else []
    recursiveCallCount := UInt64.ofNat n }

theorem queueType_recursiveMutex (n : ℕ) :
    (recursiveMutex n).queueType = queueQUEUE_TYPE_RECURSIVE_MUTEX := rfl

/-- The mutex is held `n` times, and is not used as a set. -/
structure Lib.IsRecursive (s : Lib) (mutex : Handle) (n : ℕ) : Prop where
  ne_nullptr : mutex ≠ nullptr
  noMember : s.NoMember mutex
  live : s.lookup mutex = some (recursiveMutex n)
  lt : n < 2 ^ 64

namespace Lib.IsRecursive

variable {s s' : Lib} {mutex : Handle} {n : ℕ} {c : Call} {r : Reply}

theorem write (h : s.IsRecursive mutex n) {k : ℕ} (hk : k < 2 ^ 64) :
    (s.write mutex (recursiveMutex k)).IsRecursive mutex k :=
  ⟨h.ne_nullptr, h.noMember.write mutex h.ne_nullptr.symm, Lib.lookup_write_self .., hk⟩

theorem toNat_callCount (h : s.IsRecursive mutex n) :
    (recursiveMutex n).recursiveCallCount.toNat = n := by
  rw [recursiveMutex, UInt64.toNat_ofNat', Nat.mod_eq_of_lt h.lt]

theorem run_uxSemaphoreGetCount (h : s.IsRecursive mutex n) :
    EStateM.run (uxSemaphoreGetCount mutex) s = .ok (if n = 0 then 1 else 0) s := by
  rw [uxSemaphoreGetCount, run_uxQueueMessagesWaiting h.ne_nullptr h.live, recursiveMutex]
  by_cases hn : n = 0
  · simp only [hn, ↓reduceIte]
    rfl
  · simp only [hn, ↓reduceIte]
    rfl

/-- A take: the token is gone afterwards, whether it was there or not. -/
theorem run_take (h : s.IsRecursive mutex n) :
    EStateM.run (xQueueTakeMutexRecursive mutex) s =
      .ok pdTRUE (s.write mutex { recursiveMutex n with
        queue := [], recursiveCallCount := (recursiveMutex n).recursiveCallCount + 1 }) := by
  have hcount := h.run_uxSemaphoreGetCount
  rw [xQueueTakeMutexRecursive, EStateM.run_bind, run_configASSERT_of h.ne_nullptr]
  simp only [EStateM.run_bind, run_deref h.live]
  rw [run_configASSERT_of (queueType_recursiveMutex _)]
  by_cases hn : n = 0
  · have hone : (1 : UBaseType) ≠ 0 := by decide
    subst hn
    have hqueue : (recursiveMutex 0).queue = [[]] := rfl
    have hb : (recursiveMutex 0).itemSize.toNat ≤ (List.replicate 8 (0 : UInt8)).length :=
      Nat.zero_le _
    have hrecv := run_internalQueueReceive_of_length h.ne_nullptr h.live hqueue rfl hb
    simp only [↓reduceIte] at hcount
    simp only [hcount, ↓reduceIte, EStateM.run_bind, internalQueueReceiveDummy,
      run_configASSERT_of h.ne_nullptr, hrecv, EStateM.run_pure, ne_eq, not_true_eq_false,
      run_deref (Lib.lookup_write_self ..), run_assign, Lib.write_write]
  · have hzero : (0 : UBaseType) ≠ 1 := by decide
    have hqueue : (recursiveMutex n).queue = [] := if_neg hn
    rw [if_neg hn] at hcount
    simp only [hcount, hzero, ↓reduceIte, EStateM.run_bind, run_assign, EStateM.run_pure]
    rw [← hqueue]

theorem take (h : s.IsRecursive mutex n) (hlt : n + 1 < 2 ^ 64) (hc : c.TakesRecursive mutex) :
    ∃ s', s.Step c (.returned (.code pdTRUE)) s' ∧ s'.IsRecursive mutex (n + 1) := by
  subst hc
  have hnext : { recursiveMutex n with
      queue := [], recursiveCallCount := (recursiveMutex n).recursiveCallCount + 1 } =
      recursiveMutex (n + 1) := by
    simp only [recursiveMutex, Nat.succ_ne_zero, ↓reduceIte, UInt64.ofNat_add]
    rfl
  have hrun := h.run_take
  rw [hnext] at hrun
  exact ⟨_, Lib.step_of_ok (c := .takeMutexRecursive mutex) rfl hrun, h.write hlt⟩

/-- A give when the mutex is not held. -/
theorem giveFree (h : s.IsRecursive mutex 0) (hc : c.GivesRecursive mutex) :
    s.Step c (.returned (.code pdFALSE)) s := by
  subst hc
  have hone : ¬ ((1 : UBaseType) = 0 ∧ (recursiveMutex 0).recursiveCallCount > 0) := by decide
  refine Lib.step_of_ok (c := .giveMutexRecursive mutex) rfl ?_
  rw [xQueueGiveMutexRecursive, EStateM.run_bind, run_configASSERT_of h.ne_nullptr]
  simp only [EStateM.run_bind, run_deref h.live]
  rw [run_configASSERT_of (queueType_recursiveMutex _)]
  simp only [h.run_uxSemaphoreGetCount, ↓reduceIte, hone]
  rfl

/-- A give when the mutex is held. The last one returns the token. -/
theorem give (h : s.IsRecursive mutex (n + 1)) (hc : c.GivesRecursive mutex) :
    ∃ s', s.Step c (.returned (.code pdTRUE)) s' ∧ s'.IsRecursive mutex n := by
  subst hc
  have hlt : n < 2 ^ 64 := Nat.lt_of_succ_lt h.lt
  have hheld : (0 : UBaseType) = 0 ∧ (recursiveMutex (n + 1)).recursiveCallCount > 0 := by
    refine ⟨rfl, UInt64.lt_iff_toNat_lt.mpr ?_⟩
    rw [h.toNat_callCount]
    exact Nat.succ_pos n
  have hdec : (recursiveMutex (n + 1)).recursiveCallCount - 1 = UInt64.ofNat n := by
    rw [recursiveMutex, UInt64.ofNat_add]
    exact UInt64.add_sub_cancel ..
  have hzero : UInt64.ofNat n = 0 ↔ n = 0 := by
    rw [← UInt64.toNat_inj, UInt64.toNat_ofNat', Nat.mod_eq_of_lt hlt, UInt64.toNat_zero]
  set q' : FakeQueue := { recursiveMutex (n + 1) with recursiveCallCount := UInt64.ofNat n }
    with hq'
  have hgive := run_xSemaphoreGive (s := s.write mutex q') h.ne_nullptr (Lib.lookup_write_self ..)
    rfl rfl
  have hroom : q'.queue.length < q'.queueLength.toNat := Nat.zero_lt_one
  rw [if_pos hroom, Lib.write_write] at hgive
  refine ⟨s.write mutex (recursiveMutex n),
    Lib.step_of_ok (c := .giveMutexRecursive mutex) rfl ?_, h.write hlt⟩
  rw [xQueueGiveMutexRecursive, EStateM.run_bind, run_configASSERT_of h.ne_nullptr]
  simp only [EStateM.run_bind, run_deref h.live]
  rw [run_configASSERT_of (queueType_recursiveMutex _)]
  simp only [h.run_uxSemaphoreGetCount, Nat.succ_ne_zero, ↓reduceIte, hheld, and_self, hdec, ← hq',
    run_assign, EStateM.run_bind, hzero]
  by_cases hn : n = 0
  · subst hn
    simp only [↓reduceIte, hgive]
    rfl
  · simp only [hn, ↓reduceIte, EStateM.run_pure]
    rw [hq', recursiveMutex, recursiveMutex, if_neg hn, if_neg (Nat.succ_ne_zero n)]

/-- The mutex is no semaphore for takes and gives that are not recursive. -/
theorem semaphore (h : s.IsRecursive mutex n) (hc : c.TriesSemaphore mutex) :
    s.Step c (.left .assertFailed) s := by
  have hnot : ¬ (recursiveMutex n).queueType ≠ queueQUEUE_TYPE_RECURSIVE_MUTEX :=
    not_not_intro (queueType_recursiveMutex n)
  rcases hc with rfl | rfl
  · refine Lib.step_of_error (c := .semaphoreTake mutex) rfl ?_
    rw [xQueueSemaphoreTake, EStateM.run_bind, run_configASSERT_of h.ne_nullptr]
    simp only [EStateM.run_bind, run_deref h.live]
    rw [run_configASSERT_of_not hnot]
  · refine Lib.step_of_error (c := .giveFromISR mutex) rfl ?_
    rw [xQueueGiveFromISR, EStateM.run_bind, run_configASSERT_of h.ne_nullptr]
    simp only [EStateM.run_bind, run_deref h.live]
    rw [run_configASSERT_of_not hnot]

theorem heldAfter (h : s.IsRecursive mutex n) {takes gives : ℕ} (hbal : n + gives = takes) :
    s.HeldAfter mutex takes gives where
  callCount := ⟨_, h.live, by rw [h.toNat_callCount, hbal]⟩
  count := by
    have hiff : takes = gives ↔ n = 0 := by omega
    simp only [h.run_uxSemaphoreGetCount, hiff]
  take c hc := by
    subst hc
    exact ⟨_, Lib.step_of_ok (c := .takeMutexRecursive mutex) rfl h.run_take⟩
  give c hc := by
    cases n with
    | zero => exact ⟨_, s, h.giveFree hc, .inr ⟨rfl, by omega⟩⟩
    | succ n =>
      obtain ⟨s', hs, -⟩ := h.give hc
      exact ⟨_, s', hs, .inl ⟨rfl, by omega⟩⟩
  semaphore _ hc := h.semaphore hc

/-! ## Runs -/

/-- The mutex is held once for every successful take that no successful give has matched. -/
def Matched (mutex : Handle) (tr : List (Call × Reply)) (s : Lib) : Prop :=
  successes (Call.TakesRecursive mutex) tr < 2 ^ 64 →
    ∃ n, s.IsRecursive mutex n ∧
      n + successes (Call.GivesRecursive mutex) tr = successes (Call.TakesRecursive mutex) tr

/-- **Every step keeps takes and gives matched.** -/
theorem Matched.step {tr : List (Call × Reply)} (h : Matched mutex tr s)
    (hstep : Lib.RecursiveStep mutex s c r s') : Matched mutex (tr ++ [(c, r)]) s' := by
  intro hlt
  obtain ⟨n, hn, hbal⟩ := h ((successes_le_append _ _ _).trans_lt hlt)
  rcases hstep.cases hn.ne_nullptr hn.noMember with ⟨hc | hc | hc, hs⟩ | ⟨hh, hno, hlookup⟩
  · -- a take: it is counted, so there is room for it below the bound
    have hcount : r = .returned (.code pdTRUE) := by
      obtain ⟨s₁, hs₁⟩ := (hn.heldAfter hbal).take c hc
      exact (hs.deterministic hs₁).1
    rw [successes_append_of hc hcount] at hlt ⊢
    obtain ⟨s₁, hs₁, hn₁⟩ := hn.take (by omega) hc
    obtain ⟨-, rfl⟩ := hs.deterministic hs₁
    rw [successes_append_of_not fun hg => absurd hg hc.not_gives]
    exact ⟨n + 1, hn₁, by omega⟩
  · rw [successes_append_of_not fun ht => absurd hc (Call.TakesRecursive.not_gives ht)]
    cases n with
    | zero =>
      obtain ⟨rfl, rfl⟩ := hs.deterministic (hn.giveFree hc)
      rw [successes_append_of_not fun _ => by decide]
      exact ⟨0, hn, hbal⟩
    | succ n =>
      obtain ⟨s₁, hs₁, hn₁⟩ := hn.give hc
      obtain ⟨rfl, rfl⟩ := hs.deterministic hs₁
      rw [successes_append_of hc rfl]
      exact ⟨n, hn₁, by omega⟩
  · obtain ⟨rfl, rfl⟩ := hs.deterministic (hn.semaphore hc)
    rw [successes_append_of_not fun _ => by decide, successes_append_of_not fun _ => by decide]
    exact ⟨n, hn, hbal⟩
  · rw [successes_append_of_not fun ht => absurd ht.handles hh,
      successes_append_of_not fun hg => absurd hg.handles hh]
    exact ⟨n, ⟨hn.ne_nullptr, hno, hlookup.trans hn.live, hn.lt⟩, hbal⟩

end Lib.IsRecursive

/-- The mutex as it is created. -/
theorem Lib.Unused.isRecursive {s : Lib} {mutex : Handle} (hu : s.Unused mutex) :
    ∃ s₀, s.Step (.createMutex mutex queueQUEUE_TYPE_RECURSIVE_MUTEX)
      (.returned (.handle mutex)) s₀ ∧ s₀.IsRecursive mutex 0 :=
  ⟨_, Lib.step_of_ok rfl (run_xQueueCreateMutex hu.fresh (.inr rfl)), hu.fresh.1,
    hu.noMember.write mutex hu.fresh.1.symm, Lib.lookup_write_self .., by decide⟩

/-- **Recursive mutexes release only on the matching last give.** After every run of fewer than
2^64 takes, whatever the program does elsewhere and however it tries to use the mutex as a
semaphore: every take succeeds, a give succeeds exactly when the successful takes outnumber the
successful gives, `recursiveCallCount` is their difference, and the token is there exactly when
they are equal. -/
theorem recursiveMutex_matches {s : Lib} {mutex : Handle} (hu : s.Unused mutex) :
    ∃ s₀, s.Step (.createMutex mutex queueQUEUE_TYPE_RECURSIVE_MUTEX)
        (.returned (.handle mutex)) s₀ ∧
      ∀ tr s', Run (Lib.RecursiveStep mutex) s₀ tr s' →
        successes (Call.TakesRecursive mutex) tr < 2 ^ 64 →
        s'.HeldAfter mutex (successes (Call.TakesRecursive mutex) tr)
          (successes (Call.GivesRecursive mutex) tr) := by
  obtain ⟨s₀, hcreate, h₀⟩ := hu.isRecursive
  refine ⟨s₀, hcreate, fun tr s' hrun hlt => ?_⟩
  have hmatched : Lib.IsRecursive.Matched mutex tr s' :=
    hrun.history (fun _ _ _ _ _ h hstep => h.step hstep) fun _ => ⟨0, h₀, rfl⟩
  obtain ⟨n, hn, hbal⟩ := hmatched hlt
  exact hn.heldAfter hbal

/-- Three takes and one give leave the mutex held twice. -/
theorem recursiveMutex_matches_three : ∃ s₀ s',
    Lib.init.Step (.createMutex 1 queueQUEUE_TYPE_RECURSIVE_MUTEX) (.returned (.handle 1)) s₀ ∧
      Run (Lib.RecursiveStep 1) s₀
        [(.giveMutexRecursive 1, .returned (.code pdFALSE)),
          (.takeMutexRecursive 1, .returned (.code pdTRUE)),
          (.takeMutexRecursive 1, .returned (.code pdTRUE)),
          (.takeMutexRecursive 1, .returned (.code pdTRUE)),
          (.giveMutexRecursive 1, .returned (.code pdTRUE))] s' ∧
      s'.HeldAfter 1 3 1 := by
  have hu : Lib.init.Unused 1 := Lib.legal_init.unused (by simp [Lib.Fresh, nullptr])
  obtain ⟨s₀, hcreate, hmatches⟩ := recursiveMutex_matches hu
  let held (n : ℕ) : Lib := Lib.init.write 1 (recursiveMutex n)
  have hfree : Lib.init.Step (.createMutex 1 queueQUEUE_TYPE_RECURSIVE_MUTEX)
      (.returned (.handle 1)) (held 0) := by decide +kernel
  obtain ⟨-, rfl⟩ := hcreate.deterministic hfree
  have hrefused : Lib.RecursiveStep 1 (held 0) (.giveMutexRecursive 1)
      (.returned (.code pdFALSE)) (held 0) := ⟨by decide +kernel, .inl (.inr (.inl rfl))⟩
  have htake₁ : Lib.RecursiveStep 1 (held 0) (.takeMutexRecursive 1)
      (.returned (.code pdTRUE)) (held 1) := ⟨by decide +kernel, .inl (.inl rfl)⟩
  have htake₂ : Lib.RecursiveStep 1 (held 1) (.takeMutexRecursive 1)
      (.returned (.code pdTRUE)) (held 2) := ⟨by decide +kernel, .inl (.inl rfl)⟩
  have htake₃ : Lib.RecursiveStep 1 (held 2) (.takeMutexRecursive 1)
      (.returned (.code pdTRUE)) (held 3) := ⟨by decide +kernel, .inl (.inl rfl)⟩
  have hgive : Lib.RecursiveStep 1 (held 3) (.giveMutexRecursive 1)
      (.returned (.code pdTRUE)) (held 2) := ⟨by decide +kernel, .inl (.inr (.inl rfl))⟩
  have hrun := Run.cons hrefused (.cons htake₁ (.cons htake₂ (.cons htake₃ (.cons hgive
    (.nil (held 2))))))
  exact ⟨held 0, held 2, hcreate, hrun, hmatches _ _ hrun (by decide)⟩

end FakeFreeRtos
