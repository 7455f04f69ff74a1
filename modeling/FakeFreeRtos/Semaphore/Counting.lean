import FakeFreeRtos.Queue.Frame
import FakeFreeRtos.Queue.Receive

/-!
# Counting semaphores

A counting semaphore is created by a loop of gives whose results are dropped, so that an initial
count beyond the maximum is cut off there, without any complaint. From then on the semaphore is
exact, whatever the rest of the program does (`countingSemaphore_counts`): its count is where it
started, plus the successful gives from tasks and interrupts, less the successful takes; a give
fails exactly at the maximum and a take exactly at 0.
-/

namespace FakeFreeRtos

open Foundations

/-- `xSemaphoreGive` and `xQueueGiveFromISR`. -/
def Call.Gives (sema : Handle) (c : Call) : Prop :=
  c = .send sema none queueSEND_TO_BACK ∨ c = .giveFromISR sema

/-- `xSemaphoreTake`. -/
def Call.Takes (sema : Handle) (c : Call) : Prop := c = .semaphoreTake sema

instance (sema : Handle) : DecidablePred (Call.Gives sema) := fun _ =>
  inferInstanceAs (Decidable (_ ∨ _))

instance (sema : Handle) : DecidablePred (Call.Takes sema) := fun _ =>
  inferInstanceAs (Decidable (_ = _))

/-- One step of a program that gives and takes the semaphore, and does what it likes elsewhere. -/
abbrev Lib.SemaphoreStep (sema : Handle) : Lib → Call → Reply → Lib → Prop :=
  Lib.UsesOnly sema fun c => c.Gives sema ∨ c.Takes sema

/-- The semaphore counts `n`; a give fails exactly at the maximum, and a take exactly at 0. -/
structure Lib.CountsAt (s : Lib) (sema : Handle) (maxCount n : UBaseType) : Prop where
  count : EStateM.run (uxSemaphoreGetCount sema) s = .ok n s
  le_max : n ≤ maxCount
  give : ∀ c, c.Gives sema → ∃ b s', s.Step c (.returned (.code b)) s' ∧
    (b = pdTRUE ∧ n ≠ maxCount ∨ b = errQUEUE_FULL ∧ n = maxCount)
  take : ∀ c, c.Takes sema → ∃ b s', s.Step c (.returned (.code b)) s' ∧
    (b = pdTRUE ∧ n ≠ 0 ∨ b = pdFALSE ∧ n = 0)

theorem Call.Gives.handles {sema : Handle} {c : Call} (h : c.Gives sema) : sema ∈ c.handles := by
  rcases h with rfl | rfl <;> exact List.mem_singleton.mpr rfl

theorem Call.Takes.handles {sema : Handle} {c : Call} (h : c.Takes sema) : sema ∈ c.handles := by
  subst h
  exact List.mem_singleton.mpr rfl

theorem Call.Gives.not_takes {sema : Handle} {c : Call} (h : c.Gives sema) : ¬ c.Takes sema := by
  rcases h with rfl | rfl <;> exact Call.noConfusion

/-! ## The semaphore in memory -/

/-- A counting semaphore that counts `n`. -/
def countingSemaphore (maxCount : UBaseType) (n : ℕ) : FakeQueue :=
  { freshQueue maxCount 0 queueQUEUE_TYPE_BASE with queue := List.replicate n [] }

theorem countingSemaphore_not_recursive (maxCount : UBaseType) (n : ℕ) :
    (countingSemaphore maxCount n).queueType ≠ queueQUEUE_TYPE_RECURSIVE_MUTEX :=
  (by decide : queueQUEUE_TYPE_BASE ≠ queueQUEUE_TYPE_RECURSIVE_MUTEX)

/-- The semaphore at `sema` counts `n`, and is not used as a set. -/
structure Lib.IsCounter (s : Lib) (sema : Handle) (maxCount : UBaseType) (n : ℕ) : Prop where
  ne_nullptr : sema ≠ nullptr
  noMember : s.NoMember sema
  live : s.lookup sema = some (countingSemaphore maxCount n)
  le_max : n ≤ maxCount.toNat

namespace Lib.IsCounter

variable {s s' : Lib} {sema : Handle} {maxCount : UBaseType} {n : ℕ} {c : Call} {r : Reply}

/-- The count is written. -/
theorem write (h : s.IsCounter sema maxCount n) {k : ℕ} (hk : k ≤ maxCount.toNat) :
    (s.write sema (countingSemaphore maxCount k)).IsCounter sema maxCount k where
  ne_nullptr := h.ne_nullptr
  noMember := h.noMember.write sema h.ne_nullptr.symm
  live := Lib.lookup_write_self ..
  le_max := hk

theorem toNat_count (h : s.IsCounter sema maxCount n) : (UInt8.ofNat n).toNat = n := by
  have hle := h.le_max
  have hlt := maxCount.toNat_lt
  rw [UInt8.toNat_ofNat', Nat.mod_eq_of_lt (by omega)]

theorem run_uxSemaphoreGetCount (h : s.IsCounter sema maxCount n) :
    EStateM.run (uxSemaphoreGetCount sema) s = .ok (UInt8.ofNat n) s := by
  rw [uxSemaphoreGetCount, run_uxQueueMessagesWaiting h.ne_nullptr h.live, countingSemaphore,
    List.length_replicate]

/-- Both gives do the same. -/
theorem run_give (h : s.IsCounter sema maxCount n) (hc : c.Gives sema) :
    EStateM.run c.exec s =
      if n < maxCount.toNat then
        .ok (.code pdTRUE) (s.write sema (countingSemaphore maxCount (n + 1)))
      else .ok (.code errQUEUE_FULL) s := by
  have hgive := run_xSemaphoreGive h.ne_nullptr h.live rfl rfl
  have hnext : { countingSemaphore maxCount n with
      queue := (countingSemaphore maxCount n).queue ++ [[]] } =
      countingSemaphore maxCount (n + 1) := by
    simp only [countingSemaphore, ← List.replicate_succ']
  have hlen : (countingSemaphore maxCount n).queue.length = n := List.length_replicate
  have hmax : (countingSemaphore maxCount n).queueLength = maxCount := rfl
  rw [hnext, hlen, hmax] at hgive
  have hexec : EStateM.run c.exec s = EStateM.run (.code <$> xSemaphoreGive sema) s := by
    rcases hc with rfl | rfl
    · rfl
    · have hisr := run_xQueueGiveFromISR_eq h.ne_nullptr h.live
        (countingSemaphore_not_recursive maxCount n)
      rw [Call.exec, run_map, run_map, hisr]
      rfl
  rw [hexec, run_map, hgive]
  by_cases hlt : n < maxCount.toNat <;> simp only [hlt, ↓reduceIte]

/-- A give below the maximum. -/
theorem give (h : s.IsCounter sema maxCount n) (hc : c.Gives sema) (hlt : n < maxCount.toNat) :
    ∃ s', s.Step c (.returned (.code pdTRUE)) s' ∧ s'.IsCounter sema maxCount (n + 1) := by
  refine ⟨_, Lib.step_returned_iff.mpr ?_, h.write hlt⟩
  rw [h.run_give hc, if_pos hlt]

/-- A give at the maximum. -/
theorem giveFull (h : s.IsCounter sema maxCount n) (hc : c.Gives sema)
    (hfull : ¬ n < maxCount.toNat) : s.Step c (.returned (.code errQUEUE_FULL)) s := by
  rw [Lib.step_returned_iff, h.run_give hc, if_neg hfull]

theorem take (h : s.IsCounter sema maxCount (n + 1)) (hc : c.Takes sema) :
    ∃ s', s.Step c (.returned (.code pdTRUE)) s' ∧ s'.IsCounter sema maxCount n := by
  subst hc
  have hrun := run_xQueueSemaphoreTake_of_length h.ne_nullptr h.live
    (countingSemaphore_not_recursive maxCount (n + 1)) (Nat.zero_le _) List.replicate_succ rfl
  exact ⟨_, Lib.step_of_ok (c := .semaphoreTake sema) rfl hrun,
    h.write (Nat.le_of_succ_le h.le_max)⟩

theorem takeNone (h : s.IsCounter sema maxCount 0) (hc : c.Takes sema) :
    s.Step c (.returned (.code pdFALSE)) s := by
  subst hc
  exact Lib.step_of_ok (c := .semaphoreTake sema) rfl
    (run_xQueueSemaphoreTake_nil h.ne_nullptr h.live (countingSemaphore_not_recursive maxCount 0)
      rfl)

theorem countsAt (h : s.IsCounter sema maxCount n) :
    s.CountsAt sema maxCount (UInt8.ofNat n) := by
  have hn := h.toNat_count
  refine ⟨h.run_uxSemaphoreGetCount, ?_, fun c hc => ?_, fun c hc => ?_⟩
  · rw [UInt8.le_iff_toNat_le, hn]
    exact h.le_max
  · by_cases hlt : n < maxCount.toNat
    · obtain ⟨s', hs, -⟩ := h.give hc hlt
      refine ⟨_, s', hs, .inl ⟨rfl, fun he => ?_⟩⟩
      rw [← he, hn] at hlt
      exact lt_irrefl n hlt
    · refine ⟨_, s, h.giveFull hc hlt, .inr ⟨rfl, UInt8.toNat_inj.mp ?_⟩⟩
      rw [hn]
      exact le_antisymm h.le_max (not_lt.mp hlt)
  · cases n with
    | zero => exact ⟨_, s, h.takeNone hc, .inr ⟨rfl, rfl⟩⟩
    | succ n =>
      obtain ⟨s', hs, -⟩ := h.take hc
      refine ⟨_, s', hs, .inl ⟨rfl, fun he => ?_⟩⟩
      rw [he, UInt8.toNat_zero] at hn
      exact Nat.succ_ne_zero n hn.symm

/-! ## Runs -/

/-- The count, and the calls that led to it from a count of `start`. -/
def Balanced (sema : Handle) (maxCount : UBaseType) (start : ℕ) (tr : List (Call × Reply))
    (s : Lib) : Prop :=
  ∃ n, s.IsCounter sema maxCount n ∧
    n + successes (Call.Takes sema) tr = start + successes (Call.Gives sema) tr

/-- **Every step keeps the balance.** -/
theorem Balanced.step {start : ℕ} {tr : List (Call × Reply)}
    (h : Balanced sema maxCount start tr s) (hstep : Lib.SemaphoreStep sema s c r s') :
    Balanced sema maxCount start (tr ++ [(c, r)]) s' := by
  obtain ⟨n, hn, hbal⟩ := h
  rcases hstep.cases hn.ne_nullptr hn.noMember with ⟨hc | hc, hs⟩ | ⟨hh, hno, hlookup⟩
  · rw [Balanced, successes_append_of_not fun ht => absurd ht hc.not_takes]
    by_cases hlt : n < maxCount.toNat
    · obtain ⟨s₁, hs₁, hn₁⟩ := hn.give hc hlt
      obtain ⟨rfl, rfl⟩ := hs.deterministic hs₁
      rw [successes_append_of hc rfl]
      exact ⟨n + 1, hn₁, by omega⟩
    · obtain ⟨rfl, rfl⟩ := hs.deterministic (hn.giveFull hc hlt)
      rw [successes_append_of_not fun _ => by decide]
      exact ⟨n, hn, hbal⟩
  · rw [Balanced, successes_append_of_not fun hg => absurd hc (Call.Gives.not_takes hg)]
    cases n with
    | zero =>
      obtain ⟨rfl, rfl⟩ := hs.deterministic (hn.takeNone hc)
      rw [successes_append_of_not fun _ => by decide]
      exact ⟨0, hn, hbal⟩
    | succ n =>
      obtain ⟨s₁, hs₁, hn₁⟩ := hn.take hc
      obtain ⟨rfl, rfl⟩ := hs.deterministic hs₁
      rw [successes_append_of hc rfl]
      exact ⟨n, hn₁, by omega⟩
  · rw [Balanced, successes_append_of_not fun ht => absurd ht.handles hh,
      successes_append_of_not fun hg => absurd hg.handles hh]
    exact ⟨n, ⟨hn.ne_nullptr, hno, hlookup.trans hn.live, hn.le_max⟩, hbal⟩

end Lib.IsCounter

/-- The semaphore as it is created. -/
theorem Lib.Unused.isCounter {s : Lib} {sema : Handle} (hu : s.Unused sema)
    (maxCount initialCount : UBaseType) :
    ∃ s₀, s.Step (.createCountingSemaphore sema maxCount initialCount)
        (.returned (.handle sema)) s₀ ∧
      s₀.IsCounter sema maxCount (min initialCount.toNat maxCount.toNat) :=
  ⟨_, Lib.step_of_ok rfl (run_xQueueCreateCountingSemaphore hu.fresh maxCount initialCount),
    hu.fresh.1, hu.noMember.write sema hu.fresh.1.symm, Lib.lookup_write_self ..,
    Nat.min_le_right ..⟩

/-- **Counting semaphores count exactly, from an initial count that is cut off at the maximum.**
For every maximum and every initial count, the semaphore is created; and after every run of a
program that gives and takes it, its count is the initial count or the maximum, whichever is
less, plus the successful gives less the successful takes. A give fails exactly at the maximum,
from tasks and interrupts alike, and a take exactly at 0. -/
theorem countingSemaphore_counts {s : Lib} {sema : Handle} (hu : s.Unused sema)
    (maxCount initialCount : UBaseType) :
    ∃ s₀, s.Step (.createCountingSemaphore sema maxCount initialCount)
        (.returned (.handle sema)) s₀ ∧
      ∀ tr s', Run (Lib.SemaphoreStep sema) s₀ tr s' →
        ∃ n : UBaseType, s'.CountsAt sema maxCount n ∧
          n.toNat + successes (Call.Takes sema) tr =
            min initialCount.toNat maxCount.toNat + successes (Call.Gives sema) tr := by
  obtain ⟨s₀, hcreate, h₀⟩ := hu.isCounter maxCount initialCount
  refine ⟨s₀, hcreate, fun tr s' hrun => ?_⟩
  obtain ⟨n, hn, hbal⟩ : Lib.IsCounter.Balanced sema maxCount
      (min initialCount.toNat maxCount.toNat) tr s' :=
    hrun.history (fun _ _ _ _ _ h hstep => h.step hstep) ⟨_, h₀, rfl⟩
  exact ⟨UInt8.ofNat n, hn.countsAt, by rw [hn.toNat_count, hbal]⟩

/-- A semaphore of two tokens, created with one: the second give fails, and a take leaves one. -/
theorem countingSemaphore_counts_two :
    ∃ s₀ s' n, Lib.init.Step (.createCountingSemaphore 1 2 1) (.returned (.handle 1)) s₀ ∧
      Run (Lib.SemaphoreStep 1) s₀
        [(.giveFromISR 1, .returned (.code pdTRUE)),
          (.send 1 none queueSEND_TO_BACK, .returned (.code errQUEUE_FULL)),
          (.semaphoreTake 1, .returned (.code pdTRUE))] s' ∧
      s'.CountsAt 1 2 n ∧ n.toNat + 1 = 1 + 1 := by
  have hu : Lib.init.Unused 1 := Lib.legal_init.unused (by simp [Lib.Fresh, nullptr])
  obtain ⟨s₀, hcreate, hcounts⟩ := countingSemaphore_counts hu 2 1
  let one : Lib := Lib.init.write 1 (countingSemaphore 2 1)
  let two : Lib := Lib.init.write 1 (countingSemaphore 2 2)
  have hone : Lib.init.Step (.createCountingSemaphore 1 2 1) (.returned (.handle 1)) one := by
    decide +kernel
  obtain ⟨-, rfl⟩ := hcreate.deterministic hone
  have hgive : Lib.SemaphoreStep 1 one (.giveFromISR 1) (.returned (.code pdTRUE)) two :=
    ⟨by decide +kernel, .inl (.inl (.inr rfl))⟩
  have hfull : Lib.SemaphoreStep 1 two (.send 1 none queueSEND_TO_BACK)
      (.returned (.code errQUEUE_FULL)) two :=
    ⟨by decide +kernel, .inl (.inl (.inl rfl))⟩
  have htake : Lib.SemaphoreStep 1 two (.semaphoreTake 1) (.returned (.code pdTRUE)) one :=
    ⟨by decide +kernel, .inl (.inr rfl)⟩
  have hrun := Run.cons hgive (.cons hfull (.cons htake (.nil one)))
  obtain ⟨n, hn, hbal⟩ := hcounts _ _ hrun
  exact ⟨one, one, n, hcreate, hrun, hn, hbal⟩

/-- Two tokens are asked for where there is room for one: the creation does not refuse, and the
semaphore counts 1. -/
theorem countingSemaphore_cut_off :
    ∃ r s₀, Lib.init.Step (.createCountingSemaphore 1 1 2) r s₀ ∧
      r ≠ .returned (.handle nullptr) ∧ r ≠ .left .assertFailed ∧
      EStateM.run (uxSemaphoreGetCount 1) s₀ = .ok 1 s₀ :=
  ⟨.returned (.handle 1), Lib.init.write 1 (countingSemaphore 1 1), by decide +kernel, by decide,
    by decide, by decide +kernel⟩

end FakeFreeRtos
