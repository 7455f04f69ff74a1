import FakeFreeRtos.Foundations.Permits
import FakeFreeRtos.Queue.Channel
import FakeFreeRtos.Semaphore.Counting

/-!
# Semaphores and mutexes shared by tasks

Tasks share a semaphore, or a mutex, whose token a task gives back only if it has taken it. The
calls of the tasks are then those of a pool of permits (`semaphore_refines_pool`), so that a mutex
excludes (`mutex_excludes`). Nothing in the library enforces that only a holder gives: the tasks
have to.
-/

namespace FakeFreeRtos

open Foundations

variable {ι : Type}

/-- What can happen next: a task takes or gives, from an interrupt or not, or does something
else. -/
inductive TokenAction (ι : Type)
  | take (i : ι)
  | give (i : ι)
  | giveFromISR (i : ι)
  | other (c : Call)

/-- The memory, and the tasks that hold a token, with one entry for each. -/
structure Shared (ι : Type) where
  lib : Lib
  holders : List ι

/-- The call succeeded. -/
def Reply.succeeded (r : Reply) : Bool := decide (r = .returned (.code pdTRUE))

/-- The calls on the semaphore, with whether they succeeded. -/
def poolCalls (tr : List (TokenAction ι × Reply)) : List (PoolCall ι × Bool) :=
  tr.filterMap fun
    | (.take i, r) => some (.take i, r.succeeded)
    | (.give i, r) | (.giveFromISR i, r) => some (.give i, r.succeeded)
    | (.other _, _) => none

theorem poolCalls_append (tr tr' : List (TokenAction ι × Reply)) :
    poolCalls (tr ++ tr') = poolCalls tr ++ poolCalls tr' :=
  List.filterMap_append

variable [DecidableEq ι]

/-- One step. A task gives only what it holds; other calls are not given the semaphore. -/
inductive Shared.Step (sema : Handle) : Shared ι → TokenAction ι → Reply → Shared ι → Prop
  | take {s s' : Lib} {l : List ι} {i : ι} {r : Reply} (h : s.Step (.semaphoreTake sema) r s')
      (hd : r.Defined) : Step sema ⟨s, l⟩ (.take i) r ⟨s', if r.succeeded then i :: l else l⟩
  | give {s s' : Lib} {l : List ι} {i : ι} {r : Reply} (hi : i ∈ l)
      (h : s.Step (.send sema none queueSEND_TO_BACK) r s') (hd : r.Defined) :
      Step sema ⟨s, l⟩ (.give i) r ⟨s', if r.succeeded then l.erase i else l⟩
  | giveFromISR {s s' : Lib} {l : List ι} {i : ι} {r : Reply} (hi : i ∈ l)
      (h : s.Step (.giveFromISR sema) r s') (hd : r.Defined) :
      Step sema ⟨s, l⟩ (.giveFromISR i) r ⟨s', if r.succeeded then l.erase i else l⟩
  | other {s s' : Lib} {l : List ι} {c : Call} {r : Reply} (h : s.Step c r s') (hd : r.Defined)
      (hh : sema ∉ c.handles) : Step sema ⟨s, l⟩ (.other c) r ⟨s', l⟩

/-- The semaphore at `sema` has `n` tokens of at most `max`, and is not used as a set. -/
structure Lib.HasTokens (s : Lib) (sema : Handle) (max n : ℕ) : Prop where
  ne_nullptr : sema ≠ nullptr
  noMember : s.NoMember sema
  live : ∃ q, s.lookup sema = some q ∧ q.itemSize = 0 ∧ q.queueLength.toNat = max ∧
    q.queue = List.replicate n [] ∧ q.queueType ≠ queueQUEUE_TYPE_RECURSIVE_MUTEX
  le_max : n ≤ max

namespace Lib.HasTokens

variable {s s' : Lib} {sema : Handle} {max n : ℕ} {r : Reply}

theorem run_uxSemaphoreGetCount (h : s.HasTokens sema max n) :
    EStateM.run (uxSemaphoreGetCount sema) s = .ok (UInt8.ofNat n) s := by
  obtain ⟨q, hq, -, -, hqueue, -⟩ := h.live
  rw [uxSemaphoreGetCount, run_uxQueueMessagesWaiting h.ne_nullptr hq, hqueue,
    List.length_replicate]

/-- A take, which never leaves early. -/
theorem take (h : s.HasTokens sema max n) (hstep : s.Step (.semaphoreTake sema) r s') :
    (n = 0 ∧ r = .returned (.code pdFALSE) ∧ s' = s) ∨
    ∃ k, n = k + 1 ∧ r = .returned (.code pdTRUE) ∧ s'.HasTokens sema max k := by
  obtain ⟨q, hq, hi, hmax, hqueue, ht⟩ := h.live
  cases n with
  | zero =>
    have hrun := run_xQueueSemaphoreTake_nil h.ne_nullptr hq ht hqueue
    obtain ⟨rfl, rfl⟩ := hstep.deterministic (Lib.step_of_ok (c := .semaphoreTake sema) rfl hrun)
    exact .inl ⟨rfl, rfl, rfl⟩
  | succ k =>
    have hsize : q.itemSize.toNat = 0 := by rw [hi]; rfl
    have hrun := run_xQueueSemaphoreTake_of_length h.ne_nullptr hq ht (by omega)
      (hqueue.trans List.replicate_succ) hsize.symm
    obtain ⟨rfl, rfl⟩ := hstep.deterministic (Lib.step_of_ok (c := .semaphoreTake sema) rfl hrun)
    refine .inr ⟨k, rfl, rfl, h.ne_nullptr, h.noMember.write sema (h.noMember sema q hq),
      ⟨_, Lib.lookup_write_self .., hi, hmax, rfl, ht⟩, ?_⟩
    exact (Nat.le_succ k).trans h.le_max

/-- A give below the maximum, which the notification of a set does not disturb. -/
theorem give (h : s.HasTokens sema max n) (hlt : n < max)
    (hstep : s.Step (.send sema none queueSEND_TO_BACK) r s') (hd : r.Defined) :
    r = .returned (.code pdTRUE) ∧ s'.HasTokens sema max (n + 1) := by
  obtain ⟨q, hq, hi, hmax, hqueue, ht⟩ := h.live
  have hlen : q.queue.length = n := by rw [hqueue, List.length_replicate]
  rcases hstep.send_fitting (e := .back) hd h.noMember h.ne_nullptr hq (itemFits_zero none hi) with
    ⟨hfull, -, -⟩ | ⟨-, rfl, hlookup, hno⟩
  · omega
  · refine ⟨rfl, h.ne_nullptr, hno, ⟨_, hlookup, hi, hmax, ?_, ht⟩, hlt⟩
    show q.queue ++ [message none q.itemSize] = _
    rw [hqueue, message_none, ← List.replicate_succ']

theorem giveFromISR (h : s.HasTokens sema max n) (hlt : n < max)
    (hstep : s.Step (.giveFromISR sema) r s') (hd : r.Defined) :
    r = .returned (.code pdTRUE) ∧ s'.HasTokens sema max (n + 1) := by
  obtain ⟨q, hq, -, -, -, ht⟩ := h.live
  exact h.give hlt (hstep.send_of_giveFromISR h.ne_nullptr hq ht) hd

theorem other (h : s.HasTokens sema max n) {c : Call} (hstep : s.Step c r s') (hd : r.Defined)
    (hh : sema ∉ c.handles) : s'.HasTokens sema max n := by
  obtain ⟨hno, hlookup⟩ := hstep.spares hd h.ne_nullptr hh h.noMember
  exact ⟨h.ne_nullptr, hno, h.live.imp fun q hq => ⟨hlookup.trans hq.1, hq.2⟩, h.le_max⟩

end Lib.HasTokens

namespace Shared

variable {w w' : Shared ι} {sema : Handle} {max total : ℕ} {a : TokenAction ι} {r : Reply}
  {p : Pool ι}

/-- The semaphore has the free permits of the pool, and never more than it has room for. -/
structure Represents (w : Shared ι) (sema : Handle) (max : ℕ) (p : Pool ι) : Prop where
  tokens : w.lib.HasTokens sema max p.free
  holders : w.holders = p.holders
  room : p.total ≤ max

/-- **Every step of the tasks is one of the pool**, or none. -/
theorem Represents.step (h : w.Represents sema max p) (hstep : Step sema w a r w') :
    ∃ p', Run Pool.Step p (poolCalls [(a, r)]) p' ∧ w'.Represents sema max p' := by
  obtain ⟨n, l⟩ := p
  obtain ⟨ht, hl, hroom⟩ := h
  cases hstep with
  | @take s s' l' i r hs hd =>
    obtain rfl : l' = l := hl
    rcases ht.take hs with ⟨h0, rfl, rfl⟩ | ⟨k, hk, rfl, ht'⟩
    · obtain rfl : n = 0 := h0
      exact ⟨⟨0, l'⟩, .cons (.refuse l' i) (.nil _), ht, rfl, hroom⟩
    · obtain rfl : n = k + 1 := hk
      have hone := Pool.Step.take k l' i
      exact ⟨⟨k, i :: l'⟩, .cons hone (.nil _), ht', rfl, hone.total_eq.trans_le hroom⟩
  | @give s s' l' i r hi hs hd =>
    obtain rfl : l' = l := hl
    obtain ⟨rfl, ht'⟩ := ht.give (lt_of_lt_of_le (Pool.free_lt_total hi) hroom) hs hd
    have hone := Pool.Step.give (n := n) hi
    exact ⟨⟨n + 1, l'.erase i⟩, .cons hone (.nil _), ht', rfl, hone.total_eq.trans_le hroom⟩
  | @giveFromISR s s' l' i r hi hs hd =>
    obtain rfl : l' = l := hl
    obtain ⟨rfl, ht'⟩ := ht.giveFromISR (lt_of_lt_of_le (Pool.free_lt_total hi) hroom) hs hd
    have hone := Pool.Step.give (n := n) hi
    exact ⟨⟨n + 1, l'.erase i⟩, .cons hone (.nil _), ht', rfl, hone.total_eq.trans_le hroom⟩
  | other hs hd hh => exact ⟨⟨n, l⟩, .nil _, ht.other hs hd hh, hl, hroom⟩


/-- **Every run of the tasks is one of the pool.** -/
theorem Represents.run (h : w.Represents sema max p) {tr : List (TokenAction ι × Reply)}
    (hrun : Run (Step sema) w tr w') :
    ∃ p', Run Pool.Step p (poolCalls tr) p' ∧ w'.Represents sema max p' := by
  refine hrun.history (I := fun tr v => ∃ q, Run Pool.Step p (poolCalls tr) q ∧
    v.Represents sema max q) ?_ ⟨p, .nil p, h⟩
  rintro tr v a r v' ⟨q, hq, hv⟩ hstep
  obtain ⟨q', hq', hv'⟩ := hv.step hstep
  refine ⟨q', ?_, hv'⟩
  rw [poolCalls_append]
  exact hq.append hq'

end Shared

/-! ## From the creation on -/

theorem Lib.IsCounter.hasTokens {s : Lib} {sema : Handle} {maxCount : UBaseType} {n : ℕ}
    (h : s.IsCounter sema maxCount n) : s.HasTokens sema maxCount.toNat n :=
  ⟨h.ne_nullptr, h.noMember, ⟨_, h.live, rfl, rfl, rfl, countingSemaphore_not_recursive _ n⟩,
    h.le_max⟩

/-- **Tasks that share a counting semaphore share its tokens.** In every run from its creation on,
in which tasks give back only what they hold, the takes and gives are those of a pool that starts
with the tokens of the semaphore, and the count is what is free. -/
theorem semaphore_refines_pool {s s₀ : Lib} {sema : Handle} (hu : s.Unused sema)
    {maxCount initialCount : UBaseType}
    (hcreate : s.Step (.createCountingSemaphore sema maxCount initialCount)
      (.returned (.handle sema)) s₀)
    {tr : List (TokenAction ι × Reply)} {w : Shared ι}
    (hrun : Run (Shared.Step sema) ⟨s₀, []⟩ tr w) :
    ∃ p, Run Pool.Step ⟨min initialCount.toNat maxCount.toNat, []⟩ (poolCalls tr) p ∧
      w.holders = p.holders ∧
      EStateM.run (uxSemaphoreGetCount sema) w.lib = .ok (UInt8.ofNat p.free) w.lib ∧
      p.free + w.holders.length = min initialCount.toNat maxCount.toNat := by
  obtain ⟨s₁, hstep, hcounter⟩ := hu.isCounter maxCount initialCount
  obtain ⟨-, rfl⟩ := hcreate.deterministic hstep
  have h₀ : Shared.Represents (⟨s₀, []⟩ : Shared ι) sema maxCount.toNat
      ⟨min initialCount.toNat maxCount.toNat, []⟩ :=
    ⟨hcounter.hasTokens, rfl, Nat.min_le_right _ _⟩
  obtain ⟨p, hpool, hp⟩ := h₀.run hrun
  refine ⟨p, hpool, hp.holders, hp.tokens.run_uxSemaphoreGetCount, ?_⟩
  rw [hp.holders]
  exact Pool.total_of_run hpool

/-- Two tasks take the two tokens of a semaphore, and one gives its token back from an
interrupt. -/
theorem semaphore_refines_pool_twoTasks :
    ∃ s₀ w p, Lib.init.Step (.createCountingSemaphore 1 3 2) (.returned (.handle 1)) s₀ ∧
      Run (Shared.Step 1) (⟨s₀, []⟩ : Shared ℕ)
        [(.take 7, .returned (.code pdTRUE)), (.take 8, .returned (.code pdTRUE)),
          (.take 7, .returned (.code pdFALSE)), (.giveFromISR 7, .returned (.code pdTRUE))] w ∧
      Run Pool.Step ⟨2, []⟩
        [(.take 7, true), (.take 8, true), (.take 7, false), (.give 7, true)] p ∧
      w.holders = p.holders ∧ p.free + w.holders.length = 2 := by
  have hu : Lib.init.Unused 1 := Lib.legal_init.unused (by simp [Lib.Fresh, nullptr])
  have hcreate : ∃ s₀, Lib.init.Step (.createCountingSemaphore 1 3 2) (.returned (.handle 1)) s₀ ∧
      s₀ = Lib.init.write 1 (countingSemaphore 3 2) := ⟨_, by decide +kernel, rfl⟩
  obtain ⟨s₀, hcreate, rfl⟩ := hcreate
  have hrun : ∃ w, Run (Shared.Step 1)
      (⟨Lib.init.write 1 (countingSemaphore 3 2), []⟩ : Shared ℕ)
      [(.take 7, .returned (.code pdTRUE)), (.take 8, .returned (.code pdTRUE)),
        (.take 7, .returned (.code pdFALSE)), (.giveFromISR 7, .returned (.code pdTRUE))] w :=
    ⟨_, .cons (.take (Lib.step_of_outcome (by decide +kernel)) (by decide))
      (.cons (.take (Lib.step_of_outcome (by decide +kernel)) (by decide))
      (.cons (.take (Lib.step_of_outcome (by decide +kernel)) (by decide))
      (.cons (.giveFromISR (by decide) (Lib.step_of_outcome (by decide +kernel)) (by decide))
      (.nil _))))⟩
  obtain ⟨w, hrun⟩ := hrun
  obtain ⟨p, hpool, hl, -, htotal⟩ := semaphore_refines_pool hu hcreate hrun
  exact ⟨_, w, p, hcreate, hrun, hpool, hl, htotal⟩

/-- A mutex has its one token when it is created. -/
theorem Lib.Unused.mutex_hasTokens {s s₀ : Lib} {mutex : Handle} (hu : s.Unused mutex)
    (hcreate : s.Step (.createMutex mutex queueQUEUE_TYPE_MUTEX) (.returned (.handle mutex)) s₀) :
    s₀.HasTokens mutex 1 1 := by
  obtain ⟨-, rfl⟩ := hcreate.deterministic
    (Lib.step_of_ok rfl (run_xQueueCreateMutex hu.fresh (.inl rfl)))
  refine ⟨hu.fresh.1, hu.noMember.write mutex hu.fresh.1.symm, ⟨_, Lib.lookup_write_self .., rfl,
    rfl, rfl, ?_⟩, le_rfl⟩
  show queueQUEUE_TYPE_MUTEX ≠ queueQUEUE_TYPE_RECURSIVE_MUTEX
  decide

/-- **Mutexes exclude.** In every run from the creation of a mutex on, in which tasks give back
only what they hold, at most one task holds it at a time, and that task has taken it once more than
it has given it back; no give fails, and a take succeeds exactly when no task holds the mutex. -/
theorem mutex_excludes {s s₀ : Lib} {mutex : Handle} (hu : s.Unused mutex)
    (hcreate : s.Step (.createMutex mutex queueQUEUE_TYPE_MUTEX) (.returned (.handle mutex)) s₀)
    {tr : List (TokenAction ι × Reply)} {w : Shared ι}
    (hrun : Run (Shared.Step mutex) ⟨s₀, []⟩ tr w) :
    w.holders.length ≤ 1 ∧
      (∀ i, w.holders.count i + Pool.given i (poolCalls tr) = Pool.taken i (poolCalls tr)) ∧
      (∀ i, (.give i, false) ∉ poolCalls tr) ∧
      ∀ r s', w.lib.Step (.semaphoreTake mutex) r s' →
        (r = .returned (.code pdTRUE) ↔ w.holders = []) := by
  have h₀ : Shared.Represents (⟨s₀, []⟩ : Shared ι) mutex 1 ⟨1, []⟩ :=
    ⟨hu.mutex_hasTokens hcreate, rfl, le_rfl⟩
  obtain ⟨⟨n, l⟩, hpool, ht, hl, -⟩ := h₀.run hrun
  obtain rfl : w.holders = l := hl
  have htotal : n + w.holders.length = 1 := Pool.total_of_run hpool
  refine ⟨by omega, fun i => ?_, Pool.not_refused_give hpool, fun r s' hstep => ?_⟩
  · simpa using Pool.count_of_run hpool i
  · rcases ht.take hstep with ⟨hn, rfl, -⟩ | ⟨k, hk, rfl, -⟩
    · obtain rfl : n = 0 := hn
      refine iff_of_false (by decide) fun hnil => ?_
      rw [hnil] at htotal
      simp at htotal
    · obtain rfl : n = k + 1 := hk
      refine iff_of_true rfl (List.length_eq_zero_iff.mp ?_)
      omega

/-- A task waits for a mutex in vain, as long as another one holds it. -/
theorem mutex_excludes_twoTasks :
    ∃ s₀ w, Lib.init.Step (.createMutex 1 queueQUEUE_TYPE_MUTEX) (.returned (.handle 1)) s₀ ∧
      Run (Shared.Step 1) (⟨s₀, []⟩ : Shared ℕ)
        [(.take 7, .returned (.code pdTRUE)), (.take 8, .returned (.code pdFALSE)),
          (.give 7, .returned (.code pdTRUE)), (.take 8, .returned (.code pdTRUE))] w ∧
      w.holders = [8] ∧ w.holders.length ≤ 1 ∧
      ∀ r s', w.lib.Step (.semaphoreTake 1) r s' →
        (r = .returned (.code pdTRUE) ↔ w.holders = []) := by
  have hu : Lib.init.Unused 1 := Lib.legal_init.unused (by simp [Lib.Fresh, nullptr])
  have hcreate : Lib.init.Step (.createMutex 1 queueQUEUE_TYPE_MUTEX) (.returned (.handle 1))
      (Lib.init.write 1 (freshMutex queueQUEUE_TYPE_MUTEX)) := by decide +kernel
  have hrun : ∃ w, Run (Shared.Step 1)
      (⟨Lib.init.write 1 (freshMutex queueQUEUE_TYPE_MUTEX), []⟩ : Shared ℕ)
      [(.take 7, .returned (.code pdTRUE)), (.take 8, .returned (.code pdFALSE)),
        (.give 7, .returned (.code pdTRUE)), (.take 8, .returned (.code pdTRUE))] w ∧
      w.holders = [8] :=
    ⟨_, .cons (.take (Lib.step_of_outcome (by decide +kernel)) (by decide))
      (.cons (.take (Lib.step_of_outcome (by decide +kernel)) (by decide))
      (.cons (.give (by decide) (Lib.step_of_outcome (by decide +kernel)) (by decide))
      (.cons (.take (Lib.step_of_outcome (by decide +kernel)) (by decide))
      (.nil _)))), by decide⟩
  obtain ⟨w, hrun, hw⟩ := hrun
  obtain ⟨hone, -, -, htake⟩ := mutex_excludes hu hcreate hrun
  exact ⟨_, w, hcreate, hrun, hw, hone, htake⟩

end FakeFreeRtos
