import FakeFreeRtos.Queue.Evolution

/-!
# Creating and deleting

The calls that create or delete a queue, or turn the tracking of mutexes on or off, have one
defined outcome each, which is computed here. Together with `Lib.Step.evolves` for all other
calls, this gives the effect of every call in which nothing undefined happens (`Lib.Effect`,
`Lib.Step.effect`).
-/

namespace FakeFreeRtos

open Foundations

/-! ## Gives to a fresh semaphore -/

theorem Lib.write_write (s : Lib) (h : Handle) (q q' : FakeQueue) :
    (s.write h q).write h q' = s.write h q' := by
  simp only [Lib.write, Finmap.insert_insert]

theorem message_none (n : UBaseType) : message none n = [] := by
  simp [message]

theorem itemFits_zero (item : Buffer) {n : UBaseType} (h : n = 0) : ItemFits item n := by
  rw [h]
  exact Nat.zero_le _

/-- A give to a semaphore that is in no set. -/
theorem run_xSemaphoreGive {s : Lib} {h : Handle} {q : FakeQueue} (hn : h ≠ nullptr)
    (hq : s.lookup h = some q) (hi : q.itemSize = 0) (hc : q.queueSetContainer = nullptr) :
    EStateM.run (xSemaphoreGive h) s =
      if q.queue.length < q.queueLength.toNat then
        .ok pdTRUE (s.write h { q with queue := q.queue ++ [[]] })
      else .ok errQUEUE_FULL s := by
  have hrun := run_xQueueGenericSend_noSet hn hq (itemFits_zero none hi) hc .back
  rw [pushed, message_none] at hrun
  exact hrun

theorem run_giveTimes {s : Lib} {h : Handle} {q : FakeQueue} (hn : h ≠ nullptr)
    (hi : q.itemSize = 0) (hc : q.queueSetContainer = nullptr) (n : ℕ) {k : ℕ}
    (hk : k ≤ q.queueLength.toNat) :
    EStateM.run (giveTimes n h) (s.write h { q with queue := List.replicate k [] }) =
      .ok ()
        (s.write h { q with queue := List.replicate (min (k + n) q.queueLength.toNat) [] }) := by
  induction n generalizing k with
  | zero => rw [Nat.add_zero, Nat.min_eq_left hk]; rfl
  | succ n ih =>
    have hgive := run_xSemaphoreGive (s := s.write h { q with queue := List.replicate k [] }) hn
      (Lib.lookup_write_self ..) hi hc
    simp only [List.length_replicate, Lib.write_write] at hgive
    rw [giveTimes, EStateM.run_bind, hgive]
    by_cases hlt : k < q.queueLength.toNat
    · rw [if_pos hlt, ← List.replicate_succ']
      simp only
      rw [ih hlt, Nat.succ_add_eq_add_succ]
    · rw [if_neg hlt]
      simp only
      rw [ih hk]
      congr 4
      omega

/-! ## Creating calls -/

/-- A fresh address, which is what the allocator answers. -/
def Lib.Fresh (s : Lib) (addr : Handle) : Prop := addr ≠ nullptr ∧ s.lookup addr = none

theorem run_new_fresh {s : Lib} {addr : Handle} (h : s.Fresh addr) (q : FakeQueue) :
    EStateM.run (new addr q) s = .ok addr (s.write addr q) := run_new h.1 h.2 q

/-- The queue that `xQueueGenericCreate` makes. -/
def freshQueue (queueLength itemSize : UBaseType) (queueType : UInt8) : FakeQueue :=
  { queueLength, itemSize, queueType }

theorem run_xQueueGenericCreate {s : Lib} {addr : Handle} (h : s.Fresh addr) (l n : UBaseType)
    (t : UInt8) : EStateM.run (xQueueGenericCreate addr l n t) s =
      .ok addr (s.write addr (freshQueue l n t)) := run_new_fresh h _

theorem run_xQueueGenericCreate_not_fresh {s : Lib} {addr : Handle} (h : ¬ s.Fresh addr)
    (l n : UBaseType) (t : UInt8) :
    EStateM.run (xQueueGenericCreate addr l n t) s = .error .undefined s :=
  run_new_not_fresh h _

theorem run_xQueueCreateCountingSemaphore {s : Lib} {addr : Handle} (h : s.Fresh addr)
    (maxCount initialCount : UBaseType) :
    EStateM.run (xQueueCreateCountingSemaphore addr maxCount initialCount) s =
      .ok addr (s.write addr { freshQueue maxCount 0 queueQUEUE_TYPE_BASE with
        queue := List.replicate (min initialCount.toNat maxCount.toNat) [] }) := by
  have hcreate : EStateM.run (xQueueCreate addr maxCount.toNat 0) s =
      .ok addr (s.write addr (freshQueue maxCount 0 queueQUEUE_TYPE_BASE)) := by
    rw [xQueueCreate, UInt8.ofNat_toNat]
    exact run_xQueueGenericCreate h ..
  have hgive := run_giveTimes (s := s) (q := freshQueue maxCount 0 queueQUEUE_TYPE_BASE) h.1 rfl
    rfl initialCount.toNat (Nat.zero_le _)
  rw [Nat.zero_add] at hgive
  rw [xQueueCreateCountingSemaphore, EStateM.run_bind, hcreate]
  simp only [h.1, ↓reduceIte, EStateM.run_bind]
  have hnone : s.write addr (freshQueue maxCount 0 queueQUEUE_TYPE_BASE) = s.write addr
      { freshQueue maxCount 0 queueQUEUE_TYPE_BASE with queue := List.replicate 0 [] } := rfl
  rw [hnone, hgive]
  rfl

theorem run_xQueueCreateCountingSemaphore_not_fresh {s : Lib} {addr : Handle} (h : ¬ s.Fresh addr)
    (maxCount initialCount : UBaseType) :
    EStateM.run (xQueueCreateCountingSemaphore addr maxCount initialCount) s =
      .error .undefined s := by
  rw [xQueueCreateCountingSemaphore, EStateM.run_bind, xQueueCreate,
    run_xQueueGenericCreate_not_fresh h]

/-- The two kinds of mutexes. -/
def IsMutexType (t : UInt8) : Prop :=
  t = queueQUEUE_TYPE_MUTEX ∨ t = queueQUEUE_TYPE_RECURSIVE_MUTEX

instance (t : UInt8) : Decidable (IsMutexType t) := inferInstanceAs (Decidable (_ ∨ _))

/-- A mutex as it is created, its token available. -/
def freshMutex (queueType : UInt8) : FakeQueue :=
  { freshQueue 1 0 queueType with queue := [[]] }

/-- The memory with `mutex` appended to the tracked mutexes, if the tracking is on. -/
def Lib.track (s : Lib) (mutex : Handle) : Lib :=
  { s with s_mutexes := s.s_mutexes.map (· ++ [mutex]) }

/-- The memory with `mutex` removed from the tracked mutexes, if the tracking is on. -/
def Lib.untrack (s : Lib) (mutex : Handle) : Lib :=
  { s with s_mutexes := s.s_mutexes.map (·.filter (· ≠ mutex)) }

@[simp] theorem Lib.lookup_track (s : Lib) (mutex h : Handle) :
    (s.track mutex).lookup h = s.lookup h := rfl

@[simp] theorem Lib.lookup_untrack (s : Lib) (mutex h : Handle) :
    (s.untrack mutex).lookup h = s.lookup h := rfl

theorem run_xQueueCreateMutex {s : Lib} {addr : Handle} (h : s.Fresh addr) {t : UInt8}
    (ht : IsMutexType t) : EStateM.run (xQueueCreateMutex addr t) s =
      .ok addr ((s.write addr (freshMutex t)).track addr) := by
  have hroom : (freshQueue 1 0 t).queue.length < (freshQueue 1 0 t).queueLength.toNat :=
    Nat.zero_lt_one
  have hgive := run_xSemaphoreGive (s := s.write addr (freshQueue 1 0 t)) h.1
    (Lib.lookup_write_self ..) rfl rfl
  rw [Lib.write_write, if_pos hroom] at hgive
  rw [xQueueCreateMutex, EStateM.run_bind, run_xQueueGenericCreate h]
  rcases ht with rfl | rfl
  · simp only [↓reduceIte, EStateM.run_bind, hgive, EStateM.run_pure, run_configASSERT_of h.1]
    rfl
  · have hne : queueQUEUE_TYPE_RECURSIVE_MUTEX ≠ queueQUEUE_TYPE_MUTEX := by decide
    simp only [hne, ↓reduceIte, EStateM.run_bind, hgive, run_deref (Lib.lookup_write_self ..),
      run_assign, Lib.write_write, run_configASSERT_of h.1]
    rfl

/-- Any other type trips a `configASSERT`, after the queue has been created. -/
theorem run_xQueueCreateMutex_other {s : Lib} {addr : Handle} (h : s.Fresh addr) {t : UInt8}
    (ht : ¬ IsMutexType t) : EStateM.run (xQueueCreateMutex addr t) s =
      .error .assertFailed (s.write addr (freshQueue 1 0 t)) := by
  obtain ⟨h₁, h₂⟩ := not_or.mp ht
  rw [xQueueCreateMutex, EStateM.run_bind, run_xQueueGenericCreate h]
  simp only [h₁, h₂, ↓reduceIte, EStateM.run_bind, run_configASSERT_of_not not_false]

theorem run_xQueueCreateMutex_not_fresh {s : Lib} {addr : Handle} (h : ¬ s.Fresh addr)
    (t : UInt8) : EStateM.run (xQueueCreateMutex addr t) s = .error .undefined s := by
  rw [xQueueCreateMutex, EStateM.run_bind, run_xQueueGenericCreate_not_fresh h]

/-! ## Deleting, tracking -/

theorem run_vQueueDelete {s : Lib} {queue : Handle} {q : FakeQueue} (hn : queue ≠ nullptr)
    (hq : s.lookup queue = some q) : EStateM.run (vQueueDelete queue) s =
      .ok () ((if q.queueType = queueQUEUE_TYPE_MUTEX then s.untrack queue else s).free queue) := by
  rw [vQueueDelete, EStateM.run_bind, run_configASSERT_of hn]
  simp only [EStateM.run_bind, run_deref hq]
  split
  · rw [EStateM.run_bind]
    exact run_delete (s := s.untrack queue) hq
  · exact run_delete hq

theorem run_vQueueDelete_of_none {s : Lib} {queue : Handle} (hn : queue ≠ nullptr)
    (hq : s.lookup queue = none) :
    EStateM.run (vQueueDelete queue) s = .error .undefined s := by
  simp [vQueueDelete, hn, run_deref_none hq]

theorem run_mutexTrackingInit (s : Lib) : EStateM.run mutexTrackingInit s =
    if s.s_mutexes = none then .ok () { s with s_mutexes := some [] }
    else .error .assertFailed s := by
  by_cases h : s.s_mutexes = none <;> simp [mutexTrackingInit, h]

theorem finalState_mutexTrackingTeardown (s : Lib) :
    finalState (EStateM.run mutexTrackingTeardown s) = s ∨
      finalState (EStateM.run mutexTrackingTeardown s) = { s with s_mutexes := none } := by
  by_cases hm : s.s_mutexes = none
  · left
    simp [mutexTrackingTeardown, hm]
  · have hreads := ensures_isAnyMutexLocked (R := Eq) s
    rw [mutexTrackingTeardown, EStateM.run_bind, EStateM.run_get]
    simp only [hm, ↓reduceIte, EStateM.run_bind]
    cases hr : EStateM.run isAnyMutexLocked s with
    | error e s' =>
      rw [hr] at hreads
      exact .inl hreads.symm
    | ok b s' =>
      obtain rfl : s = s' := by rw [hr] at hreads; exact hreads
      cases b <;> exact .inr rfl

/-! ## The effect of every call -/

/-- The call `c` creates the queue `q` at `addr` and does not track it. -/
def Call.Creates (c : Call) (addr : Handle) (q : FakeQueue) : Prop :=
  match c with
  | .create addr' l n t => addr = addr' ∧ q = freshQueue l n t
  | .createSet addr' l =>
    addr = addr' ∧ q = freshQueue l (UInt8.ofNat sizeofHandle) queueQUEUE_TYPE_SET
  | .createCountingSemaphore addr' m i =>
    addr = addr' ∧ q = { freshQueue m 0 queueQUEUE_TYPE_BASE with
      queue := List.replicate (min i.toNat m.toNat) [] }
  | .createMutex addr' t => addr = addr' ∧ ¬ IsMutexType t ∧ q = freshQueue 1 0 t
  | _ => False

/-- What a call makes of the memory when nothing undefined happens. -/
inductive Lib.Effect (s : Lib) : Call → Lib → Prop
  | evolves {c : Call} {s' : Lib} (hc : c.Evolving) (h : s.Evolves s') : Effect s c s'
  | unchanged {c : Call} : Effect s c s
  | creates {c : Call} {addr : Handle} {q : FakeQueue} (hc : c.Creates addr q)
      (h : s.Fresh addr) : Effect s c (s.write addr q)
  | createsMutex {addr : Handle} {t : UInt8} (ht : IsMutexType t) (h : s.Fresh addr) :
      Effect s (.createMutex addr t) ((s.write addr (freshMutex t)).track addr)
  | deletes {queue : Handle} {q : FakeQueue} (hq : s.lookup queue = some q) :
      Effect s (.delete queue)
        ((if q.queueType = queueQUEUE_TYPE_MUTEX then s.untrack queue else s).free queue)
  | tracksOn (h : s.s_mutexes = none) : Effect s .trackingInit { s with s_mutexes := some [] }
  | tracksOff : Effect s .trackingTeardown { s with s_mutexes := none }

theorem Lib.Step.not_defined {α : Type} {f : α → Value} {x : Api α} {s s' : Lib} {c : Call}
    {r : Reply} (h : s.Step c r s') (hc : c.exec = f <$> x)
    (hrun : EStateM.run x s = .error .undefined s) : ¬ r.Defined := by
  obtain ⟨rfl, -⟩ := h.deterministic (Lib.step_of_error hc hrun)
  exact fun hd => hd.1 rfl

theorem Lib.Step.effect {s s' : Lib} {c : Call} {r : Reply} (h : s.Step c r s')
    (hd : r.Defined) : s.Effect c s' := by
  cases c with
  | create addr l n t =>
    by_cases hf : s.Fresh addr
    · obtain ⟨-, rfl⟩ := h.deterministic (Lib.step_of_ok rfl (run_xQueueGenericCreate hf l n t))
      exact .creates ⟨rfl, rfl⟩ hf
    · exact absurd hd (h.not_defined rfl (run_xQueueGenericCreate_not_fresh hf l n t))
  | createSet addr l =>
    by_cases hf : s.Fresh addr
    · obtain ⟨-, rfl⟩ := h.deterministic (Lib.step_of_ok rfl (run_xQueueGenericCreate hf l _ _))
      exact .creates ⟨rfl, rfl⟩ hf
    · exact absurd hd (h.not_defined rfl (run_xQueueGenericCreate_not_fresh hf l _ _))
  | createCountingSemaphore addr m i =>
    by_cases hf : s.Fresh addr
    · obtain ⟨-, rfl⟩ :=
        h.deterministic (Lib.step_of_ok rfl (run_xQueueCreateCountingSemaphore hf m i))
      exact .creates ⟨rfl, rfl⟩ hf
    · exact absurd hd (h.not_defined rfl (run_xQueueCreateCountingSemaphore_not_fresh hf m i))
  | createMutex addr t =>
    by_cases hf : s.Fresh addr
    · by_cases ht : IsMutexType t
      · obtain ⟨-, rfl⟩ := h.deterministic (Lib.step_of_ok rfl (run_xQueueCreateMutex hf ht))
        exact .createsMutex ht hf
      · obtain ⟨-, rfl⟩ :=
          h.deterministic (Lib.step_of_error rfl (run_xQueueCreateMutex_other hf ht))
        exact .creates ⟨rfl, ht, rfl⟩ hf
    · exact absurd hd (h.not_defined rfl (run_xQueueCreateMutex_not_fresh hf t))
  | delete queue =>
    by_cases hn : queue = nullptr
    · have hrun : EStateM.run (vQueueDelete queue) s = .error .assertFailed s := by
        simp [vQueueDelete, hn]
      obtain ⟨-, rfl⟩ := h.deterministic (Lib.step_of_error rfl hrun)
      exact .unchanged
    cases hq : s.lookup queue with
    | none => exact absurd hd (h.not_defined rfl (run_vQueueDelete_of_none hn hq))
    | some q =>
      obtain ⟨-, rfl⟩ := h.deterministic (Lib.step_of_ok rfl (run_vQueueDelete hn hq))
      exact .deletes hq
  | trackingInit =>
    have hrun := run_mutexTrackingInit s
    by_cases hm : s.s_mutexes = none
    · rw [if_pos hm] at hrun
      obtain ⟨-, rfl⟩ := h.deterministic (Lib.step_of_ok rfl hrun)
      exact .tracksOn hm
    · rw [if_neg hm] at hrun
      obtain ⟨-, rfl⟩ := h.deterministic (Lib.step_of_error rfl hrun)
      exact .unchanged
  | trackingTeardown =>
    have hmap : finalState (EStateM.run mutexTrackingTeardown s) = s' := by
      rw [← h.finalState_eq, Call.exec, run_map]
      cases EStateM.run mutexTrackingTeardown s <;> rfl
    rcases finalState_mutexTrackingTeardown s with he | he
    · exact (he.symm.trans hmap) ▸ .unchanged
    · exact (he.symm.trans hmap) ▸ .tracksOff
  | messagesWaiting => exact .evolves trivial (h.evolves trivial)
  | spacesAvailable => exact .evolves trivial (h.evolves trivial)
  | send => exact .evolves trivial (h.evolves trivial)
  | receive => exact .evolves trivial (h.evolves trivial)
  | peek => exact .evolves trivial (h.evolves trivial)
  | addToSet => exact .evolves trivial (h.evolves trivial)
  | removeFromSet => exact .evolves trivial (h.evolves trivial)
  | selectFromSet => exact .evolves trivial (h.evolves trivial)
  | semaphoreTake => exact .evolves trivial (h.evolves trivial)
  | giveFromISR => exact .evolves trivial (h.evolves trivial)
  | takeMutexRecursive => exact .evolves trivial (h.evolves trivial)
  | giveMutexRecursive => exact .evolves trivial (h.evolves trivial)
  | isAnyMutexLocked => exact .evolves trivial (h.evolves trivial)

end FakeFreeRtos
