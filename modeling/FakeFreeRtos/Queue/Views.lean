import FakeFreeRtos.Foundations.Lockstep
import FakeFreeRtos.Queue.Frame
import FakeFreeRtos.Sets.Termination

/-!
# Views of the memory

A view sees the queues at some handles, what it is shown of their names, and the list of tracked
mutexes or not. Two memories are tied when the view cannot tell them apart (`View.Tied`); a call is
within a view when every handle it is given is null or seen. All functions run in lockstep on tied
memories, so that a call within the view answers the same on both, and leaves alone what the view
does not see (`View.Tied.step`). The notification of a set stays within the view as well: a queue
that is seen is in no set that is not.
-/

namespace FakeFreeRtos

open Foundations

/-- What is seen of the memory. -/
structure View where
  sees : Handle → Prop
  /-- What is shown of a name. -/
  name : Option String → Option String
  /-- Whether the list of tracked mutexes is seen. -/
  tracking : Prop
  not_null : ¬ sees nullptr

namespace View

variable (V : View)

/-- The handles that may be passed. -/
def Knows (h : Handle) : Prop := h = nullptr ∨ V.sees h

/-- The queues differ in their names at most, and these are shown alike. -/
def SameQueue (q q' : FakeQueue) : Prop :=
  ∃ n, q' = { q with registryName := n } ∧ V.name n = V.name q.registryName

/-- `t` is seen like `s`, and `s` is still `before` where nothing is seen. -/
structure Tied (before s t : Lib) : Prop where
  queues : ∀ h, V.sees h → Option.Rel V.SameQueue (s.lookup h) (t.lookup h)
  containers : ∀ h q, V.sees h → s.lookup h = some q → V.Knows q.queueSetContainer
  unseen : ∀ h, ¬ V.sees h → s.lookup h = before.lookup h
  mutexes : V.tracking → s.s_mutexes = t.s_mutexes
  tracked : V.tracking → ∀ l, s.s_mutexes = some l → ∀ h ∈ l, V.Knows h

variable {V}

theorem Knows.sees {h : Handle} (hh : V.Knows h) (hn : h ≠ nullptr) : V.sees h :=
  hh.resolve_left hn

theorem ne_null {h : Handle} (hh : V.sees h) : h ≠ nullptr := fun he => V.not_null (he ▸ hh)

theorem sameQueue_refl (q : FakeQueue) : V.SameQueue q q := ⟨q.registryName, rfl, rfl⟩

/-! ## What keeps memories tied -/

namespace Tied

variable {before s t : Lib} {h : Handle} {q q' : FakeQueue}

theorem lookup_eq_none (hst : V.Tied before s t) (hh : V.sees h) :
    s.lookup h = none ↔ t.lookup h = none := by
  have hrel := hst.queues h hh
  cases hs : s.lookup h <;> cases ht : t.lookup h <;> rw [hs, ht] at hrel <;> simp at hrel ⊢

theorem write (hst : V.Tied before s t) (hh : V.sees h) (hq : V.SameQueue q q')
    (hc : V.Knows q.queueSetContainer) : V.Tied before (s.write h q) (t.write h q') where
  queues x hx := by
    by_cases he : x = h
    · subst he
      simpa using Option.Rel.some hq
    · simpa only [Lib.lookup_write_of_ne _ _ he] using hst.queues x hx
  containers x p hx hp := by
    by_cases he : x = h
    · subst he
      rw [Lib.lookup_write_self] at hp
      exact Option.some.inj hp ▸ hc
    · rw [Lib.lookup_write_of_ne _ _ he] at hp
      exact hst.containers x p hx hp
  unseen x hx := by
    have he : x ≠ h := fun he => hx (he ▸ hh)
    rw [Lib.lookup_write_of_ne _ _ he, hst.unseen x hx]
  mutexes := hst.mutexes
  tracked := hst.tracked

theorem free (hst : V.Tied before s t) (hh : V.sees h) :
    V.Tied before (s.free h) (t.free h) where
  queues x hx := by
    by_cases he : x = h
    · subst he
      simp
    · simpa only [Lib.lookup_free_of_ne _ he] using hst.queues x hx
  containers x p hx hp := by
    by_cases he : x = h
    · subst he
      rw [Lib.lookup_free_self] at hp
      cases hp
    · rw [Lib.lookup_free_of_ne _ he] at hp
      exact hst.containers x p hx hp
  unseen x hx := by
    have he : x ≠ h := fun he => hx (he ▸ hh)
    rw [Lib.lookup_free_of_ne _ he, hst.unseen x hx]
  mutexes := hst.mutexes
  tracked := hst.tracked

/-- Both lists of tracked mutexes change in the same way. -/
theorem setMutexes (hst : V.Tied before s t) {f : Option (List Handle) → Option (List Handle)}
    (hf : V.tracking → ∀ l, f s.s_mutexes = some l → ∀ x ∈ l, V.Knows x) :
    V.Tied before { s with s_mutexes := f s.s_mutexes } { t with s_mutexes := f t.s_mutexes } where
  queues := hst.queues
  containers := hst.containers
  unseen := hst.unseen
  mutexes ht := congrArg f (hst.mutexes ht)
  tracked := hf

end Tied

/-! ## Parts of the functions -/

section Parts

variable {before : Lib} {α β α' : Type} {Q : α → β → Prop} {h : Handle}

theorem lockstep_configASSERT {R : Lib → Lib → Prop} {p : Prop} [Decidable p] {f : Unit → Api α}
    {g : Unit → Api β} (hf : p → Lockstep R Q (f ()) (g ())) :
    Lockstep R Q (configASSERT p >>= f) (configASSERT p >>= g) := by
  intro s t hR
  by_cases hp : p
  · simpa [EStateM.run_bind, hp] using hf hp s t hR
  · simpa [EStateM.run_bind, hp] using Alike.error hR

/-- A seen queue is read: the queues found differ in their names at most. -/
theorem lockstep_deref (hh : V.sees h) {f : FakeQueue → Api α} {g : FakeQueue → Api β}
    (hf : ∀ q n, V.name n = V.name q.registryName → V.Knows q.queueSetContainer →
      Lockstep (V.Tied before) Q (f q) (g { q with registryName := n })) :
    Lockstep (V.Tied before) Q (deref h >>= f) (deref h >>= g) := by
  intro s t hst
  have hrel := hst.queues h hh
  cases hs : s.lookup h with
  | none =>
    have ht : t.lookup h = none := (hst.lookup_eq_none hh).mp hs
    simpa [EStateM.run_bind, run_deref_none hs, run_deref_none ht] using Alike.error hst
  | some q =>
    cases ht : t.lookup h with
    | none => exact absurd ((hst.lookup_eq_none hh).mpr ht) (by simp [hs])
    | some q' =>
      rw [hs, ht] at hrel
      cases hrel with
      | some hq =>
        obtain ⟨n, rfl, hn⟩ := hq
        simpa [EStateM.run_bind, run_deref hs, run_deref ht] using
          hf q n hn (hst.containers h q hh hs) s t hst

theorem lockstep_assign {q q' : FakeQueue} (hh : V.sees h) (hq : V.SameQueue q q')
    (hc : V.Knows q.queueSetContainer) :
    Lockstep (V.Tied before) Eq (assign h q) (assign h q') :=
  .modifies fun _ _ hst => hst.write hh hq hc

/-- A copy does not touch the memory. -/
theorem lockstep_memcpy {R : Lib → Lib → Prop} (dest src : Buffer) (n : ℕ) :
    Lockstep R Eq (memcpy dest src n) (memcpy dest src n) := by
  unfold memcpy
  refine .ite (fun _ => .pure rfl) fun _ => ?_
  cases dest <;> cases src
  any_goals exact .throws _
  exact .ite (fun _ => .pure rfl) fun _ => .throws _

theorem lockstep_placeMessage {R : Lib → Lib → Prop} (queue : List Bytes) (msg : Bytes)
    (pos : BaseType) :
    Lockstep R Eq (placeMessage queue msg pos) (placeMessage queue msg pos) := by
  unfold placeMessage
  refine .ite (fun _ => .pure rfl) fun _ => .ite (fun _ => .pure rfl) fun _ =>
    .ite (fun _ => ?_) fun _ => lockstep_configASSERT fun _ => .pure rfl
  cases queue with
  | nil => exact .throws _
  | cons => exact .pure rfl

theorem lockstep_new (hh : V.Knows h) {q : FakeQueue} (hc : V.Knows q.queueSetContainer) :
    Lockstep (V.Tied before) (fun a b => a = h ∧ b = h ∧ V.sees h) (new h q) (new h q) := by
  intro s t hst
  rcases hh with rfl | hh
  · have hnull : ∀ u : Lib, EStateM.run (new nullptr q) u = .error .undefined u := fun u =>
      run_new_not_fresh (fun hf => hf.1 rfl) q
    simpa [hnull] using Alike.error hst
  · have hfree := hst.lookup_eq_none hh
    by_cases hs : s.lookup h = none
    · rw [run_new (ne_null hh) hs, run_new (ne_null hh) (hfree.mp hs)]
      exact .ok ⟨rfl, rfl, hh⟩ (hst.write hh (sameQueue_refl q) hc)
    · rw [run_new_not_fresh (fun hf => hs hf.2), run_new_not_fresh fun hf => hs (hfree.mpr hf.2)]
      exact .error hst

theorem lockstep_delete (hh : V.sees h) :
    Lockstep (V.Tied before) Eq (delete h) (delete h) :=
  lockstep_deref hh fun _ _ _ _ => .modifies fun _ _ hst => hst.free hh

theorem lockstep_mutexAboutToDelete (h : Handle) :
    Lockstep (V.Tied before) Eq (mutexAboutToDelete h) (mutexAboutToDelete h) := by
  refine .modifies fun s t hst => hst.setMutexes (f := Option.map (List.filter (· ≠ h))) ?_
  intro ht l hl x hx
  obtain ⟨l', hl', rfl⟩ := Option.map_eq_some_iff.mp hl
  exact hst.tracked ht l' hl' x (List.mem_of_mem_filter hx)

theorem lockstep_trackMutex (hh : V.Knows h) :
    Lockstep (V.Tied before) Eq (trackMutex h) (trackMutex h) := by
  refine .modifies fun s t hst => hst.setMutexes (f := Option.map (· ++ [h])) ?_
  intro ht l hl x hx
  obtain ⟨l', hl', rfl⟩ := Option.map_eq_some_iff.mp hl
  rcases List.mem_append.mp hx with hx | hx
  · exact hst.tracked ht l' hl' x hx
  · exact List.mem_singleton.mp hx ▸ hh

end Parts

/-! ## The functions -/

section Functions

variable {before : Lib} {queue : Handle} (hh : V.Knows queue)

include hh

theorem lockstep_xQueueGenericCreate (queueLength itemSize : UBaseType) (queueType : UInt8) :
    Lockstep (V.Tied before) Eq (xQueueGenericCreate queue queueLength itemSize queueType)
      (xQueueGenericCreate queue queueLength itemSize queueType) := by
  refine (lockstep_new hh ?_).mono fun _ _ he => he.1.trans he.2.1.symm
  exact .inl rfl

theorem lockstep_uxQueueMessagesWaiting :
    Lockstep (V.Tied before) Eq (uxQueueMessagesWaiting queue) (uxQueueMessagesWaiting queue) :=
  lockstep_configASSERT fun hn => lockstep_deref (hh.sees hn) fun _ _ _ _ => .pure rfl

theorem lockstep_uxQueueSpacesAvailable :
    Lockstep (V.Tied before) Eq (uxQueueSpacesAvailable queue) (uxQueueSpacesAvailable queue) :=
  lockstep_configASSERT fun hn => lockstep_deref (hh.sees hn) fun _ _ _ _ =>
    (lockstep_uxQueueMessagesWaiting hh).bind_eq fun _ => .pure rfl

theorem lockstep_vQueueDelete :
    Lockstep (V.Tied before) Eq (vQueueDelete queue) (vQueueDelete queue) := by
  refine lockstep_configASSERT fun hn => lockstep_deref (hh.sees hn) fun q n _ _ => ?_
  refine .ite (fun _ => ?_) fun _ => lockstep_delete (hh.sees hn)
  exact (lockstep_mutexAboutToDelete queue).bind_eq fun _ => lockstep_delete (hh.sees hn)

theorem lockstep_internalQueueReceive (buffer : Buffer) :
    Lockstep (V.Tied before) Eq (internalQueueReceive queue buffer)
      (internalQueueReceive queue buffer) := by
  refine lockstep_configASSERT fun hn => lockstep_deref (hh.sees hn) fun q n hname hc => ?_
  cases hm : q.queue with
  | nil => exact .pure rfl
  | cons front rest =>
    refine (lockstep_memcpy _ _ _).bind_eq fun b => ?_
    exact .bind_eq (lockstep_assign (hh.sees hn) ⟨n, rfl, hname⟩ hc) fun _ => .pure rfl

theorem lockstep_internalQueueReceiveDummy :
    Lockstep (V.Tied before) Eq (internalQueueReceiveDummy queue)
      (internalQueueReceiveDummy queue) :=
  lockstep_configASSERT fun _ => (lockstep_internalQueueReceive hh _).bind_eq fun _ => .pure rfl

theorem lockstep_xQueueReceive (buffer : Buffer) :
    Lockstep (V.Tied before) Eq (xQueueReceive queue buffer) (xQueueReceive queue buffer) :=
  lockstep_configASSERT fun _ => lockstep_configASSERT fun _ => lockstep_internalQueueReceive hh _

theorem lockstep_xQueuePeek (buffer : Buffer) :
    Lockstep (V.Tied before) Eq (xQueuePeek queue buffer) (xQueuePeek queue buffer) := by
  refine lockstep_configASSERT fun hn => lockstep_deref (hh.sees hn) fun q n _ _ => ?_
  cases hm : q.queue with
  | nil => simpa [hm] using .pure rfl
  | cons front rest =>
    exact (lockstep_memcpy _ _ _).bind_eq fun _ => .pure rfl

/-- With the same budget on both sides; the sets that are notified are seen as well. -/
theorem lockstep_xQueueGenericSendFuel (fuel : ℕ) (item : Buffer) (pos : BaseType) :
    Lockstep (V.Tied before) Eq (xQueueGenericSendFuel fuel queue item pos)
      (xQueueGenericSendFuel fuel queue item pos) := by
  induction fuel generalizing queue item pos with
  | zero => exact .throws _
  | succ fuel ih =>
    refine lockstep_configASSERT fun hn => lockstep_deref (hh.sees hn) fun q n hname hc => ?_
    refine lockstep_configASSERT fun _ => lockstep_configASSERT fun _ => ?_
    refine .ite (fun _ => .pure rfl) fun _ => ?_
    refine (lockstep_memcpy _ _ _).bind_eq fun msg => ?_
    refine (lockstep_placeMessage _ _ _).bind_eq fun l => ?_
    refine .bind_eq (lockstep_assign (hh.sees hn) ⟨n, rfl, hname⟩ hc) fun _ => ?_
    exact .ite (fun _ => (ih hc _ _).bind_eq fun _ => .pure rfl) fun _ => .pure rfl

/-- The two memories may have different budgets: both suffice. -/
theorem lockstep_xQueueGenericSend (item : Buffer) (pos : BaseType) :
    Lockstep (V.Tied before) Eq (xQueueGenericSend queue item pos)
      (xQueueGenericSend queue item pos) := by
  intro s t hst
  obtain ⟨b, l, r, hs⟩ := exists_sends s queue item pos
  obtain ⟨b', l', r', ht⟩ := exists_sends t queue item pos
  set fuel := l.length + (storedIn b queue).length + (l'.length + (storedIn b' queue).length) + 1
    with hfuel
  have halike := lockstep_xQueueGenericSendFuel hh fuel item pos s t hst
  rwa [hs.run_eq (by omega), ht.run_eq (by omega), ← hs.run_xQueueGenericSend,
    ← ht.run_xQueueGenericSend] at halike

theorem lockstep_giveTimes (n : ℕ) :
    Lockstep (V.Tied before) Eq (giveTimes n queue) (giveTimes n queue) := by
  induction n with
  | zero => exact .pure rfl
  | succ n ih => exact (lockstep_xQueueGenericSend hh _ _).bind_eq fun _ => ih

theorem lockstep_xQueueCreateCountingSemaphore (maxCount initialCount : UBaseType) :
    Lockstep (V.Tied before) Eq (xQueueCreateCountingSemaphore queue maxCount initialCount)
      (xQueueCreateCountingSemaphore queue maxCount initialCount) := by
  refine (lockstep_new hh (.inl rfl)).bind ?_
  rintro _ sema ⟨rfl, rfl, -⟩
  exact .ite (fun _ => .pure rfl) fun _ => (lockstep_giveTimes hh _).bind_eq fun _ => .pure rfl

theorem lockstep_xQueueCreateMutex (queueType : UInt8) :
    Lockstep (V.Tied before) Eq (xQueueCreateMutex queue queueType)
      (xQueueCreateMutex queue queueType) := by
  refine (lockstep_new hh (.inl rfl)).bind ?_
  rintro _ mutex ⟨rfl, rfl, hs⟩
  have hend : Lockstep (V.Tied before) Eq
      (do configASSERT (mutex ≠ nullptr); trackMutex mutex; pure mutex : Api Handle)
      (do configASSERT (mutex ≠ nullptr); trackMutex mutex; pure mutex : Api Handle) :=
    lockstep_configASSERT fun _ => (lockstep_trackMutex hh).bind_eq fun _ => .pure rfl
  have hgive : Lockstep (V.Tied before) Eq (xSemaphoreGive mutex) (xSemaphoreGive mutex) :=
    lockstep_xQueueGenericSend hh _ _
  refine .ite (fun _ => ?_) fun _ => .ite (fun _ => ?_) fun _ => ?_
  · exact hgive.bind_eq fun _ => hend
  · refine hgive.bind_eq fun _ => lockstep_deref hs fun q n hname hc => ?_
    exact .bind_eq (lockstep_assign hs ⟨n, rfl, hname⟩ hc) fun _ => hend
  · exact lockstep_configASSERT fun _ => hend

theorem lockstep_xQueueAddToSet {set : Handle} (hset : V.Knows set) :
    Lockstep (V.Tied before) Eq (xQueueAddToSet queue set) (xQueueAddToSet queue set) := by
  refine lockstep_configASSERT fun hn => lockstep_configASSERT fun _ => ?_
  refine lockstep_deref (hh.sees hn) fun q n hname _ => .ite (fun _ => .pure rfl) fun _ => ?_
  exact .bind_eq (lockstep_assign (hh.sees hn) ⟨n, rfl, hname⟩ hset) fun _ => .pure rfl

theorem lockstep_xQueueRemoveFromSet (set : Handle) :
    Lockstep (V.Tied before) Eq (xQueueRemoveFromSet queue set)
      (xQueueRemoveFromSet queue set) := by
  refine lockstep_configASSERT fun hn => lockstep_configASSERT fun _ => ?_
  refine lockstep_deref (hh.sees hn) fun q n hname _ => .ite (fun _ => .pure rfl) fun _ => ?_
  exact .bind_eq (lockstep_assign (hh.sees hn) ⟨n, rfl, hname⟩ (.inl rfl)) fun _ => .pure rfl

theorem lockstep_xQueueSelectFromSet :
    Lockstep (V.Tied before) Eq (xQueueSelectFromSet queue) (xQueueSelectFromSet queue) :=
  (lockstep_xQueueReceive hh _).bind_eq fun _ => .ite (fun _ => .pure rfl) fun _ => .pure rfl

theorem lockstep_xQueueSemaphoreTake :
    Lockstep (V.Tied before) Eq (xQueueSemaphoreTake queue) (xQueueSemaphoreTake queue) :=
  lockstep_configASSERT fun hn => lockstep_deref (hh.sees hn) fun _ _ _ _ =>
    lockstep_configASSERT fun _ => lockstep_internalQueueReceiveDummy hh

theorem lockstep_xQueueGiveFromISR :
    Lockstep (V.Tied before) Eq (xQueueGiveFromISR queue) (xQueueGiveFromISR queue) :=
  lockstep_configASSERT fun hn => lockstep_deref (hh.sees hn) fun _ _ _ _ =>
    lockstep_configASSERT fun _ => lockstep_xQueueGenericSend hh _ _

theorem lockstep_xQueueTakeMutexRecursive :
    Lockstep (V.Tied before) Eq (xQueueTakeMutexRecursive queue)
      (xQueueTakeMutexRecursive queue) := by
  refine lockstep_configASSERT fun hn => lockstep_deref (hh.sees hn) fun q n hname hc => ?_
  refine lockstep_configASSERT fun _ => (lockstep_uxQueueMessagesWaiting hh).bind_eq fun _ => ?_
  refine .ite (fun _ => ?_) fun _ => ?_
  · refine (lockstep_internalQueueReceiveDummy hh).bind_eq fun _ => ?_
    refine .ite (fun _ => .pure rfl) fun _ => lockstep_deref (hh.sees hn) fun q n hname hc => ?_
    exact .bind_eq (lockstep_assign (hh.sees hn) ⟨n, rfl, hname⟩ hc) fun _ => .pure rfl
  · exact .bind_eq (lockstep_assign (hh.sees hn) ⟨n, rfl, hname⟩ hc) fun _ => .pure rfl

theorem lockstep_xQueueGiveMutexRecursive :
    Lockstep (V.Tied before) Eq (xQueueGiveMutexRecursive queue)
      (xQueueGiveMutexRecursive queue) := by
  refine lockstep_configASSERT fun hn => lockstep_deref (hh.sees hn) fun q n hname hc => ?_
  refine lockstep_configASSERT fun _ => (lockstep_uxQueueMessagesWaiting hh).bind_eq fun _ => ?_
  refine .ite (fun _ => ?_) fun _ => .pure rfl
  refine .bind_eq (lockstep_assign (hh.sees hn) ⟨n, rfl, hname⟩ hc) fun _ => ?_
  exact .ite (fun _ => lockstep_xQueueGenericSend hh _ _) fun _ => .pure rfl

end Functions

/-! ## Tracking -/

section Tracking

variable {before : Lib} (htracking : V.tracking)

include htracking

/-- Both sides find the same mutexes, all of which are seen. -/
theorem lockstep_isAnyMutexLocked :
    Lockstep (V.Tied before) Eq isAnyMutexLocked isAnyMutexLocked := by
  have hall : ∀ l : List Handle, (∀ h ∈ l, V.Knows h) →
      Lockstep (V.Tied before) Eq (anyLocked l) (anyLocked l) := by
    intro l hl
    induction l with
    | nil => exact .pure rfl
    | cons h l ih =>
      obtain ⟨hh, hl⟩ := List.forall_mem_cons.mp hl
      exact (lockstep_uxQueueMessagesWaiting hh).bind_eq fun _ =>
        .ite (fun _ => .pure rfl) fun _ => ih hl
  intro s t hst
  have hmutexes := hst.mutexes htracking
  rw [isAnyMutexLocked, EStateM.run_bind, EStateM.run_bind, EStateM.run_get, EStateM.run_get]
  simp only [← hmutexes]
  cases hm : s.s_mutexes with
  | none => exact .ok rfl hst
  | some l => exact hall l (hst.tracked htracking l hm) s t hst

theorem lockstep_mutexTrackingInit :
    Lockstep (V.Tied before) Eq mutexTrackingInit mutexTrackingInit := by
  intro s t hst
  have hmutexes := hst.mutexes htracking
  rw [run_mutexTrackingInit, run_mutexTrackingInit, ← hmutexes]
  split
  · refine .ok rfl (hst.setMutexes (f := fun _ => some []) fun _ l hl x hx => ?_)
    cases hl
    cases hx
  · exact .error hst

theorem lockstep_mutexTrackingTeardown :
    Lockstep (V.Tied before) Eq mutexTrackingTeardown mutexTrackingTeardown := by
  intro s t hst
  have hmutexes := hst.mutexes htracking
  rw [mutexTrackingTeardown, EStateM.run_bind, EStateM.run_bind, EStateM.run_get, EStateM.run_get]
  simp only [← hmutexes]
  refine Lockstep.ite (fun _ => .pure rfl) (fun _ => ?_) s t hst
  refine (lockstep_isAnyMutexLocked htracking).bind_eq fun _ => ?_
  refine .bind_eq (.modifies fun s t hst => hst.setMutexes (f := fun _ => none) ?_) fun _ => ?_
  · exact fun _ _ hl => absurd hl (by simp)
  · exact .ite (fun _ => .throws _) fun _ => .pure rfl

end Tracking

end View

/-! ## The steps -/

/-- The calls about the list of tracked mutexes. -/
def Call.IsTracking : Call → Prop
  | .trackingInit | .trackingTeardown | .isAnyMutexLocked => True
  | _ => False

namespace View

variable {V : View}

/-- The call stays within what is seen. -/
def Admits (V : View) (c : Call) : Prop :=
  (∀ h ∈ c.handles, V.Knows h) ∧ (c.IsTracking → V.tracking)

theorem lockstep_exec {before : Lib} {c : Call} (hc : V.Admits c) :
    Lockstep (V.Tied before) Eq c.exec c.exec := by
  obtain ⟨hh, htracking⟩ := hc
  cases c with
  | create => exact .map_eq _ (lockstep_xQueueGenericCreate (hh _ List.mem_cons_self) _ _ _)
  | createSet => exact .map_eq _ (lockstep_xQueueGenericCreate (hh _ List.mem_cons_self) _ _ _)
  | createCountingSemaphore =>
    exact .map_eq _ (lockstep_xQueueCreateCountingSemaphore (hh _ List.mem_cons_self) _ _)
  | createMutex => exact .map_eq _ (lockstep_xQueueCreateMutex (hh _ List.mem_cons_self) _)
  | delete => exact .map_eq _ (lockstep_vQueueDelete (hh _ List.mem_cons_self))
  | messagesWaiting =>
    exact .map_eq _ (lockstep_uxQueueMessagesWaiting (hh _ List.mem_cons_self))
  | spacesAvailable =>
    exact .map_eq _ (lockstep_uxQueueSpacesAvailable (hh _ List.mem_cons_self))
  | send => exact .map_eq _ (lockstep_xQueueGenericSend (hh _ List.mem_cons_self) _ _)
  | receive => exact .map_eq _ (lockstep_xQueueReceive (hh _ List.mem_cons_self) _)
  | peek => exact .map_eq _ (lockstep_xQueuePeek (hh _ List.mem_cons_self) _)
  | addToSet item set =>
    have hset : V.Knows set := hh _ (List.mem_cons_of_mem _ List.mem_cons_self)
    exact .map_eq _ (lockstep_xQueueAddToSet (hh _ List.mem_cons_self) hset)
  | removeFromSet => exact .map_eq _ (lockstep_xQueueRemoveFromSet (hh _ List.mem_cons_self) _)
  | selectFromSet => exact .map_eq _ (lockstep_xQueueSelectFromSet (hh _ List.mem_cons_self))
  | semaphoreTake => exact .map_eq _ (lockstep_xQueueSemaphoreTake (hh _ List.mem_cons_self))
  | giveFromISR => exact .map_eq _ (lockstep_xQueueGiveFromISR (hh _ List.mem_cons_self))
  | takeMutexRecursive =>
    exact .map_eq _ (lockstep_xQueueTakeMutexRecursive (hh _ List.mem_cons_self))
  | giveMutexRecursive =>
    exact .map_eq _ (lockstep_xQueueGiveMutexRecursive (hh _ List.mem_cons_self))
  | trackingInit => exact .map_eq _ (lockstep_mutexTrackingInit (htracking trivial))
  | trackingTeardown => exact .map_eq _ (lockstep_mutexTrackingTeardown (htracking trivial))
  | isAnyMutexLocked => exact .map_eq _ (lockstep_isAnyMutexLocked (htracking trivial))

/-- **A call within the view**: it answers the same on tied memories, and leaves them tied. -/
theorem Tied.step {before s s' t : Lib} {c : Call} {r : Reply} (hst : V.Tied before s t)
    (hc : V.Admits c) (hstep : s.Step c r s') : ∃ t', t.Step c r t' ∧ V.Tied before s' t' := by
  have halike := lockstep_exec hc s t hst
  unfold Lib.Step at hstep ⊢
  cases hs : EStateM.run c.exec s <;> cases ht : EStateM.run c.exec t <;> rw [hs, ht] at halike <;>
    rw [hs] at hstep <;> cases halike <;> cases hstep
  · rename_i hv htied
    exact ⟨_, congrArg₂ Prod.mk (congrArg Reply.returned hv.symm) rfl, htied⟩
  · rename_i htied
    exact ⟨_, rfl, htied⟩

theorem rel_sameQueue_refl (o : Option FakeQueue) : Option.Rel V.SameQueue o o := by
  cases o with
  | none => exact .none
  | some q => exact .some (sameQueue_refl q)

/-- A memory that is tied to another is tied to itself. -/
theorem Tied.self {before s t : Lib} (hst : V.Tied before s t) : V.Tied t t t where
  queues _ _ := rel_sameQueue_refl _
  containers h q hh hq := by
    have hrel := hst.queues h hh
    rw [hq] at hrel
    cases hs : s.lookup h with
    | none =>
      rw [hs] at hrel
      cases hrel
    | some p =>
      rw [hs] at hrel
      cases hrel with
      | some hpq =>
        obtain ⟨n, rfl, -⟩ := hpq
        exact hst.containers h p hh hs
  unseen _ _ := rfl
  mutexes _ := rfl
  tracked ht l hl := hst.tracked ht l ((hst.mutexes ht).trans hl)

/-- A call within the view leaves alone what is not seen, in the other memory too. -/
theorem Tied.lookup_eq_of_unseen {before s t t' : Lib} {c : Call} {r : Reply}
    (hst : V.Tied before s t) (hc : V.Admits c) (hstep : t.Step c r t') {h : Handle}
    (hh : ¬ V.sees h) : t'.lookup h = t.lookup h := by
  obtain ⟨t'', hstep', htied⟩ := hst.self.step hc hstep
  exact htied.unseen h hh

end View

end FakeFreeRtos
