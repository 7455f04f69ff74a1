import FakeFreeRtos.Model.Calls
import FakeFreeRtos.Queue.Effects

/-!
# Calls that keep the queues that exist

Besides the calls that only move messages, the calls on sets and on recursive mutexes change the
set memberships and the recursion counts. None of them creates or deletes a queue or changes what
was fixed at its creation (`Lib.Evolves`, `Lib.Step.evolves`), and only the former touch set
memberships (`Lib.Step.retains`).
-/

namespace FakeFreeRtos

open Foundations

/-! ## What is kept -/

/-- The same queues as far as `f` tells, and the same tracked mutexes; queues within their bounds
stay within them. -/
structure Lib.Retains {β : Type} (f : FakeQueue → β) (s s' : Lib) : Prop where
  lookup : ∀ h, (s'.lookup h).map f = (s.lookup h).map f
  s_mutexes : s'.s_mutexes = s.s_mutexes
  wellFormed : s.WellFormed → s'.WellFormed

/-- What is fixed when a queue is created. -/
def FakeQueue.kind (q : FakeQueue) : UBaseType × UBaseType × UInt8 :=
  (q.queueLength, q.itemSize, q.queueType)

/-- What is fixed when a queue is created, and the set it is in. -/
def FakeQueue.membership (q : FakeQueue) : (UBaseType × UBaseType × UInt8) × Handle :=
  (q.kind, q.queueSetContainer)

/-- The queues that exist and what was fixed at their creation are kept. -/
abbrev Lib.Evolves : Lib → Lib → Prop := Lib.Retains FakeQueue.kind

namespace Lib.Retains

variable {β γ : Type} {f : FakeQueue → β} {s s' : Lib}

instance : IsPreorder Lib (Lib.Retains f) where
  refl _ := ⟨fun _ => rfl, rfl, id⟩
  trans _ _ _ h h' := ⟨fun x => (h'.lookup x).trans (h.lookup x), h'.s_mutexes.trans h.s_mutexes,
    h'.wellFormed ∘ h.wellFormed⟩

theorem comp (hs : s.Retains f s') (g : β → γ) : s.Retains (g ∘ f) s' where
  lookup h := by rw [← Option.map_map, hs.lookup h, Option.map_map]
  s_mutexes := hs.s_mutexes
  wellFormed := hs.wellFormed

theorem exists_lookup (hs : s.Retains f s') {h : Handle} {q : FakeQueue}
    (hq : s.lookup h = some q) : ∃ q', s'.lookup h = some q' ∧ f q' = f q := by
  have hh := hs.lookup h
  rw [hq] at hh
  exact Option.map_eq_some_iff.mp hh

theorem exists_lookup_of_after (hs : s.Retains f s') {h : Handle} {q' : FakeQueue}
    (hq' : s'.lookup h = some q') : ∃ q, s.lookup h = some q ∧ f q' = f q := by
  have hh := hs.lookup h
  rw [hq'] at hh
  obtain ⟨q, hq, he⟩ := Option.map_eq_some_iff.mp hh.symm
  exact ⟨q, hq, he.symm⟩

theorem isSome_lookup (hs : s.Retains f s') (h : Handle) :
    (s'.lookup h).isSome = (s.lookup h).isSome := by
  rw [← Option.isSome_map (f := f), hs.lookup h, Option.isSome_map]

theorem write {h : Handle} {q q' : FakeQueue} (hn : h ≠ nullptr) (hq : s.lookup h = some q)
    (hf : f q' = f q) (hk : q'.kind = q.kind) (hl : q'.queue = q.queue) :
    s.Retains f (s.write h q') := by
  refine ⟨fun x => ?_, rfl, fun hw => hw.write hn ?_⟩
  · by_cases hx : x = h
    · subst hx
      rw [lookup_write_self, hq, Option.map_some, Option.map_some, hf]
    · rw [lookup_write_of_ne _ _ hx]
  · obtain ⟨hlen, hitem, -⟩ : q'.queueLength = q.queueLength ∧ q'.itemSize = q.itemSize ∧
        q'.queueType = q.queueType := by simpa [FakeQueue.kind] using hk
    have hqw := hw.queue h q hq
    exact ⟨by rw [hl, hlen]; exact hqw.length_le, by rw [hl, hitem]; exact hqw.item_length⟩

theorem evolves (hs : s.Retains FakeQueue.membership s') : s.Evolves s' := hs.comp Prod.fst

end Lib.Retains

theorem Lib.Shuffles.retains {s s' : Lib} (h : s.Shuffles s') :
    s.Retains FakeQueue.membership s' := by
  refine ⟨fun x => ?_, h.1.s_mutexes, h.2⟩
  have hk : FakeQueue.membership ∘ FakeQueue.shape = FakeQueue.membership := rfl
  have := congrArg (Option.map FakeQueue.membership) (h.1.lookup x)
  simpa only [Option.map_map, hk] using this

theorem ensures_membership {α : Type} {x : Api α} (h : Ensures Lib.Shuffles x) :
    Ensures (Lib.Retains FakeQueue.membership) x := h.mono fun _ _ hs => hs.retains

/-- The rest of a call after it has read the object at `h`. -/
theorem ensures_deref_bind {α : Type} {R : Lib → Lib → Prop} [IsPreorder Lib R] {h : Handle}
    {f : FakeQueue → Api α}
    (hf : ∀ s q, s.lookup h = some q → R s (finalState (EStateM.run (f q) s))) :
    Ensures R (deref h >>= f) := fun s =>
  Ensures.bind_reads (finalState_deref h s) fun q hq => hf s q (lookup_of_run_deref hq)

/-! ## Sets and recursive mutexes -/

/-- Adding to a set: an early exit, also from a stale handle, a refusal, or the new membership of
an empty queue that was in no set. -/
theorem run_xQueueAddToSet_cases (s : Lib) (item set : Handle) :
    EStateM.run (xQueueAddToSet item set) s = .error .assertFailed s ∨
    (item ≠ nullptr ∧ s.lookup item = none ∧
      EStateM.run (xQueueAddToSet item set) s = .error .undefined s) ∨
    EStateM.run (xQueueAddToSet item set) s = .ok pdFAIL s ∨
    ∃ q, item ≠ nullptr ∧ set ≠ nullptr ∧ s.lookup item = some q ∧
      q.queueSetContainer = nullptr ∧ q.queue = [] ∧
      EStateM.run (xQueueAddToSet item set) s =
        .ok pdPASS (s.write item { q with queueSetContainer := set }) := by
  by_cases hn : item = nullptr
  · exact .inl (by simp [xQueueAddToSet, hn])
  by_cases hset : set = nullptr
  · exact .inl (by simp [xQueueAddToSet, hn, hset])
  cases hq : s.lookup item with
  | none =>
    exact .inr (.inl ⟨hn, rfl, by simp [xQueueAddToSet, hn, hset, run_deref_none hq]⟩)
  | some q =>
    by_cases hc : q.queueSetContainer ≠ nullptr ∨ q.queue ≠ []
    · exact .inr (.inr (.inl (by simp [xQueueAddToSet, hn, hset, hq, hc])))
    · obtain ⟨hcont, hempty⟩ := not_or.mp hc
      refine .inr (.inr (.inr ⟨q, hn, hset, rfl, not_not.mp hcont, not_not.mp hempty, ?_⟩))
      simp [xQueueAddToSet, hn, hset, hq, hc]

/-- Removing from a set: an early exit, also from a stale handle, a refusal, or the end of the
membership of an empty queue. -/
theorem run_xQueueRemoveFromSet_cases (s : Lib) (item set : Handle) :
    EStateM.run (xQueueRemoveFromSet item set) s = .error .assertFailed s ∨
    (item ≠ nullptr ∧ s.lookup item = none ∧
      EStateM.run (xQueueRemoveFromSet item set) s = .error .undefined s) ∨
    EStateM.run (xQueueRemoveFromSet item set) s = .ok pdFAIL s ∨
    ∃ q, item ≠ nullptr ∧ set ≠ nullptr ∧ s.lookup item = some q ∧
      q.queueSetContainer = set ∧ q.queue = [] ∧
      EStateM.run (xQueueRemoveFromSet item set) s =
        .ok pdPASS (s.write item { q with queueSetContainer := nullptr }) := by
  by_cases hn : item = nullptr
  · exact .inl (by simp [xQueueRemoveFromSet, hn])
  by_cases hset : set = nullptr
  · exact .inl (by simp [xQueueRemoveFromSet, hn, hset])
  cases hq : s.lookup item with
  | none =>
    exact .inr (.inl ⟨hn, rfl, by simp [xQueueRemoveFromSet, hn, hset, run_deref_none hq]⟩)
  | some q =>
    by_cases hc : q.queueSetContainer ≠ set ∨ q.queue ≠ []
    · exact .inr (.inr (.inl (by simp [xQueueRemoveFromSet, hn, hset, hq, hc])))
    · obtain ⟨hcont, hempty⟩ := not_or.mp hc
      refine .inr (.inr (.inr ⟨q, hn, hset, rfl, not_not.mp hcont, not_not.mp hempty, ?_⟩))
      simp [xQueueRemoveFromSet, hn, hset, hq, hc]

theorem ensures_xQueueAddToSet (item set : Handle) :
    Ensures Lib.Evolves (xQueueAddToSet item set) := by
  intro s
  rcases run_xQueueAddToSet_cases s item set with
    hrun | ⟨-, -, hrun⟩ | hrun | ⟨q, hn, -, hq, -, -, hrun⟩
  · rw [hrun]; exact refl_of _ s
  · rw [hrun]; exact refl_of _ s
  · rw [hrun]; exact refl_of _ s
  · rw [hrun]; exact .write hn hq rfl rfl rfl

theorem ensures_xQueueRemoveFromSet (item set : Handle) :
    Ensures Lib.Evolves (xQueueRemoveFromSet item set) := by
  intro s
  rcases run_xQueueRemoveFromSet_cases s item set with
    hrun | ⟨-, -, hrun⟩ | hrun | ⟨q, hn, -, hq, -, -, hrun⟩
  · rw [hrun]; exact refl_of _ s
  · rw [hrun]; exact refl_of _ s
  · rw [hrun]; exact refl_of _ s
  · rw [hrun]; exact .write hn hq rfl rfl rfl

theorem ensures_xQueueTakeMutexRecursive (mutex : Handle) :
    Ensures (Lib.Retains FakeQueue.membership) (xQueueTakeMutexRecursive mutex) := by
  by_cases hn : mutex = nullptr
  · exact .of_reads fun s => by simp [xQueueTakeMutexRecursive, hn]
  refine (ensures_configASSERT _).bind fun _ => ensures_deref_bind fun s q hq => ?_
  refine Ensures.bind_reads (finalState_configASSERT _ s) fun _ _ => ?_
  refine Ensures.bind_reads (ensures_uxQueueMessagesWaiting (R := Eq) mutex s).symm
    fun count _ => ?_
  split
  · refine (ensures_membership (ensures_internalQueueReceiveDummy mutex)).bind (fun rtn => ?_) s
    refine .ite (fun _ => .pure _) fun _ => ensures_deref_bind fun s q hq => ?_
    exact .write hn hq rfl rfl rfl
  · exact .write hn hq rfl rfl rfl

theorem ensures_xQueueGiveMutexRecursive (mutex : Handle) :
    Ensures (Lib.Retains FakeQueue.membership) (xQueueGiveMutexRecursive mutex) := by
  by_cases hn : mutex = nullptr
  · exact .of_reads fun s => by simp [xQueueGiveMutexRecursive, hn]
  refine (ensures_configASSERT _).bind fun _ => ensures_deref_bind fun s q hq => ?_
  refine Ensures.bind_reads (finalState_configASSERT _ s) fun _ _ => ?_
  refine Ensures.bind_reads (ensures_uxQueueMessagesWaiting (R := Eq) mutex s).symm
    fun count _ => ?_
  split
  · set q' := { q with recursiveCallCount := q.recursiveCallCount - 1 } with hq'
    have hwr : s.Retains FakeQueue.membership (s.write mutex q') := .write hn hq rfl rfl rfl
    refine trans_of _ hwr (?_ : Lib.Retains _ _ (finalState (EStateM.run
      (if q'.recursiveCallCount = 0 then xSemaphoreGive mutex else pure pdTRUE)
      (s.write mutex q'))))
    exact Ensures.ite (fun _ => ensures_membership (ensures_xQueueGenericSend _ _ _))
      (fun _ => .pure _) _
  · exact refl_of _ s

/-! ## The steps -/

/-- The calls that create and delete no queue and leave the tracking on or off. -/
def Call.Evolving : Call → Prop
  | .create .. | .createSet .. | .createCountingSemaphore .. | .createMutex .. | .delete _
  | .trackingInit | .trackingTeardown => False
  | _ => True

theorem Lib.Step.finalState_eq {s s' : Lib} {c : Call} {r : Reply} (h : s.Step c r s') :
    finalState (EStateM.run c.exec s) = s' := by
  cases r with
  | returned v => rw [Lib.step_returned_iff.mp h, finalState_ok]
  | left e => rw [Lib.step_left_iff.mp h, finalState_error]

/-- The evolving calls but those that add to a set and remove from it. -/
def Call.KeepsSets (c : Call) : Prop :=
  match c with
  | .addToSet .. | .removeFromSet .. => False
  | c => c.Evolving

theorem Lib.Step.retains {s s' : Lib} {c : Call} {r : Reply} (h : s.Step c r s')
    (hc : c.KeepsSets) : s.Retains FakeQueue.membership s' := by
  have hall : Ensures (Lib.Retains FakeQueue.membership) c.exec := by
    cases c with
    | create => exact absurd hc id
    | createSet => exact absurd hc id
    | createCountingSemaphore => exact absurd hc id
    | createMutex => exact absurd hc id
    | delete => exact absurd hc id
    | trackingInit => exact absurd hc id
    | trackingTeardown => exact absurd hc id
    | addToSet => exact absurd hc id
    | removeFromSet => exact absurd hc id
    | messagesWaiting => exact .map _ (ensures_uxQueueMessagesWaiting _)
    | spacesAvailable => exact .map _ (ensures_uxQueueSpacesAvailable _)
    | send => exact .map _ (ensures_membership (ensures_xQueueGenericSend _ _ _))
    | receive => exact .map _ (ensures_membership (ensures_xQueueReceive _ _))
    | peek => exact .map _ (ensures_xQueuePeek _ _)
    | selectFromSet => exact .map _ (ensures_membership (ensures_xQueueSelectFromSet _))
    | semaphoreTake => exact .map _ (ensures_membership (ensures_xQueueSemaphoreTake _))
    | giveFromISR => exact .map _ (ensures_membership (ensures_xQueueGiveFromISR _))
    | takeMutexRecursive => exact .map _ (ensures_xQueueTakeMutexRecursive _)
    | giveMutexRecursive => exact .map _ (ensures_xQueueGiveMutexRecursive _)
    | isAnyMutexLocked => exact .map _ ensures_isAnyMutexLocked
  exact h.finalState_eq ▸ hall s

theorem Lib.Step.evolves {s s' : Lib} {c : Call} {r : Reply} (h : s.Step c r s')
    (hc : c.Evolving) : s.Evolves s' := by
  by_cases hk : c.KeepsSets
  · exact (h.retains hk).evolves
  · have hall : Ensures Lib.Evolves c.exec := by
      cases c with
      | addToSet => exact .map _ (ensures_xQueueAddToSet _ _)
      | removeFromSet => exact .map _ (ensures_xQueueRemoveFromSet _ _)
      | _ => exact absurd hc hk
    exact h.finalState_eq ▸ hall s

end FakeFreeRtos
