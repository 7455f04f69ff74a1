import FakeFreeRtos.Queue.Reachable

/-!
# Calls that do not mention a queue

A call leaves alone every queue that it is not given and that is not used as a set: only a
notification could reach such a queue (`Lib.Step.spares`). A program may therefore use a queue by
some calls and interleave them with any others (`Lib.UsesOnly`), and what it makes of the queue is
told from the former alone (`Lib.UsesOnly.cases`).
-/

namespace FakeFreeRtos

open Foundations

/-- The handles that a call is given; for a creating call, what the allocator answers. -/
def Call.handles : Call → List Handle
  | .create addr .. | .createSet addr _ | .createCountingSemaphore addr .. | .createMutex addr _ =>
    [addr]
  | .delete queue | .messagesWaiting queue | .spacesAvailable queue | .send queue .. => [queue]
  | .receive queue _ | .peek queue _ | .selectFromSet queue => [queue]
  | .semaphoreTake queue | .giveFromISR queue => [queue]
  | .takeMutexRecursive queue | .giveMutexRecursive queue => [queue]
  | .addToSet item set | .removeFromSet item set => [item, set]
  | .trackingInit | .trackingTeardown | .isAnyMutexLocked => []

/-- No queue is a member of `h`. -/
def Lib.NoMember (s : Lib) (h : Handle) : Prop :=
  ∀ x q, s.lookup x = some q → q.queueSetContainer ≠ h

/-- A queue is written that is no member of `h`. -/
theorem Lib.NoMember.write {s : Lib} {h : Handle} (hno : s.NoMember h) (x : Handle) {q : FakeQueue}
    (hq : q.queueSetContainer ≠ h) : (s.write x q).NoMember h := by
  intro y p hp
  by_cases hy : y = x
  · subst hy
    rw [Lib.lookup_write_self, Option.some.injEq] at hp
    exact hp ▸ hq
  · rw [Lib.lookup_write_of_ne _ _ hy] at hp
    exact hno y p hp

/-- The queue at `h`, which has no members, is left as it is and gets none. -/
def Lib.Spares (h : Handle) (s s' : Lib) : Prop :=
  s.NoMember h → s'.NoMember h ∧ s'.lookup h = s.lookup h

namespace Lib.Spares

variable {h x : Handle} {s s' : Lib} {q q' : FakeQueue}

instance : IsPreorder Lib (Lib.Spares h) where
  refl _ := fun hno => ⟨hno, rfl⟩
  trans _ _ _ h₁ h₂ := fun hno => by
    obtain ⟨hno₁, he₁⟩ := h₁ hno
    obtain ⟨hno₂, he₂⟩ := h₂ hno₁
    exact ⟨hno₂, he₂.trans he₁⟩

/-- Another queue is written, and is no member of `h`. -/
theorem write (hx : x ≠ h) (hc : q'.queueSetContainer ≠ h) : Lib.Spares h s (s.write x q') :=
  fun hno => ⟨hno.write x hc, Lib.lookup_write_of_ne _ _ hx.symm⟩

/-- Another queue is written that was no member of `h`. -/
theorem rewrite (hx : x ≠ h) (hq : s.lookup x = some q)
    (hc : q'.queueSetContainer = q.queueSetContainer) : Lib.Spares h s (s.write x q') := fun hno =>
  write hx (hc ▸ hno x q hq) hno

theorem free (hx : x ≠ h) : Lib.Spares h s (s.free x) := by
  refine fun hno => ⟨fun y p hp => ?_, Lib.lookup_free_of_ne _ hx.symm⟩
  by_cases hy : y = x
  · subst hy
    rw [Lib.lookup_free_self] at hp
    cases hp
  · rw [Lib.lookup_free_of_ne _ hy] at hp
    exact hno y p hp

/-- The tracked mutexes do not matter. -/
theorem of_heap (hheap : s'.heap = s.heap) : Lib.Spares h s s' := fun hno =>
  ⟨fun x q hq => hno x q ((congrArg (·.lookup x) hheap).symm.trans hq), congrArg (·.lookup h) hheap⟩

end Lib.Spares

/-! ## The functions -/

section Functions

variable {h queue : Handle} (hne : queue ≠ h)

include hne

theorem spares_xQueueGenericSendFuel (fuel : ℕ) (item : Buffer) (pos : BaseType) :
    Ensures (Lib.Spares h) (xQueueGenericSendFuel fuel queue item pos) := by
  induction fuel generalizing queue item pos with
  | zero => exact ensures_leave _
  | succ fuel ih =>
    intro s
    rcases run_xQueueGenericSendFuel_cases fuel s queue item pos with
      ⟨x, -, hrun⟩ | ⟨-, hrun⟩ | ⟨q, l, hn, hq, hi, hst, hrun⟩
    · rw [hrun]; exact refl_of _ s
    · rw [hrun]; exact refl_of _ s
    · have hwr : Lib.Spares h s (s.write queue { q with queue := l }) := .rewrite hne hq rfl
      rw [hrun]
      split
      · -- the set of the queue is not `h`, which has no members
        intro hno
        exact trans_of _ hwr (Ensures.map _ (ih (hno queue q hq) _ _) _) hno
      · exact hwr

theorem spares_xQueueGenericSend (item : Buffer) (pos : BaseType) :
    Ensures (Lib.Spares h) (xQueueGenericSend queue item pos) :=
  .bind (.of_reads fun _ => rfl) fun _ => spares_xQueueGenericSendFuel hne _ _ _

theorem spares_internalQueueReceive (buffer : Buffer) :
    Ensures (Lib.Spares h) (internalQueueReceive queue buffer) := by
  intro s
  rcases run_internalQueueReceive_cases s queue buffer with
    ⟨x, hrun⟩ | hrun | ⟨q, m, rest, b, hn, hq, hm, -, hrun⟩
  · rw [hrun]; exact refl_of _ s
  · rw [hrun]; exact refl_of _ s
  · rw [hrun]; exact .rewrite hne hq rfl

theorem spares_internalQueueReceiveDummy :
    Ensures (Lib.Spares h) (internalQueueReceiveDummy queue) :=
  (ensures_configASSERT _).bind fun _ => (spares_internalQueueReceive hne _).bind fun _ => .pure _

theorem spares_xQueueReceive (buffer : Buffer) :
    Ensures (Lib.Spares h) (xQueueReceive queue buffer) :=
  (ensures_configASSERT _).bind fun _ => (ensures_configASSERT _).bind fun _ =>
    spares_internalQueueReceive hne _

theorem spares_xQueueSelectFromSet : Ensures (Lib.Spares h) (xQueueSelectFromSet queue) :=
  (spares_xQueueReceive hne _).bind fun _ => .ite (fun _ => .pure _) fun _ => .pure _

theorem spares_xQueueSemaphoreTake : Ensures (Lib.Spares h) (xQueueSemaphoreTake queue) :=
  (ensures_configASSERT _).bind fun _ => (ensures_deref _).bind fun _ =>
    (ensures_configASSERT _).bind fun _ => spares_internalQueueReceiveDummy hne

theorem spares_xQueueGiveFromISR : Ensures (Lib.Spares h) (xQueueGiveFromISR queue) :=
  (ensures_configASSERT _).bind fun _ => (ensures_deref _).bind fun _ =>
    (ensures_configASSERT _).bind fun _ => spares_xQueueGenericSend hne _ _

theorem spares_xQueueAddToSet {set : Handle} (hset : set ≠ h) :
    Ensures (Lib.Spares h) (xQueueAddToSet queue set) := by
  intro s
  rcases run_xQueueAddToSet_cases s queue set with
    hrun | ⟨-, -, hrun⟩ | hrun | ⟨q, -, -, -, -, -, hrun⟩
  · rw [hrun]; exact refl_of _ s
  · rw [hrun]; exact refl_of _ s
  · rw [hrun]; exact refl_of _ s
  · rw [hrun]; exact .write hne hset

/-- A queue that leaves its set is then in none. -/
theorem spares_xQueueRemoveFromSet (hn : nullptr ≠ h) (set : Handle) :
    Ensures (Lib.Spares h) (xQueueRemoveFromSet queue set) := by
  intro s
  rcases run_xQueueRemoveFromSet_cases s queue set with
    hrun | ⟨-, -, hrun⟩ | hrun | ⟨q, -, -, -, -, -, hrun⟩
  · rw [hrun]; exact refl_of _ s
  · rw [hrun]; exact refl_of _ s
  · rw [hrun]; exact refl_of _ s
  · rw [hrun]; exact .write hne hn

theorem spares_xQueueTakeMutexRecursive :
    Ensures (Lib.Spares h) (xQueueTakeMutexRecursive queue) := by
  refine (ensures_configASSERT _).bind fun _ => ensures_deref_bind fun s q hq => ?_
  refine Ensures.bind_reads (finalState_configASSERT _ s) fun _ _ => ?_
  refine Ensures.bind_reads (ensures_uxQueueMessagesWaiting (R := Eq) queue s).symm
    fun count _ => ?_
  split
  · refine (spares_internalQueueReceiveDummy hne).bind (fun rtn => ?_) s
    refine .ite (fun _ => .pure _) fun _ => ensures_deref_bind fun s q hq => ?_
    exact .rewrite hne hq rfl
  · exact .rewrite hne hq rfl

theorem spares_xQueueGiveMutexRecursive :
    Ensures (Lib.Spares h) (xQueueGiveMutexRecursive queue) := by
  refine (ensures_configASSERT _).bind fun _ => ensures_deref_bind fun s q hq => ?_
  refine Ensures.bind_reads (finalState_configASSERT _ s) fun _ _ => ?_
  refine Ensures.bind_reads (ensures_uxQueueMessagesWaiting (R := Eq) queue s).symm
    fun count _ => ?_
  split
  · set q' := { q with recursiveCallCount := q.recursiveCallCount - 1 } with hq'
    have hwr : Lib.Spares h s (s.write queue q') := .rewrite hne hq rfl
    refine trans_of _ hwr (?_ : Lib.Spares h _ (finalState (EStateM.run
      (if q'.recursiveCallCount = 0 then xSemaphoreGive queue else pure pdTRUE)
      (s.write queue q'))))
    exact Ensures.ite (fun _ => spares_xQueueGenericSend hne _ _) (fun _ => .pure _) _
  · exact refl_of _ s

end Functions

/-! ## The steps -/

section Steps

variable {s s' : Lib} {c : Call} {r : Reply} {h : Handle}

theorem Call.Creates.addr_mem {addr : Handle} {q : FakeQueue} (hc : c.Creates addr q) :
    addr ∈ c.handles := by
  cases c with
  | create => exact List.mem_singleton.mpr hc.1
  | createSet => exact List.mem_singleton.mpr hc.1
  | createCountingSemaphore => exact List.mem_singleton.mpr hc.1
  | createMutex => exact List.mem_singleton.mpr hc.1
  | _ => exact absurd hc id

/-- An evolving call that is not given `h`. -/
theorem Lib.Step.spares_of_evolving (hstep : s.Step c r s') (hc : c.Evolving) (hn : nullptr ≠ h)
    (hh : h ∉ c.handles) : Lib.Spares h s s' := by
  have hall : Ensures (Lib.Spares h) c.exec := by
    cases c with
    | create => exact absurd hc id
    | createSet => exact absurd hc id
    | createCountingSemaphore => exact absurd hc id
    | createMutex => exact absurd hc id
    | delete => exact absurd hc id
    | trackingInit => exact absurd hc id
    | trackingTeardown => exact absurd hc id
    | messagesWaiting => exact .map _ (ensures_uxQueueMessagesWaiting _)
    | spacesAvailable => exact .map _ (ensures_uxQueueSpacesAvailable _)
    | peek => exact .map _ (ensures_xQueuePeek _ _)
    | isAnyMutexLocked => exact .map _ ensures_isAnyMutexLocked
    | addToSet item set =>
      obtain ⟨hi, hset⟩ : h ≠ item ∧ h ≠ set := by simpa [Call.handles] using hh
      exact .map _ (spares_xQueueAddToSet hi.symm hset.symm)
    | removeFromSet item set =>
      obtain ⟨hi, -⟩ : h ≠ item ∧ h ≠ set := by simpa [Call.handles] using hh
      exact .map _ (spares_xQueueRemoveFromSet hi.symm hn set)
    | send =>
      exact .map _ (spares_xQueueGenericSend (List.ne_of_not_mem_cons hh).symm _ _)
    | receive => exact .map _ (spares_xQueueReceive (List.ne_of_not_mem_cons hh).symm _)
    | selectFromSet => exact .map _ (spares_xQueueSelectFromSet (List.ne_of_not_mem_cons hh).symm)
    | semaphoreTake => exact .map _ (spares_xQueueSemaphoreTake (List.ne_of_not_mem_cons hh).symm)
    | giveFromISR => exact .map _ (spares_xQueueGiveFromISR (List.ne_of_not_mem_cons hh).symm)
    | takeMutexRecursive =>
      exact .map _ (spares_xQueueTakeMutexRecursive (List.ne_of_not_mem_cons hh).symm)
    | giveMutexRecursive =>
      exact .map _ (spares_xQueueGiveMutexRecursive (List.ne_of_not_mem_cons hh).symm)
  exact hstep.finalState_eq ▸ hall s

/-- **A call that is not given a handle spares the queue there**: unless the queue is used as a
set, it is left as it is. -/
theorem Lib.Step.spares (hstep : s.Step c r s') (hd : r.Defined) (hn : h ≠ nullptr)
    (hh : h ∉ c.handles) : Lib.Spares h s s' := by
  cases hstep.effect hd with
  | evolves hc => exact hstep.spares_of_evolving hc hn.symm hh
  | unchanged => exact refl_of _ s
  | @creates _ addr q hcr =>
    have hne : addr ≠ h := fun he => hh (he ▸ hcr.addr_mem)
    exact .write hne (hcr.container ▸ hn.symm)
  | @createsMutex addr t =>
    have hwr : Lib.Spares h s (s.write addr (freshMutex t)) :=
      .write (List.ne_of_not_mem_cons hh).symm hn.symm
    exact trans_of _ hwr (.of_heap rfl)
  | deletes =>
    refine trans_of (Lib.Spares h) ?_ (.free (List.ne_of_not_mem_cons hh).symm)
    split
    · exact .of_heap rfl
    · exact refl_of _ s
  | tracksOn => exact .of_heap rfl
  | tracksOff => exact .of_heap rfl

end Steps

/-! ## New addresses -/

/-- An address that the allocator can answer, and to which no queue still refers as its set. -/
structure Lib.Unused (s : Lib) (addr : Handle) : Prop where
  fresh : s.Fresh addr
  noMember : s.NoMember addr

/-- In a legal memory every fresh address is unused. -/
theorem Lib.Legal.unused {s : Lib} (hs : s.Legal) {addr : Handle} (hf : s.Fresh addr) :
    s.Unused addr := by
  refine ⟨hf, fun x q hq hc => ?_⟩
  obtain ⟨S, hS, -⟩ := hs.setsLive x q hq (hc ▸ hf.1)
  rw [hc, hf.2] at hS
  cases hS

/-- A memory can be searched for queues that refer to an address as their set. -/
theorem Lib.unused_of_allLive {s : Lib} {addr : Handle} (hn : addr ≠ nullptr)
    (hfree : s.lookup addr = none)
    (hlive : s.AllLive fun x => (s.lookup x).all fun q => q.queueSetContainer ≠ addr) :
    s.Unused addr where
  fresh := ⟨hn, hfree⟩
  noMember x q hq := by
    have hx : (s.lookup x).all (fun q => q.queueSetContainer ≠ addr) = true :=
      hlive x (Finmap.mem_keys.mpr (Finmap.mem_of_lookup_eq_some hq))
    rw [hq, Option.all_some] at hx
    exact of_decide_eq_true hx

/-! ## Programs around a queue -/

/-- A step of a program that uses the queue at `h` by the calls `uses` only: its other calls are
not given `h`. -/
def Lib.UsesOnly (h : Handle) (uses : Call → Prop) (s : Lib) (c : Call) (r : Reply) (s' : Lib) :
    Prop :=
  s.Step c r s' ∧ (uses c ∨ h ∉ c.handles ∧ r.Defined)

/-- A queue without members sees the calls that use it, and no others. -/
theorem Lib.UsesOnly.cases {h : Handle} {uses : Call → Prop} {s s' : Lib} {c : Call} {r : Reply}
    (hstep : Lib.UsesOnly h uses s c r s') (hn : h ≠ nullptr) (hno : s.NoMember h) :
    (uses c ∧ s.Step c r s') ∨ (h ∉ c.handles ∧ s'.NoMember h ∧ s'.lookup h = s.lookup h) := by
  obtain ⟨hs, hu | ⟨hh, hd⟩⟩ := hstep
  · exact .inl ⟨hu, hs⟩
  · exact .inr ⟨hh, hs.spares hd hn hh hno⟩

/-- The calls of a kind that were answered by pdTRUE. -/
def successes (kind : Call → Prop) [DecidablePred kind] (tr : List (Call × Reply)) : ℕ :=
  tr.countP fun cr => decide (kind cr.1) && decide (cr.2 = .returned (.code pdTRUE))

section Successes

variable {kind : Call → Prop} [DecidablePred kind] {tr : List (Call × Reply)} {c : Call} {r : Reply}

theorem successes_append_of (hc : kind c) (hr : r = .returned (.code pdTRUE)) :
    successes kind (tr ++ [(c, r)]) = successes kind tr + 1 := by
  simp [successes, hc, hr]

theorem successes_append_of_not (h : kind c → r ≠ .returned (.code pdTRUE)) :
    successes kind (tr ++ [(c, r)]) = successes kind tr := by
  simpa [successes] using h

theorem successes_le_append (kind : Call → Prop) [DecidablePred kind]
    (tr tr' : List (Call × Reply)) : successes kind tr ≤ successes kind (tr ++ tr') := by
  rw [successes, successes, List.countP_append]
  exact Nat.le_add_right ..

end Successes

end FakeFreeRtos
