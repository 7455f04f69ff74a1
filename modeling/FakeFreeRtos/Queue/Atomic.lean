import FakeFreeRtos.Queue.Receive

/-!
# Failed calls leave no trace

A call that answers a failure, or trips an assertion, should leave the memory as it was. Two calls
could break this, since they change the memory before they call on: a send to a member of a set,
whose nested send cannot trip an assertion (`neverLeavesBy_nestedSend`), and a recursive give,
which counts down before it gives, but gives to a semaphore of one token that has none
(`atomicAt_xQueueGiveMutexRecursive`). One call does break it: `xQueueSelectFromSet` on a queue
whose first message is no handle takes that message and answers null. `failed_calls_atomic_iff`
says that this is the only exception.
-/

namespace FakeFreeRtos

open Foundations

/-! ## Sends -/

/-- A send of an item to the back of a queue that is not null leaves early only by something
undefined, or when its budget is spent: it trips no assertion, however deep. -/
theorem neverLeavesBy_nestedSend {x : Exit} (hx : x ≠ .undefined) (hx' : x ≠ .outOfFuel) (fuel : ℕ)
    {queue : Handle} (hn : queue ≠ nullptr) (b : Bytes) :
    NeverLeavesBy x (xQueueGenericSendFuel fuel queue (some b) queueSEND_TO_BACK) := by
  induction fuel generalizing queue b with
  | zero =>
    intro s s' h
    exact hx' (EStateM.Result.error.inj h).1.symm
  | succ fuel ih =>
    intro s s' h
    rcases run_xQueueGenericSendFuel_cases fuel s queue (some b) queueSEND_TO_BACK with
      ⟨y, hy, hrun⟩ | ⟨-, hrun⟩ | ⟨q, l, -, -, -, -, hrun⟩
    · obtain ⟨rfl, -⟩ := EStateM.Result.error.inj (hrun.symm.trans h)
      rcases hy with hy | ⟨-, hy | hy | hy⟩
      · exact hx hy
      · exact hn hy
      · cases hy
      · exact hy .back rfl
    · rw [hrun] at h
      cases h
    · rw [hrun] at h
      by_cases hc : q.queueSetContainer ≠ nullptr
      · rw [if_pos hc] at h
        exact (ih hc _).map _ _ _ h
      · rw [if_neg hc] at h
        cases h

/-- A program that answers pdTRUE. -/
theorem neverFails_of_run {x : Api BaseType} {s s₁ : Lib} (hrun : EStateM.run x s = .ok pdTRUE s₁) :
    NeverFails (· = pdFALSE) .assertFailed x s := by
  refine ⟨fun a s' hr => ?_, fun s' hr => ?_⟩
  · cases hrun.symm.trans hr
    exact pdTRUE_ne_pdFALSE
  · cases hrun.symm.trans hr

/-- Once the message is stored, the rest of a send answers pdTRUE and trips no assertion. -/
theorem neverFails_notify (fuel : ℕ) (s : Lib) (set : Handle) (b : Bytes) :
    NeverFails (· = pdFALSE) .assertFailed (if set ≠ nullptr then (fun _ => pdTRUE) <$>
      xQueueGenericSendFuel fuel set (some b) queueSEND_TO_BACK else pure pdTRUE) s := by
  by_cases hn : set ≠ nullptr
  · rw [if_pos hn]
    refine ⟨fun a s' hr => ?_, (neverLeavesBy_nestedSend (by decide) (by decide) fuel hn b).map _ s⟩
    rw [run_map] at hr
    cases hx : EStateM.run (xQueueGenericSendFuel fuel set (some b) queueSEND_TO_BACK) s with
    | ok a' s₁ =>
      rw [hx] at hr
      cases hr
      exact pdTRUE_ne_pdFALSE
    | error e s₁ => rw [hx] at hr; cases hr
  · rw [if_neg hn]
    exact neverFails_of_run rfl

/-- A send fails before it stores anything. -/
theorem atomicAt_xQueueGenericSend (queue : Handle) (item : Buffer) (pos : BaseType) (s : Lib) :
    AtomicAt (· = pdFALSE) .assertFailed (xQueueGenericSend queue item pos) s := by
  rcases run_xQueueGenericSendFuel_cases (s.freeSlots + 1) s queue item pos with
    ⟨x, -, hrun⟩ | ⟨-, hrun⟩ | ⟨q, l, -, -, -, -, hrun⟩
  · exact .of_reads (by rw [run_xQueueGenericSend_eq, hrun]; rfl)
  · exact .of_reads (by rw [run_xQueueGenericSend_eq, hrun]; rfl)
  · obtain ⟨hok, herr⟩ := neverFails_notify (s.freeSlots + 1)
      (s.write queue { q with queue := l }) q.queueSetContainer (handleBytes queue)
    rw [← run_xQueueGenericSend_eq, ← EStateM.run_pure, ← apply_ite (EStateM.run · _)] at hrun
    exact .of_never ⟨fun a s' hr => hok a s' (hrun.symm.trans hr),
      fun s' hr => herr s' (hrun.symm.trans hr)⟩

/-! ## Receives, takes and gives -/

/-- A receive that does not answer pdTRUE changes nothing. -/
theorem atomicAt_internalQueueReceive (queue : Handle) (buffer : Buffer) (s : Lib) :
    AtomicAt (fun r => r.1 ≠ pdTRUE) .assertFailed (internalQueueReceive queue buffer) s := by
  rcases run_internalQueueReceive_cases s queue buffer with
    ⟨x, hrun⟩ | hrun | ⟨q, m, rest, b, -, -, -, -, hrun⟩
  · exact .of_reads (by rw [hrun]; rfl)
  · exact .of_reads (by rw [hrun]; rfl)
  · refine .of_never ⟨fun a s' hr => ?_, fun s' hr => ?_⟩
    · cases hrun.symm.trans hr
      exact not_not_intro rfl
    · cases hrun.symm.trans hr

theorem atomicAt_internalQueueReceiveDummy (queue : Handle) (s : Lib) :
    AtomicAt (· ≠ pdTRUE) .assertFailed (internalQueueReceiveDummy queue) s := by
  refine .bind_reads (finalState_configASSERT _ s) fun _ _ => ?_
  exact (atomicAt_internalQueueReceive queue _ s).map (f := Prod.fst) fun _ => id

theorem atomicAt_xQueueReceive (queue : Handle) (buffer : Buffer) (s : Lib) :
    AtomicAt (fun r => r.1 ≠ pdTRUE) .assertFailed (xQueueReceive queue buffer) s :=
  .bind_reads (finalState_configASSERT _ s) fun _ _ =>
    .bind_reads (finalState_configASSERT _ s) fun _ _ =>
    atomicAt_internalQueueReceive queue buffer s

theorem atomicAt_xQueueSemaphoreTake (queue : Handle) (s : Lib) :
    AtomicAt (· ≠ pdTRUE) .assertFailed (xQueueSemaphoreTake queue) s :=
  .bind_reads (finalState_configASSERT _ s) fun _ _ => .bind_reads (finalState_deref _ s) fun _ _ =>
    .bind_reads (finalState_configASSERT _ s) fun _ _ => atomicAt_internalQueueReceiveDummy queue s

theorem atomicAt_xQueueGiveFromISR (queue : Handle) (s : Lib) :
    AtomicAt (· = pdFALSE) .assertFailed (xQueueGiveFromISR queue) s :=
  .bind_reads (finalState_configASSERT _ s) fun _ _ => .bind_reads (finalState_deref _ s) fun _ _ =>
    .bind_reads (finalState_configASSERT _ s) fun _ _ => atomicAt_xQueueGenericSend queue none _ s

/-- A recursive take counts only after it has the token. -/
theorem atomicAt_xQueueTakeMutexRecursive (mutex : Handle) (s : Lib) :
    AtomicAt (· = pdFALSE) .assertFailed (xQueueTakeMutexRecursive mutex) s := by
  refine .bind_reads (finalState_configASSERT _ s) fun _ _ => .bind_reads (finalState_deref _ s)
    fun q _ => .bind_reads (finalState_configASSERT _ s) fun _ _ =>
    .bind_reads (ensures_uxQueueMessagesWaiting (R := Eq) mutex s).symm fun count _ => ?_
  refine .ite (fun _ => ?_) fun _ => .of_never (neverFails_of_run rfl)
  refine (atomicAt_internalQueueReceiveDummy mutex s).bind fun rtn s₁ _ => ?_
  by_cases hrtn : rtn = pdTRUE
  · right
    rw [if_neg (not_not_intro hrtn)]
    cases hq : s₁.lookup mutex with
    | none => exact ⟨fun a s' hr => by simp [run_deref_none hq] at hr,
        fun s' hr => by simp [run_deref_none hq] at hr⟩
    | some m =>
      have hrun : EStateM.run (do
            let q ← deref mutex
            assign mutex { q with recursiveCallCount := q.recursiveCallCount + 1 }
            pure pdTRUE) s₁ = .ok pdTRUE (s₁.write mutex
              { m with recursiveCallCount := m.recursiveCallCount + 1 }) := by
        simp [hq]
      exact neverFails_of_run hrun
  · left
    rw [if_pos hrtn]
    exact ⟨hrtn, rfl⟩

/-- A give to a semaphore that has room. -/
theorem neverFails_xSemaphoreGive {s : Lib} {sema : Handle} {q : FakeQueue} (hn : sema ≠ nullptr)
    (hq : s.lookup sema = some q) (hi : q.itemSize = 0)
    (hroom : q.queue.length < q.queueLength.toNat) :
    NeverFails (· = pdFALSE) .assertFailed (xSemaphoreGive sema) s := by
  have hrun : EStateM.run (xSemaphoreGive sema) s = _ := (run_xQueueGenericSend_eq s sema none
    queueSEND_TO_BACK).trans (run_xQueueGenericSendFuel_room hn hq (itemFits_zero none hi) .back
      hroom (s.freeSlots + 1))
  obtain ⟨hok, herr⟩ := neverFails_notify (s.freeSlots + 1) (pushed s sema q .back none)
    q.queueSetContainer (handleBytes sema)
  rw [← EStateM.run_pure, ← apply_ite (EStateM.run · _)] at hrun
  exact ⟨fun a s' hr => hok a s' (hrun.symm.trans hr), fun s' hr => herr s' (hrun.symm.trans hr)⟩

/-- A recursive give counts down before it gives; in a sound memory the give then succeeds. -/
theorem atomicAt_xQueueGiveMutexRecursive {s : Lib} (hs : s.Sound) (mutex : Handle) :
    AtomicAt (· = pdFALSE) .assertFailed (xQueueGiveMutexRecursive mutex) s := by
  by_cases hn : mutex = nullptr
  · exact .of_reads (by simp [xQueueGiveMutexRecursive, hn])
  refine .bind_reads (finalState_configASSERT _ s) fun _ _ => .bind_reads (finalState_deref _ s)
    fun q hq => .bind_reads (finalState_configASSERT _ s) fun _ ht =>
    .bind_reads (ensures_uxQueueMessagesWaiting (R := Eq) mutex s).symm fun count hcount => ?_
  have hq : s.lookup mutex = some q := lookup_of_run_deref hq
  refine .ite (fun hzero => .of_never ?_) fun _ => .of_reads rfl
  have hempty : q.queue = [] := by
    rw [← (hs.wellFormed.queue mutex q hq).waiting_eq_zero_iff, ← hzero.1]
    have hrun := run_uxQueueMessagesWaiting hn hq
    exact (EStateM.Result.ok.inj (hrun.symm.trans hcount)).1
  have hrec : q.queueType = queueQUEUE_TYPE_RECURSIVE_MUTEX := by
    by_contra hne
    rw [run_configASSERT_of_not hne] at ht
    cases ht
  obtain ⟨hlen, hi⟩ := hs.recursive mutex q hq hrec
  set q' := { q with recursiveCallCount := q.recursiveCallCount - 1 } with hq'
  have hgive := neverFails_xSemaphoreGive (s := s.write mutex q') hn (Lib.lookup_write_self ..) hi
    (by rw [hq', hempty, hlen]; decide)
  by_cases hcalls : q'.recursiveCallCount = 0
  · simp only [NeverFails, EStateM.run_bind, run_assign, if_pos hcalls]
    exact hgive
  · simp only [if_neg hcalls]
    exact neverFails_of_run rfl

/-! ## Changes of membership -/

theorem atomicAt_xQueueAddToSet (item set : Handle) (s : Lib) :
    AtomicAt (· = pdFALSE) .assertFailed (xQueueAddToSet item set) s := by
  rcases run_xQueueAddToSet_cases s item set with
    hrun | ⟨-, -, hrun⟩ | hrun | ⟨q, -, -, -, -, -, hrun⟩
  · exact .of_reads (by rw [hrun]; rfl)
  · exact .of_reads (by rw [hrun]; rfl)
  · exact .of_reads (by rw [hrun]; rfl)
  · exact .of_never (neverFails_of_run hrun)

theorem atomicAt_xQueueRemoveFromSet (item set : Handle) (s : Lib) :
    AtomicAt (· = pdFALSE) .assertFailed (xQueueRemoveFromSet item set) s := by
  rcases run_xQueueRemoveFromSet_cases s item set with
    hrun | ⟨-, -, hrun⟩ | hrun | ⟨q, -, -, -, -, -, hrun⟩
  · exact .of_reads (by rw [hrun]; rfl)
  · exact .of_reads (by rw [hrun]; rfl)
  · exact .of_reads (by rw [hrun]; rfl)
  · exact .of_never (neverFails_of_run hrun)

/-! ## Every call -/

/-- The calls whose failures should leave no trace. -/
def Call.ShouldBeAtomic : Call → Prop
  | .send .. | .receive .. | .peek .. | .addToSet .. | .removeFromSet .. | .selectFromSet _
  | .semaphoreTake _ | .giveFromISR _ | .createMutex .. | .takeMutexRecursive _
  | .giveMutexRecursive _ | .delete _ => True
  | _ => False

/-- The call answers pdFALSE, which is also pdFAIL and errQUEUE_FULL, or null, or trips an
assertion. -/
def Reply.Failure : Reply → Prop
  | .returned (.code b) | .returned (.data b _) => b = pdFALSE
  | .returned (.handle h) => h = nullptr
  | .left e => e = .assertFailed
  | _ => False

/-- Every queue that exists, and the list of tracked mutexes, are as before. -/
structure Lib.Untouched (s s' : Lib) : Prop where
  lookup : ∀ h q, s.lookup h = some q → s'.lookup h = some q
  s_mutexes : s'.s_mutexes = s.s_mutexes

/-- The call selects from a queue whose first message holds no handle: it leaves the variable that
it is received into null. -/
def Lib.SelectsNoHandle (s : Lib) : Call → Prop
  | .selectFromSet set => ∃ q m rest, s.lookup set = some q ∧ q.queue = m :: rest ∧
    handleOfBytes (filled (handleBytes nullptr) m) = nullptr
  | _ => False

theorem Lib.Untouched.refl (s : Lib) : s.Untouched s := ⟨fun _ _ hq => hq, rfl⟩

/-- A failed step of a call whose function is atomic. -/
theorem untouched_of_atomicAt {α : Type} {B : α → Prop} {x : Api α} {s s' : Lib} {f : α → Value}
    {c : Call} {r : Reply} (hx : AtomicAt B .assertFailed x s) (hc : c.exec = f <$> x)
    (hB : ∀ a, (Reply.returned (f a)).Failure → B a) (h : s.Step c r s') (hf : r.Failure) :
    s.Untouched s' := by
  obtain ⟨hok, herr⟩ := hx.map (f := f) (B := fun v => (Reply.returned v).Failure) hB
  cases r with
  | returned v =>
    rw [Lib.step_returned_iff, hc] at h
    rw [hok v s' h hf]
    exact .refl s
  | left e =>
    obtain rfl : e = .assertFailed := hf
    rw [Lib.step_left_iff, hc] at h
    rw [herr s' h]
    exact .refl s

theorem ne_pdTRUE_of_eq {b : BaseType} (h : b = pdFALSE) : b ≠ pdTRUE := h ▸ pdTRUE_ne_pdFALSE.symm

/-- A failed select took a message if there was one, which then held no handle. -/
theorem selectFromSet_untouched_iff {s s' : Lib} (hw : s.WellFormed) {set : Handle} {r : Reply}
    (h : s.Step (.selectFromSet set) r s') (hf : r.Failure) :
    s.Untouched s' ↔ ¬ s.SelectsNoHandle (.selectFromSet set) := by
  have hexec : Call.exec (.selectFromSet set) = .handle <$> xQueueSelectFromSet set := rfl
  cases hq : s.lookup set with
  | none =>
    have hnot : ¬ s.SelectsNoHandle (.selectFromSet set) := by
      rintro ⟨q, _, _, hq', -⟩
      rw [hq] at hq'
      cases hq'
    refine iff_of_true ?_ hnot
    exact untouched_of_atomicAt (B := fun _ => True)
      (.of_reads (finalState_xQueueSelectFromSet_of_none hq)) hexec (fun _ _ => trivial) h hf
  | some q =>
    cases hm : q.queue with
    | nil =>
      have hnot : ¬ s.SelectsNoHandle (.selectFromSet set) := by
        rintro ⟨q', _, _, hq', hm', -⟩
        obtain rfl := Option.some.inj (hq.symm.trans hq')
        rw [hm] at hm'
        cases hm'
      refine iff_of_true ?_ hnot
      have hrun := run_xQueueSelectFromSet_nil (hw.ne_nullptr hq) hq hm
      exact untouched_of_atomicAt (B := fun _ => True) (.of_reads (by rw [hrun]; rfl)) hexec
        (fun _ _ => trivial) h hf
    | cons m rest =>
      by_cases hb : q.itemSize.toNat ≤ sizeofHandle
      · have hrun := run_xQueueSelectFromSet_filled hw hq hb hm
        obtain ⟨rfl, rfl⟩ := h.deterministic (Lib.step_of_ok hexec hrun)
        refine iff_of_false (fun hun => ?_) (not_not_intro ⟨q, m, rest, hq, hm, hf⟩)
        -- the queue has lost its first message
        have hsame := (Lib.lookup_write_self s set _).symm.trans (hun.lookup set q hq)
        have hrest : rest = m :: rest := (congrArg FakeQueue.queue (Option.some.inj hsame)).trans hm
        simp at hrest
      · obtain ⟨rfl, -⟩ :=
          h.deterministic (Lib.step_of_error hexec (run_xQueueSelectFromSet_long hw hq hb hm))
        cases hf

/-- A failed creation of a mutex leaves a queue behind that did not exist. -/
theorem createMutex_untouched {s s' : Lib} {addr : Handle} {t : UInt8} {r : Reply}
    (h : s.Step (.createMutex addr t) r s') (hf : r.Failure) : s.Untouched s' := by
  by_cases hfresh : s.Fresh addr
  · by_cases ht : IsMutexType t
    · obtain ⟨rfl, -⟩ := h.deterministic (Lib.step_of_ok rfl (run_xQueueCreateMutex hfresh ht))
      exact absurd hf hfresh.1
    · obtain ⟨-, rfl⟩ :=
        h.deterministic (Lib.step_of_error rfl (run_xQueueCreateMutex_other hfresh ht))
      refine ⟨fun x q hq => ?_, rfl⟩
      rw [Lib.lookup_write_of_ne, hq]
      rintro rfl
      rw [hfresh.2] at hq
      cases hq
  · obtain ⟨rfl, -⟩ :=
      h.deterministic (Lib.step_of_error rfl (run_xQueueCreateMutex_not_fresh hfresh t))
    cases hf

/-- Only a null handle makes a deletion fail. -/
theorem delete_untouched {s s' : Lib} {queue : Handle} {r : Reply}
    (h : s.Step (.delete queue) r s') (hf : r.Failure) : s.Untouched s' := by
  by_cases hn : queue = nullptr
  · refine untouched_of_atomicAt (B := fun _ => True) (.of_reads ?_) rfl (fun _ _ => trivial) h hf
    simp [vQueueDelete, hn]
  cases hq : s.lookup queue with
  | none =>
    obtain ⟨rfl, -⟩ := h.deterministic (Lib.step_of_error rfl (run_vQueueDelete_of_none hn hq))
    cases hf
  | some q =>
    obtain ⟨rfl, -⟩ := h.deterministic
      (Lib.step_of_ok (f := fun _ => .unit) rfl (run_vQueueDelete hn hq))
    exact absurd hf id

/-- **Failed calls are atomic, with one exception.** In every reachable memory, a call that fails
leaves every existing queue and the tracked mutexes as they were, unless it selects from a queue
whose first message holds no handle. -/
theorem failed_calls_atomic_iff {s s' : Lib} (hs : s.Reachable) {c : Call} {r : Reply}
    (hc : c.ShouldBeAtomic) (h : s.Step c r s') (hf : r.Failure) :
    s.Untouched s' ↔ ¬ s.SelectsNoHandle c := by
  have hsound := hs.sound
  cases c with
  | selectFromSet set => exact selectFromSet_untouched_iff hsound.wellFormed h hf
  | send queue item pos =>
    refine iff_of_true ?_ not_false
    exact untouched_of_atomicAt (atomicAt_xQueueGenericSend queue item pos s) rfl (fun _ => id) h hf
  | receive queue buffer =>
    refine iff_of_true ?_ not_false
    exact untouched_of_atomicAt (f := fun r : BaseType × Buffer => .data r.1 r.2)
      (atomicAt_xQueueReceive queue buffer s) rfl (fun _ => ne_pdTRUE_of_eq) h hf
  | peek queue buffer =>
    refine iff_of_true ?_ not_false
    have hreads : finalState (EStateM.run (xQueuePeek queue buffer) s) = s :=
      (ensures_xQueuePeek (R := Eq) queue buffer s).symm
    exact untouched_of_atomicAt (B := fun r => r.1 = pdFALSE) (.of_reads hreads) rfl
      (fun _ => id) h hf
  | addToSet item set =>
    refine iff_of_true ?_ not_false
    exact untouched_of_atomicAt (atomicAt_xQueueAddToSet item set s) rfl (fun _ => id) h hf
  | removeFromSet item set =>
    refine iff_of_true ?_ not_false
    exact untouched_of_atomicAt (atomicAt_xQueueRemoveFromSet item set s) rfl (fun _ => id) h hf
  | semaphoreTake queue =>
    refine iff_of_true ?_ not_false
    exact untouched_of_atomicAt (f := .code) (atomicAt_xQueueSemaphoreTake queue s) rfl
      (fun _ => ne_pdTRUE_of_eq) h hf
  | giveFromISR queue =>
    refine iff_of_true ?_ not_false
    exact untouched_of_atomicAt (atomicAt_xQueueGiveFromISR queue s) rfl (fun _ => id) h hf
  | takeMutexRecursive mutex =>
    refine iff_of_true ?_ not_false
    exact untouched_of_atomicAt (atomicAt_xQueueTakeMutexRecursive mutex s) rfl (fun _ => id) h hf
  | giveMutexRecursive mutex =>
    refine iff_of_true ?_ not_false
    exact untouched_of_atomicAt (atomicAt_xQueueGiveMutexRecursive hsound mutex) rfl
      (fun _ => id) h hf
  | createMutex addr t => exact iff_of_true (createMutex_untouched h hf) not_false
  | delete queue => exact iff_of_true (delete_untouched h hf) not_false
  | _ => exact absurd hc id

/-- A receive from an empty queue. -/
theorem failed_calls_atomic_receive : queueAndSemaphore.Step (.receive 1 (some [0]))
      (.returned (.data pdFALSE (some [0]))) queueAndSemaphore ∧
    queueAndSemaphore.Untouched queueAndSemaphore := by
  have hstep : queueAndSemaphore.Step (.receive 1 (some [0]))
      (.returned (.data pdFALSE (some [0]))) queueAndSemaphore := by decide +kernel
  refine ⟨hstep, (failed_calls_atomic_iff queueAndSemaphore_legal.reachable (by trivial) hstep
    rfl).mpr ?_⟩
  exact not_false

/-- A select from a semaphore takes its token and answers null. -/
theorem failed_select_not_atomic : ∃ s s' : Lib, s.Reachable ∧
    s.Step (.selectFromSet 2) (.returned (.handle nullptr)) s' ∧ ¬ s.Untouched s' := by
  let given : Lib := queueAndSemaphore.write 2 { freshQueue 1 0 0 with queue := [[]] }
  have hgive : queueAndSemaphore.Step (.send 2 none queueSEND_TO_BACK) (.returned (.code pdTRUE))
      given := by decide +kernel
  have hselect : given.Step (.selectFromSet 2) (.returned (.handle nullptr))
      queueAndSemaphore := by decide +kernel
  refine ⟨given, _, queueAndSemaphore_legal.reachable.step hgive trivial (by decide), hselect,
    fun hun => ?_⟩
  have hlost := hun.lookup 2 _ (Lib.lookup_write_self ..)
  have hafter : queueAndSemaphore.lookup 2 = some (freshQueue 1 0 0) := Lib.lookup_write_self ..
  have := Option.some.inj (hafter.symm.trans hlost)
  exact absurd (congrArg FakeQueue.queue this) (by decide)

end FakeFreeRtos
