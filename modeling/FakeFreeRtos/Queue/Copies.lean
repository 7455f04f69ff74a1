import FakeFreeRtos.Queue.Budget
import FakeFreeRtos.Queue.Frame
import FakeFreeRtos.Queue.Receive

/-!
# Where messages are copied

The calls for messages copy `itemSize` bytes between the caller's buffers, the stored messages and
local variables (`Lib.Copies` lists the copies that a call makes). In a program that keeps the
discipline on sets and passes buffers of `itemSize` bytes, every copy stays inside (`Copy.Inside`),
with one exception: `xQueueSemaphoreTake` receives into a local of eight bytes, and accepts queues
with longer messages, which the gives reject. `copiesInside_iff` says that this is the only one.

The list is tied to the functions in both directions: a copy that does not fit makes the call
undefined (`Lib.Copies.undefined`), and a call on a live queue is undefined only by such a copy or
by an overwrite of an empty queue (`Lib.Step.exists_copy`).
-/

namespace FakeFreeRtos

open Foundations

/-! ## Copies -/

/-- What a copy reads or writes. -/
inductive Place
  /-- What the caller passes. -/
  | user (buffer : Buffer)
  /-- A stored message. -/
  | stored (msg : Bytes)
  /-- The vector of a send, resized to `n` bytes. -/
  | vector (n : ℕ)
  /-- The local `uint64_t dummy` of a take. -/
  | dummy
  /-- A variable that holds a handle. -/
  | handle (h : Handle)

/-- What is there. -/
def Place.buffer : Place → Buffer
  | .user buffer => buffer
  | .stored msg => some msg
  | .vector n => some (List.replicate n 0)
  | .dummy => some (List.replicate 8 0)
  | .handle h => some (handleBytes h)

/-- The number of bytes there. -/
def Place.bytes (p : Place) : ℕ := (p.buffer.getD []).length

/-- One `memcpy`. -/
structure Copy where
  dest : Place
  source : Place
  size : ℕ

/-- The bytes that are copied exist in the source and fit in the destination. -/
def Copy.Fits (k : Copy) : Prop := k.size ≤ k.dest.bytes ∧ k.size ≤ k.source.bytes

/-- Messages and handle variables are copied whole. -/
def Place.Whole (n : ℕ) : Place → Prop
  | .user _ | .dummy => True
  | .stored msg => msg.length = n
  | .vector m => m = n
  | .handle _ => sizeofHandle = n

/-- The copy stays inside its buffers. -/
structure Copy.Inside (k : Copy) : Prop where
  fits : k.Fits
  dest : k.dest.Whole k.size
  source : k.source.Whole k.size

/-- `m` is the first message of the live queue `q`. -/
structure Lib.Front (s : Lib) (queue : Handle) (q : FakeQueue) (m : Bytes) : Prop where
  ne_nullptr : queue ≠ nullptr
  live : s.lookup queue = some q
  head : ∃ rest, q.queue = m :: rest

/-- A send passes the assertions and finds the queue not full. -/
structure FakeQueue.Accepts (q : FakeQueue) (item : Buffer) (pos : BaseType) : Prop where
  item : ¬ (item = none ∧ q.itemSize ≠ 0)
  overwrite : ¬ (pos = queueOVERWRITE ∧ q.queueLength ≠ 1)
  room : ¬ (pos ≠ queueOVERWRITE ∧ q.queue.length ≥ q.queueLength.toNat)

/-- The copies of a send: the message into a vector, and then those of the notification, whose item
is the handle variable. -/
inductive Lib.SendCopies : Lib → Handle → Place → BaseType → Copy → Prop
  | message {s : Lib} {queue : Handle} {p : Place} {pos : BaseType} {q : FakeQueue}
      (hn : queue ≠ nullptr) (hq : s.lookup queue = some q) (ha : q.Accepts p.buffer pos) :
      SendCopies s queue p pos ⟨.vector q.itemSize.toNat, p, q.itemSize.toNat⟩
  | notification {s : Lib} {queue : Handle} {p : Place} {pos : BaseType} {q : FakeQueue}
      {l : List Bytes} {k : Copy}
      (hn : queue ≠ nullptr) (hq : s.lookup queue = some q) (ha : q.Accepts p.buffer pos)
      (hi : ItemFits p.buffer q.itemSize) (hst : Stores q (message p.buffer q.itemSize) pos l)
      (hc : q.queueSetContainer ≠ nullptr)
      (hk : SendCopies (s.write queue { q with queue := l }) q.queueSetContainer (.handle queue)
        queueSEND_TO_BACK k) :
      SendCopies s queue p pos k

/-- The copies that a call makes. -/
inductive Lib.Copies (s : Lib) : Call → Copy → Prop
  | receive {queue : Handle} {buffer : Buffer} {q : FakeQueue} {m : Bytes} (hb : buffer ≠ none)
      (hf : s.Front queue q m) :
      Copies s (.receive queue buffer) ⟨.user buffer, .stored m, q.itemSize.toNat⟩
  | peek {queue : Handle} {buffer : Buffer} {q : FakeQueue} {m : Bytes} (hf : s.Front queue q m) :
      Copies s (.peek queue buffer) ⟨.user buffer, .stored m, q.itemSize.toNat⟩
  | select {set : Handle} {q : FakeQueue} {m : Bytes} (hf : s.Front set q m) :
      Copies s (.selectFromSet set) ⟨.handle nullptr, .stored m, q.itemSize.toNat⟩
  | take {queue : Handle} {q : FakeQueue} {m : Bytes} (hf : s.Front queue q m)
      (ht : q.queueType ≠ queueQUEUE_TYPE_RECURSIVE_MUTEX) :
      Copies s (.semaphoreTake queue) ⟨.dummy, .stored m, q.itemSize.toNat⟩
  | takeRecursive {mutex : Handle} {q : FakeQueue} {m : Bytes} (hf : s.Front mutex q m)
      (ht : q.queueType = queueQUEUE_TYPE_RECURSIVE_MUTEX) (hone : UInt8.ofNat q.queue.length = 1) :
      Copies s (.takeMutexRecursive mutex) ⟨.dummy, .stored m, q.itemSize.toNat⟩
  | send {queue : Handle} {item : Buffer} {pos : BaseType} {k : Copy}
      (hk : s.SendCopies queue (.user item) pos k) : Copies s (.send queue item pos) k

/-! ## The copies of the functions -/

/-- A copy is made when it fits, and undefined otherwise. -/
theorem Copy.run_cases (k : Copy) (s : Lib) :
    (k.Fits ∧ ∃ b, EStateM.run (memcpy k.dest.buffer k.source.buffer k.size) s = .ok b s) ∨
    (¬ k.Fits ∧
      EStateM.run (memcpy k.dest.buffer k.source.buffer k.size) s = .error .undefined s) := by
  obtain ⟨dest, source, n⟩ := k
  simp only [Copy.Fits, Place.bytes]
  by_cases h0 : n = 0
  · subst h0
    exact .inl ⟨⟨Nat.zero_le _, Nat.zero_le _⟩, _, run_memcpy_zero ..⟩
  cases dest.buffer with
  | none => exact .inr ⟨fun h => h0 (Nat.le_zero.mp h.1), by simp [memcpy, h0]⟩
  | some d =>
    cases source.buffer with
    | none => exact .inr ⟨fun h => h0 (Nat.le_zero.mp h.2), by simp [memcpy, h0]⟩
    | some src =>
      by_cases h : n ≤ d.length ∧ n ≤ src.length
      · exact .inl ⟨h, _, run_memcpy h.1 h.2 s⟩
      · exact .inr ⟨h, by simp [memcpy, h0, h]⟩

theorem Copy.run_of_not_fits {k : Copy} (h : ¬ k.Fits) (s : Lib) :
    EStateM.run (memcpy k.dest.buffer k.source.buffer k.size) s = .error .undefined s :=
  ((k.run_cases s).resolve_left fun hk => h hk.1).2

theorem Copy.exists_run {k : Copy} (h : k.Fits) (s : Lib) :
    ∃ b, EStateM.run (memcpy k.dest.buffer k.source.buffer k.size) s = .ok b s :=
  ((k.run_cases s).resolve_right fun hk => hk.1 h).2

section Receive

variable {s s' : Lib} {queue : Handle} {q : FakeQueue} {m : Bytes} {p : Place}

theorem Lib.Front.run_of_not_fits (hf : s.Front queue q m)
    (hk : ¬ Copy.Fits ⟨p, .stored m, q.itemSize.toNat⟩) :
    EStateM.run (internalQueueReceive queue p.buffer) s = .error .undefined s := by
  obtain ⟨hn, hq, rest, hm⟩ := hf
  have hrun : EStateM.run (memcpy p.buffer (some m) q.itemSize.toNat) s = .error .undefined s :=
    Copy.run_of_not_fits hk s
  rw [internalQueueReceive, EStateM.run_bind, run_configASSERT_of hn]
  simp only [EStateM.run_bind, run_deref hq, hm, hrun]

/-- A receive from a live queue is undefined only by its copy. -/
theorem exists_front_of_undefined (hn : queue ≠ nullptr) (hq : s.lookup queue = some q)
    (h : EStateM.run (internalQueueReceive queue p.buffer) s = .error .undefined s') :
    ∃ m, s.Front queue q m ∧ ¬ Copy.Fits ⟨p, .stored m, q.itemSize.toNat⟩ := by
  cases hm : q.queue with
  | nil =>
    rw [run_internalQueueReceive_nil hn hq hm] at h
    cases h
  | cons m rest =>
    refine ⟨m, ⟨hn, hq, rest, hm⟩, fun hk => ?_⟩
    obtain ⟨b, hrun⟩ : ∃ b, EStateM.run (memcpy p.buffer (some m) q.itemSize.toNat) s = .ok b s :=
      Copy.exists_run hk s
    rw [internalQueueReceive, EStateM.run_bind, run_configASSERT_of hn] at h
    simp only [EStateM.run_bind, run_deref hq, hm, hrun, run_assign, EStateM.run_pure] at h
    cases h

/-- A receive into the local of a take. -/
theorem receive_of_dummy_undefined (hn : queue ≠ nullptr)
    (h : EStateM.run (internalQueueReceiveDummy queue) s = .error .undefined s') :
    EStateM.run (internalQueueReceive queue Place.dummy.buffer) s = .error .undefined s' := by
  rw [internalQueueReceiveDummy, EStateM.run_bind, run_configASSERT_of hn] at h
  rcases run_bind_eq_error.mp h with hrun | ⟨a, s₁, -, hpure⟩
  · exact hrun
  · cases hpure

/-- A recursive take of a mutex whose token is there is undefined only by the receive. -/
theorem dummy_of_recursive_undefined (hn : queue ≠ nullptr) (hq : s.lookup queue = some q)
    (ht : q.queueType = queueQUEUE_TYPE_RECURSIVE_MUTEX) (hone : UInt8.ofNat q.queue.length = 1)
    (h : EStateM.run (xQueueTakeMutexRecursive queue) s = .error .undefined s') :
    EStateM.run (internalQueueReceiveDummy queue) s = .error .undefined s' := by
  rw [xQueueTakeMutexRecursive, EStateM.run_bind, run_configASSERT_of hn] at h
  simp only [EStateM.run_bind, run_deref hq] at h
  rw [run_configASSERT_of ht] at h
  simp only [uxSemaphoreGetCount, run_uxQueueMessagesWaiting hn hq, hone, ↓reduceIte] at h
  rcases run_bind_eq_error.mp h with hrun | ⟨rtn, s₁, hok, hrest⟩
  · exact hrun
  · -- the mutex is still live after the receive
    have heffect := (ensures_internalQueueReceiveDummy queue).of_run_eq_ok hok
    obtain ⟨l, hq₁⟩ := heffect.1.exists_lookup hq
    by_cases hr : rtn = pdTRUE
    · simp [hr, hq₁] at hrest
    · simp [hr] at hrest

end Receive

section Place

variable {q : FakeQueue} {msg : Bytes} {pos : BaseType} {l : List Bytes} {s s' : Lib}

theorem Stores.run_placeMessage (h : Stores q msg pos l) (s : Lib) :
    EStateM.run (placeMessage q.queue msg pos) s = .ok l s := by
  rcases h with ⟨e, rfl, -, rfl⟩ | ⟨rfl, -, m, rest, hm, rfl⟩
  · exact FakeFreeRtos.run_placeMessage ..
  · rw [hm]
    rfl

/-- Placing a message is undefined only in an overwrite of the empty deque. -/
theorem overwrites_of_undefined
    (h : EStateM.run (placeMessage q.queue msg pos) s = .error .undefined s') :
    pos = queueOVERWRITE ∧ q.queue = [] := by
  unfold placeMessage at h
  split_ifs at h with hback hfront hov
  · cases h
  · cases h
  · refine ⟨hov, ?_⟩
    cases hm : q.queue with
    | nil => rfl
    | cons m rest =>
      rw [hm] at h
      cases h
  · rw [EStateM.run_bind, run_configASSERT_of_not not_false] at h
    cases h

end Place

section Send

variable {s s' : Lib} {queue : Handle} {q : FakeQueue} {p : Place} {pos : BaseType} {k : Copy}

/-- A copy of a send that does not fit is come to, unless the budget is spent before. -/
theorem Lib.SendCopies.exists_run (h : s.SendCopies queue p pos k) (hk : ¬ k.Fits) (fuel : ℕ) :
    ∃ x s', (x = .undefined ∨ x = .outOfFuel) ∧
      EStateM.run (xQueueGenericSendFuel fuel queue p.buffer pos) s = .error x s' := by
  induction h generalizing fuel with
  | message hn hq ha =>
    cases fuel with
    | zero => exact ⟨_, _, .inr rfl, rfl⟩
    | succ fuel =>
      exact ⟨_, _, .inl rfl, run_xQueueGenericSendFuel_of_memcpy_error hn hq ha.item ha.overwrite
        ha.room (Copy.run_of_not_fits hk _)⟩
  | notification hn hq ha hi hst hc _ ih =>
    cases fuel with
    | zero => exact ⟨_, _, .inr rfl, rfl⟩
    | succ fuel =>
      obtain ⟨x, s', hx, hrun⟩ := ih hk fuel
      have hnested : EStateM.run (xQueueGenericSendFuel fuel _ (some (handleBytes _))
          queueSEND_TO_BACK) _ = .error x s' := hrun
      refine ⟨x, s', hx, ?_⟩
      rw [run_xQueueGenericSendFuel_of_placed hn hq ha.item ha.overwrite ha.room hi
        (hst.run_placeMessage _), if_pos hc, run_map, hnested]

/-- A send to a live queue is undefined only by a copy or by an overwrite of the empty queue. -/
theorem exists_sendCopy {fuel : ℕ} (hs : s.SetsLive) (hn : queue ≠ nullptr)
    (hq : s.lookup queue = some q)
    (h : EStateM.run (xQueueGenericSendFuel fuel queue p.buffer pos) s = .error .undefined s') :
    (∃ k, s.SendCopies queue p pos k ∧ ¬ k.Fits) ∨ (pos = queueOVERWRITE ∧ q.queue = []) := by
  induction fuel generalizing s queue q p pos with
  | zero => cases h
  | succ fuel ih =>
    by_cases ha : q.Accepts p.buffer pos
    · rcases Copy.run_cases ⟨.vector q.itemSize.toNat, p, q.itemSize.toNat⟩ s with
        ⟨⟨-, hi⟩, -⟩ | ⟨hk, -⟩
      · rcases run_placeMessage_cases (message p.buffer q.itemSize) ha.overwrite ha.room s with
          ⟨l, hst, hplace⟩ | hplace | ⟨-, hplace⟩
        · rw [run_xQueueGenericSendFuel_of_placed hn hq ha.item ha.overwrite ha.room hi hplace] at h
          by_cases hc : q.queueSetContainer = nullptr
          · rw [if_neg (not_not_intro hc)] at h
            cases h
          · -- the notification: a send to the back of a live set
            rw [if_pos hc, run_map] at h
            obtain ⟨S, hS, -⟩ := hs queue q hq hc
            have hshape := Lib.SameShape.write hq l
            obtain ⟨lS, hS'⟩ := hshape.exists_lookup hS
            cases hr : EStateM.run (xQueueGenericSendFuel fuel q.queueSetContainer
                (some (handleBytes queue)) queueSEND_TO_BACK)
                (s.write queue { q with queue := l }) with
            | ok b s₁ =>
              rw [hr] at h
              cases h
            | error x s₁ =>
              rw [hr] at h
              cases h
              obtain ⟨k, hk, hfits⟩ := (ih (p := .handle queue) (hshape.setsLive hs) hc hS'
                hr).resolve_right fun hov => absurd hov.1 (by decide)
              exact .inl ⟨k, .notification hn hq ha hi hst hc hk, hfits⟩
        · exact .inr (overwrites_of_undefined hplace)
        · rw [run_xQueueGenericSendFuel_of_place_error hn hq ha.item ha.overwrite ha.room hi
            hplace] at h
          cases h
      · exact .inl ⟨_, .message hn hq ha, hk⟩
    · -- an assertion trips or the queue is full
      exfalso
      by_cases hnull : p.buffer = none ∧ q.itemSize ≠ 0
      · simp [xQueueGenericSendFuel, hn, hq, hnull] at h
      by_cases hover : pos = queueOVERWRITE ∧ q.queueLength ≠ 1
      · simp [xQueueGenericSendFuel, hn, hq, hnull, hover] at h
      by_cases hfull : pos ≠ queueOVERWRITE ∧ q.queue.length ≥ q.queueLength.toNat
      · simp [xQueueGenericSendFuel, hn, hq, hnull, hfull] at h
      exact ha ⟨hnull, hover, hfull⟩

end Send

/-! ## The copies of the calls -/

/-- The calls whose copies are listed. -/
def Call.CopiesMessages : Call → Prop
  | .receive .. | .peek .. | .selectFromSet _ | .semaphoreTake _ | .takeMutexRecursive _
  | .send .. => True
  | _ => False

section Calls

variable {s s' : Lib} {c : Call} {k : Copy}

/-- **A copy that does not fit makes the call undefined.** -/
theorem Lib.Copies.undefined (h : s.Copies c k) (hk : ¬ k.Fits) :
    ∃ s', s.Step c (.left .undefined) s' := by
  cases h with
  | @receive queue buffer q m hb hf =>
    refine ⟨s, Lib.step_of_error (c := .receive queue buffer) rfl ?_⟩
    have hrun : EStateM.run (internalQueueReceive queue buffer) s = .error .undefined s :=
      hf.run_of_not_fits hk
    simp only [xQueueReceive, EStateM.run_bind, run_configASSERT_of hf.ne_nullptr,
      run_configASSERT_of hb, hrun]
  | @peek queue buffer q m hf =>
    refine ⟨s, Lib.step_of_error (c := .peek queue buffer) rfl ?_⟩
    obtain ⟨hn, hq, rest, hm⟩ := hf
    have hrun : EStateM.run (memcpy buffer (some m) q.itemSize.toNat) s = .error .undefined s :=
      Copy.run_of_not_fits hk s
    simp only [xQueuePeek, EStateM.run_bind, run_configASSERT_of hn, run_deref hq, hm, hrun]
  | @select set q m hf =>
    refine ⟨s, Lib.step_of_error (c := .selectFromSet set) rfl ?_⟩
    have hrun : EStateM.run (internalQueueReceive set (some (handleBytes nullptr))) s =
      .error .undefined s := hf.run_of_not_fits (p := .handle nullptr) hk
    simp only [xQueueSelectFromSet, xQueueReceive, EStateM.run_bind,
      run_configASSERT_of hf.ne_nullptr, run_configASSERT_of (Option.some_ne_none _), hrun]
  | @take queue q m hf ht =>
    refine ⟨s, Lib.step_of_error (c := .semaphoreTake queue) rfl ?_⟩
    have hrun : EStateM.run (internalQueueReceive queue (some (List.replicate 8 0))) s =
      .error .undefined s := hf.run_of_not_fits (p := .dummy) hk
    simp only [xQueueSemaphoreTake, internalQueueReceiveDummy, EStateM.run_bind,
      run_configASSERT_of hf.ne_nullptr, run_deref hf.live, run_configASSERT_of ht, hrun]
  | @takeRecursive mutex q m hf ht hone =>
    refine ⟨s, Lib.step_of_error (c := .takeMutexRecursive mutex) rfl ?_⟩
    have hrun : EStateM.run (internalQueueReceive mutex (some (List.replicate 8 0))) s =
      .error .undefined s := hf.run_of_not_fits (p := .dummy) hk
    simp only [xQueueTakeMutexRecursive, uxSemaphoreGetCount, internalQueueReceiveDummy,
      EStateM.run_bind, run_configASSERT_of hf.ne_nullptr, run_deref hf.live,
      run_configASSERT_of ht, run_uxQueueMessagesWaiting hf.ne_nullptr hf.live, hone, ↓reduceIte,
      hrun]
  | @send queue item pos k hsend =>
    obtain ⟨x, s', hx, hrun⟩ := hsend.exists_run hk (s.freeSlots + 1 + 1)
    rw [Place.buffer, ← run_xQueueGenericSend_eq] at hrun
    obtain rfl : x = .undefined := hx.resolve_right fun he =>
      never_xQueueGenericSend queue item pos s s' (he ▸ hrun)
    exact ⟨s', Lib.step_of_error (c := .send queue item pos) rfl hrun⟩

/-! A call on a live queue is undefined only by a copy that does not fit: one lemma for each
function. -/

section Undefined

variable {queue : Handle} {q : FakeQueue} (hn : queue ≠ nullptr) (hq : s.lookup queue = some q)

include hn hq

theorem exists_copy_receive {buffer : Buffer}
    (h : EStateM.run (xQueueReceive queue buffer) s = .error .undefined s') :
    ∃ k, s.Copies (.receive queue buffer) k ∧ ¬ k.Fits := by
  by_cases hb : buffer = none
  · simp [xQueueReceive, hn, hb] at h
  simp only [xQueueReceive, EStateM.run_bind, run_configASSERT_of hn, run_configASSERT_of hb] at h
  obtain ⟨m, hf, hk⟩ := exists_front_of_undefined (p := .user buffer) hn hq h
  exact ⟨_, .receive hb hf, hk⟩

theorem exists_copy_peek {buffer : Buffer}
    (h : EStateM.run (xQueuePeek queue buffer) s = .error .undefined s') :
    ∃ k, s.Copies (.peek queue buffer) k ∧ ¬ k.Fits := by
  cases hm : q.queue with
  | nil =>
    rw [run_xQueuePeek_nil hn hq hm] at h
    cases h
  | cons m rest =>
    refine ⟨_, .peek ⟨hn, hq, rest, hm⟩, fun hk => ?_⟩
    obtain ⟨b, hcpy⟩ : ∃ b, EStateM.run (memcpy buffer (some m) q.itemSize.toNat) s = .ok b s :=
      Copy.exists_run hk s
    simp [xQueuePeek, hn, hq, hm, hcpy] at h

theorem exists_copy_select
    (h : EStateM.run (xQueueSelectFromSet queue) s = .error .undefined s') :
    ∃ k, s.Copies (.selectFromSet queue) k ∧ ¬ k.Fits := by
  rcases run_bind_eq_error.mp h with hrecv | ⟨r, s₁, -, hpure⟩
  · rw [run_xQueueReceive_eq hn] at hrecv
    obtain ⟨m, hf, hk⟩ := exists_front_of_undefined (p := .handle nullptr) hn hq hrecv
    exact ⟨_, .select hf, hk⟩
  · by_cases hr : r.1 = pdTRUE <;> simp [hr] at hpure

theorem exists_copy_take (h : EStateM.run (xQueueSemaphoreTake queue) s = .error .undefined s') :
    ∃ k, s.Copies (.semaphoreTake queue) k ∧ ¬ k.Fits := by
  by_cases ht : q.queueType = queueQUEUE_TYPE_RECURSIVE_MUTEX
  · simp [xQueueSemaphoreTake, hn, hq, ht] at h
  have hdummy : EStateM.run (internalQueueReceiveDummy queue) s = .error .undefined s' := by
    simpa [xQueueSemaphoreTake, hn, hq, ht] using h
  obtain ⟨m, hf, hk⟩ := exists_front_of_undefined (p := .dummy) hn hq
    (receive_of_dummy_undefined hn hdummy)
  exact ⟨_, .take hf ht, hk⟩

theorem exists_copy_takeRecursive
    (h : EStateM.run (xQueueTakeMutexRecursive queue) s = .error .undefined s') :
    ∃ k, s.Copies (.takeMutexRecursive queue) k ∧ ¬ k.Fits := by
  by_cases ht : q.queueType = queueQUEUE_TYPE_RECURSIVE_MUTEX
  · by_cases hone : UInt8.ofNat q.queue.length = 1
    · obtain ⟨m, hf, hk⟩ := exists_front_of_undefined (p := .dummy) hn hq
        (receive_of_dummy_undefined hn (dummy_of_recursive_undefined hn hq ht hone h))
      exact ⟨_, .takeRecursive hf ht hone, hk⟩
    · simp [xQueueTakeMutexRecursive, uxSemaphoreGetCount, hn, hq, ht,
        run_uxQueueMessagesWaiting hn hq, hone] at h
  · simp [xQueueTakeMutexRecursive, hn, hq, ht] at h

end Undefined

/-- **A call on a live queue is undefined only by a copy that does not fit, or by an overwrite of an
empty queue.** -/
theorem Lib.Step.exists_copy (hw : s.WellFormed) (hs : s.SetsLive) (hc : c.CopiesMessages)
    (hlive : ∀ h ∈ c.handles, ∃ q, s.lookup h = some q) (hstep : s.Step c (.left .undefined) s') :
    (∃ k, s.Copies c k ∧ ¬ k.Fits) ∨
      ∃ queue item q, c = .send queue item queueOVERWRITE ∧ s.lookup queue = some q ∧
        q.queue = [] := by
  cases c with
  | receive queue buffer =>
    obtain ⟨q, hq⟩ := hlive queue (List.mem_singleton.mpr rfl)
    exact .inl (exists_copy_receive (hw.ne_nullptr hq) hq (Lib.error_of_step rfl hstep))
  | peek queue buffer =>
    obtain ⟨q, hq⟩ := hlive queue (List.mem_singleton.mpr rfl)
    exact .inl (exists_copy_peek (hw.ne_nullptr hq) hq (Lib.error_of_step rfl hstep))
  | selectFromSet set =>
    obtain ⟨q, hq⟩ := hlive set (List.mem_singleton.mpr rfl)
    exact .inl (exists_copy_select (hw.ne_nullptr hq) hq (Lib.error_of_step rfl hstep))
  | semaphoreTake queue =>
    obtain ⟨q, hq⟩ := hlive queue (List.mem_singleton.mpr rfl)
    exact .inl (exists_copy_take (hw.ne_nullptr hq) hq (Lib.error_of_step rfl hstep))
  | takeMutexRecursive mutex =>
    obtain ⟨q, hq⟩ := hlive mutex (List.mem_singleton.mpr rfl)
    exact .inl (exists_copy_takeRecursive (hw.ne_nullptr hq) hq (Lib.error_of_step rfl hstep))
  | send queue item pos =>
    obtain ⟨q, hq⟩ := hlive queue (List.mem_singleton.mpr rfl)
    have hrun := Lib.error_of_step (c := .send queue item pos) rfl hstep
    rw [run_xQueueGenericSend_eq] at hrun
    rcases exists_sendCopy (p := .user item) hs (hw.ne_nullptr hq) hq hrun with
      ⟨k, hk, hfits⟩ | ⟨rfl, hempty⟩
    · exact .inl ⟨k, .send hk, hfits⟩
    · exact .inr ⟨queue, item, q, rfl, hq, hempty⟩
  | _ => exact hc.elim

end Calls

/-! ## Which copies stay inside -/

/-- The buffers that the caller passes hold `itemSize` bytes, and what is selected from is a set. -/
def Lib.BuffersHold (s : Lib) : Call → Prop
  | .receive queue buffer | .peek queue buffer | .send queue buffer _ =>
    ∀ q, s.lookup queue = some q → q.itemSize.toNat ≤ (buffer.getD []).length
  | .selectFromSet set => ∀ q, s.lookup set = some q → q.itemSize.toNat = sizeofHandle
  | .semaphoreTake _ | .takeMutexRecursive _ => True
  | _ => False

/-- Every stored message has exactly `itemSize` bytes, and every copy of the call stays inside its
buffers. -/
structure Lib.CopiesInside (s : Lib) (c : Call) : Prop where
  stored : ∀ h q, s.lookup h = some q → ∀ m ∈ q.queue, m.length = q.itemSize.toNat
  inside : ∀ k, s.Copies c k → k.Inside

/-- The call takes, as if it were a semaphore, a queue whose messages are longer than eight bytes
and which is not empty. -/
def Lib.TakesWide (s : Lib) (c : Call) : Prop :=
  ∃ queue q, c = .semaphoreTake queue ∧ s.lookup queue = some q ∧ 8 < q.itemSize.toNat ∧
    q.queue ≠ []

section Inside

variable {s : Lib} {c : Call} {queue : Handle} {q : FakeQueue} {m : Bytes} {p : Place}
  {pos : BaseType} {k : Copy}

theorem Lib.Front.length_eq (hf : s.Front queue q m) (hw : s.WellFormed) :
    m.length = q.itemSize.toNat := by
  obtain ⟨rest, hm⟩ := hf.head
  exact (hw.queue queue q hf.live).item_length m (hm ▸ List.mem_cons_self)

/-- The copy of a first message. -/
theorem Lib.Front.inside (hf : s.Front queue q m) (hw : s.WellFormed)
    (hbytes : q.itemSize.toNat ≤ p.bytes) (hwhole : p.Whole q.itemSize.toNat) :
    Copy.Inside ⟨p, .stored m, q.itemSize.toNat⟩ :=
  ⟨⟨hbytes, (hf.length_eq hw).ge⟩, hwhole, hf.length_eq hw⟩

/-- The copies of a send, whose item is large enough, and of its notifications, whose item is a
handle variable. -/
theorem Lib.SendCopies.inside (h : s.SendCopies queue p pos k) (hs : s.SetsLive)
    (hp : ∀ q, s.lookup queue = some q →
      q.itemSize.toNat ≤ p.bytes ∧ p.Whole q.itemSize.toNat) : k.Inside := by
  induction h with
  | @message s queue p pos q hn hq ha =>
    obtain ⟨hbytes, hwhole⟩ := hp q hq
    have hvector : (Place.vector q.itemSize.toNat).bytes = q.itemSize.toNat :=
      List.length_replicate
    exact ⟨⟨hvector.ge, hbytes⟩, rfl, hwhole⟩
  | @notification s queue p pos q l k hn hq ha hi hst hc _ ih =>
    have hs' := (Lib.SameShape.write hq l).setsLive hs
    refine ih hs' fun S' hS' => ?_
    obtain ⟨S, hS, hsize⟩ := hs' queue _ (Lib.lookup_write_self ..) hc
    obtain rfl : S = S' := Option.some.inj (hS.symm.trans hS')
    exact ⟨hsize.trans (length_handleBytes queue).symm |>.le, hsize.symm⟩

end Inside

/-- **Every message copy stays inside its buffers, except in takes of queues with long messages.**
In every legal memory, for every call for messages with buffers that hold `itemSize` bytes: the
messages have exactly `itemSize` bytes and the copies of the call, those of its notifications
included, stay inside, if and only if the call is not `xQueueSemaphoreTake` on a queue that is not
empty and has messages of more than eight bytes. -/
theorem copiesInside_iff {s : Lib} (hs : s.Legal) {c : Call} (hc : s.BuffersHold c) :
    s.CopiesInside c ↔ ¬ s.TakesWide c := by
  have hw := hs.wellFormed
  constructor
  · rintro hin ⟨queue, q, rfl, hq, hwide, hne⟩
    obtain ⟨m, rest, hm⟩ := List.exists_cons_of_ne_nil hne
    have hf : s.Front queue q m := ⟨hw.ne_nullptr hq, hq, rest, hm⟩
    have ht : q.queueType ≠ queueQUEUE_TYPE_RECURSIVE_MUTEX := fun ht => by
      rw [(hs.reachable.sound.recursive queue q hq ht).2] at hwide
      exact Nat.not_lt_zero 8 hwide
    have hle : q.itemSize.toNat ≤ 8 := (hin.inside _ (.take hf ht)).fits.1
    omega
  · intro hnot
    refine ⟨fun h q hq => (hw.queue h q hq).item_length, fun k hk => ?_⟩
    cases hk with
    | receive hb hf => exact hf.inside hw (hc _ hf.live) trivial
    | peek hf => exact hf.inside hw (hc _ hf.live) trivial
    | select hf =>
      have hsize := hc _ hf.live
      exact hf.inside hw (hsize.trans (length_handleBytes nullptr).symm).le hsize.symm
    | @take queue q m hf ht =>
      obtain ⟨rest, hm⟩ := hf.head
      refine hf.inside hw ?_ trivial
      by_contra hlt
      exact hnot ⟨queue, q, rfl, hf.live, not_le.mp hlt, hm ▸ List.cons_ne_nil m rest⟩
    | takeRecursive hf ht =>
      refine hf.inside hw ?_ trivial
      rw [(hs.reachable.sound.recursive _ _ hf.live ht).2]
      exact Nat.zero_le _
    | send hk => exact hk.inside hs.setsLive fun q hq => ⟨hc q hq, trivial⟩

/-- A queue at 1 for messages of nine bytes, with one of them. -/
def wideQueue : Lib :=
  Lib.init.write 1 { freshQueue 1 9 queueQUEUE_TYPE_BASE with queue := [List.replicate 9 7] }

theorem wideQueue_legal : wideQueue.Legal := by
  have hfresh : Lib.init.Fresh 1 := by simp [Lib.Fresh, nullptr]
  have hcreated := Lib.legal_init.create hfresh 1 9 (t := queueQUEUE_TYPE_BASE) (by decide)
  have hstep : (Lib.init.write 1 (freshQueue 1 9 queueQUEUE_TYPE_BASE)).Step
      (.send 1 (some (List.replicate 9 7)) queueSEND_TO_BACK) (.returned (.code pdTRUE))
      wideQueue := by decide +kernel
  exact hcreated.step hstep trivial trivial (by decide)

/-- It is received from safely, into a buffer of nine bytes. -/
theorem copiesInside_receive :
    wideQueue.CopiesInside (.receive 1 (some (List.replicate 9 0))) := by
  have hlive : wideQueue.lookup 1 =
    some { freshQueue 1 9 queueQUEUE_TYPE_BASE with queue := [List.replicate 9 7] } :=
    Lib.lookup_write_self ..
  have hbuf : wideQueue.BuffersHold (.receive 1 (some (List.replicate 9 0))) := by
    intro q hq
    obtain rfl := Option.some.inj (hlive.symm.trans hq)
    exact le_refl 9
  refine (copiesInside_iff wideQueue_legal hbuf).mpr fun h => ?_
  obtain ⟨queue, q, he, -⟩ := h
  cases he

/-- A take of it copies nine bytes into a local of eight. -/
theorem not_copiesInside_take : wideQueue.Legal ∧ wideQueue.BuffersHold (.semaphoreTake 1) ∧
    ¬ wideQueue.CopiesInside (.semaphoreTake 1) ∧
    wideQueue.Step (.semaphoreTake 1) (.left .undefined) wideQueue := by
  refine ⟨wideQueue_legal, trivial, fun hin => ?_, by decide +kernel⟩
  have hf : wideQueue.Front 1
      { freshQueue 1 9 queueQUEUE_TYPE_BASE with queue := [List.replicate 9 7] }
      (List.replicate 9 7) := ⟨by decide, Lib.lookup_write_self .., [], rfl⟩
  have hle : 9 ≤ 8 := (hin.inside _ (.take hf (by decide))).fits.1
  omega

end FakeFreeRtos
