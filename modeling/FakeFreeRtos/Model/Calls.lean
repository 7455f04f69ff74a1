import FakeFreeRtos.Foundations.Run
import FakeFreeRtos.Model.QueueSet
import FakeFreeRtos.Model.Mutex

/-!
# Programs as runs of calls

A test drives the queue modules by calls (`Call`), each of which replies with what it returns or
with how it left early (`Reply`). `Lib.Step s c r s'` is the effect of one call on the library's
memory, and runs of calls are runs of this transition system.

`Lib.Reachable` are the memories that the calls of a program build from nothing, whatever the
program passes, as long as nothing undefined happens and mutexes are made by `xQueueCreateMutex`.
`Lib.Legal` are those that a program builds which adds queues only to sets, whose messages have the
size of a handle, and which deletes no set that has members.
-/

namespace FakeFreeRtos

open Foundations

/-- A call of the queue modules. The creating calls carry the address that `new` returns. -/
inductive Call
  | create (addr : Handle) (queueLength itemSize : UBaseType) (queueType : UInt8)
  | createSet (addr : Handle) (eventQueueLength : UBaseType)
  | createCountingSemaphore (addr : Handle) (maxCount initialCount : UBaseType)
  | createMutex (addr : Handle) (queueType : UInt8)
  | delete (queue : Handle)
  | messagesWaiting (queue : Handle)
  | spacesAvailable (queue : Handle)
  | send (queue : Handle) (item : Buffer) (copyPosition : BaseType)
  | receive (queue : Handle) (buffer : Buffer)
  | peek (queue : Handle) (buffer : Buffer)
  | addToSet (item set : Handle)
  | removeFromSet (item set : Handle)
  | selectFromSet (set : Handle)
  | semaphoreTake (queue : Handle)
  | giveFromISR (queue : Handle)
  | takeMutexRecursive (mutex : Handle)
  | giveMutexRecursive (mutex : Handle)
  | trackingInit
  | trackingTeardown
  | isAnyMutexLocked
  deriving DecidableEq

/-- What a call returns. -/
inductive Value
  | unit
  | bool (b : Bool)
  | code (b : BaseType)
  | count (n : UBaseType)
  | handle (h : Handle)
  | data (b : BaseType) (buffer : Buffer)
  deriving DecidableEq

/-- The function that a call calls. -/
def Call.exec : Call → Api Value
  | .create addr l n t => .handle <$> xQueueGenericCreate addr l n t
  | .createSet addr l => .handle <$> xQueueCreateSet addr l
  | .createCountingSemaphore addr m i => .handle <$> xQueueCreateCountingSemaphore addr m i
  | .createMutex addr t => .handle <$> xQueueCreateMutex addr t
  | .delete queue => (fun _ => .unit) <$> vQueueDelete queue
  | .messagesWaiting queue => .count <$> uxQueueMessagesWaiting queue
  | .spacesAvailable queue => .count <$> uxQueueSpacesAvailable queue
  | .send queue item pos => .code <$> xQueueGenericSend queue item pos
  | .receive queue buffer => (fun r => .data r.1 r.2) <$> xQueueReceive queue buffer
  | .peek queue buffer => (fun r => .data r.1 r.2) <$> xQueuePeek queue buffer
  | .addToSet item set => .code <$> xQueueAddToSet item set
  | .removeFromSet item set => .code <$> xQueueRemoveFromSet item set
  | .selectFromSet set => .handle <$> xQueueSelectFromSet set
  | .semaphoreTake queue => .code <$> xQueueSemaphoreTake queue
  | .giveFromISR queue => .code <$> xQueueGiveFromISR queue
  | .takeMutexRecursive mutex => .code <$> xQueueTakeMutexRecursive mutex
  | .giveMutexRecursive mutex => .code <$> xQueueGiveMutexRecursive mutex
  | .trackingInit => (fun _ => .unit) <$> mutexTrackingInit
  | .trackingTeardown => (fun _ => .unit) <$> mutexTrackingTeardown
  | .isAnyMutexLocked => .bool <$> FakeFreeRtos.isAnyMutexLocked

/-- How a call ended. -/
inductive Reply
  | returned (v : Value)
  | left (e : Exit)
  deriving DecidableEq

/-- A reply that C++ defines. -/
def Reply.Defined (r : Reply) : Prop := r ≠ .left .undefined ∧ r ≠ .left .outOfFuel

instance (r : Reply) : Decidable r.Defined := inferInstanceAs (Decidable (_ ∧ _))

/-- The reply and the memory at the end of a call. -/
def outcome : EStateM.Result Exit Lib Value → Reply × Lib
  | .ok v s => (.returned v, s)
  | .error e s => (.left e, s)

/-- The effect of one call. -/
def Lib.Step (s : Lib) (c : Call) (r : Reply) (s' : Lib) : Prop :=
  outcome (EStateM.run c.exec s) = (r, s')

instance (s : Lib) (c : Call) (r : Reply) (s' : Lib) : Decidable (s.Step c r s') :=
  inferInstanceAs (Decidable (_ = _))

theorem Lib.step_returned_iff {s s' : Lib} {c : Call} {v : Value} :
    s.Step c (.returned v) s' ↔ EStateM.run c.exec s = .ok v s' := by
  unfold Lib.Step
  cases EStateM.run c.exec s <;> simp [outcome]

/-- A call leaves the memory that it computes. -/
theorem Lib.step_of_outcome {s : Lib} {c : Call} {r : Reply}
    (h : (outcome (EStateM.run c.exec s)).1 = r) :
    s.Step c r (outcome (EStateM.run c.exec s)).2 := by
  rw [Lib.Step, ← h]

theorem Lib.step_left_iff {s s' : Lib} {c : Call} {e : Exit} :
    s.Step c (.left e) s' ↔ EStateM.run c.exec s = .error e s' := by
  unfold Lib.Step
  cases EStateM.run c.exec s <;> simp [outcome]

section Exec

variable {α : Type} {f : α → Value} {x : Api α} {c : Call} {s s' : Lib}

/-- A call returns when its function does. -/
theorem Lib.step_of_ok (hc : c.exec = f <$> x) {a : α} (h : EStateM.run x s = .ok a s') :
    s.Step c (.returned (f a)) s' := by
  rw [step_returned_iff, hc, run_map, h]

/-- A call leaves early when its function does. -/
theorem Lib.step_of_error (hc : c.exec = f <$> x) {e : Exit} (h : EStateM.run x s = .error e s') :
    s.Step c (.left e) s' := by
  rw [step_left_iff, hc, run_map, h]

/-- A call leaves early only when its function does. -/
theorem Lib.error_of_step (hc : c.exec = f <$> x) {e : Exit} (h : s.Step c (.left e) s') :
    EStateM.run x s = .error e s' := by
  rw [step_left_iff, hc, run_map] at h
  cases hx : EStateM.run x s with
  | ok a s₁ =>
    rw [hx] at h
    cases h
  | error e' s₁ =>
    rw [hx] at h
    cases h
    rfl

end Exec

theorem Lib.Step.deterministic {s s₁ s₂ : Lib} {c : Call} {r₁ r₂ : Reply} (h₁ : s.Step c r₁ s₁)
    (h₂ : s.Step c r₂ s₂) : r₁ = r₂ ∧ s₁ = s₂ :=
  Prod.mk.inj (h₁.symm.trans h₂)

/-! ## Reachable memories -/

/-- Mutexes are created by `xQueueCreateMutex`. -/
def Call.MutexesByCreateMutex : Call → Prop
  | .create _ _ _ t => t ≠ queueQUEUE_TYPE_MUTEX ∧ t ≠ queueQUEUE_TYPE_RECURSIVE_MUTEX
  | _ => True

/-- A step in which nothing undefined happens. -/
def Lib.DefinedStep (s : Lib) (c : Call) (r : Reply) (s' : Lib) : Prop :=
  c.MutexesByCreateMutex ∧ s.Step c r s' ∧ r.Defined

/-- The memories that programs build from nothing. -/
def Lib.Reachable (s : Lib) : Prop := ∃ tr, Run Lib.DefinedStep Lib.init tr s

/-- What `set` refers to can be a set: its messages have the size of a handle. -/
def Lib.IsSet (s : Lib) (set : Handle) : Prop :=
  ∃ S, s.lookup set = some S ∧ S.itemSize.toNat = sizeofHandle

/-- Queues are added to sets only, and no set is deleted that has members. -/
def Lib.SetDiscipline (s : Lib) : Call → Prop
  | .addToSet _ set => set = nullptr ∨ s.IsSet set
  | .delete queue => ∀ h q, s.lookup h = some q → q.queueSetContainer = queue → queue = nullptr
  | _ => True

/-- The memories that programs build which keep the discipline on sets. -/
def Lib.Legal (s : Lib) : Prop :=
  ∃ tr, Run (fun s c r s' => s.SetDiscipline c ∧ s.DefinedStep c r s') Lib.init tr s

theorem Lib.Legal.reachable {s : Lib} (h : s.Legal) : s.Reachable := by
  obtain ⟨tr, hrun⟩ := h
  exact ⟨tr, hrun.mono fun _ _ _ _ hs => hs.2⟩

end FakeFreeRtos
