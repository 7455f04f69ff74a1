import FakeFreeRtos.Foundations.Exec
import FakeFreeRtos.Foundations.LittleEndian
import Mathlib.Data.Finmap

/-!
# The state of the fake queues

The types and constants that the library takes from the kernel headers (v11.1.0, as the build
pins it) and from its own port, the queue object `QueueDefinition`, and the memory the library
works on.

* A handle is the address of a queue object; the address 0 is `nullptr`. The address that `new`
  returns is up to the allocator, so the creating functions take it as an argument.
* A call runs in `Api`: it reads and writes the library's memory and either returns or leaves
  early (`Exit`), the memory being kept in both cases. A tripped `configASSERT` leaves the call at
  once; what C++ leaves undefined (a freed object, a copy past the end of a buffer, `pop_front` on
  an empty deque) is `Exit.undefined`.
* What a `void *` argument refers to is a `Buffer`: nothing for `nullptr`, else the bytes there.

The fake never blocks, so the `ticks` arguments, which every function ignores, are left out.
-/

namespace FakeFreeRtos

open Foundations

/-! ## Port types and kernel constants -/

/-- `BaseType_t` of the port, a `signed char`. -/
abbrev BaseType := Int8

/-- `UBaseType_t` of the port, an `unsigned char`. -/
abbrev UBaseType := UInt8

/-- `TickType_t` at the configured width of 64 bits. -/
abbrev TickType := UInt64

def pdFALSE : BaseType := 0
def pdTRUE : BaseType := 1
def pdFAIL : BaseType := pdFALSE
def pdPASS : BaseType := pdTRUE
def errQUEUE_FULL : BaseType := 0

def queueSEND_TO_BACK : BaseType := 0
def queueSEND_TO_FRONT : BaseType := 1
def queueOVERWRITE : BaseType := 2

def queueQUEUE_TYPE_BASE : UInt8 := 0
def queueQUEUE_TYPE_SET : UInt8 := 0
def queueQUEUE_TYPE_MUTEX : UInt8 := 1
def queueQUEUE_TYPE_BINARY_SEMAPHORE : UInt8 := 3
def queueQUEUE_TYPE_RECURSIVE_MUTEX : UInt8 := 4

theorem pdTRUE_ne_pdFALSE : pdTRUE ≠ pdFALSE := by decide

/-! ## Handles -/

/-- `QueueHandle_t`, `QueueSetHandle_t` and `QueueSetMemberHandle_t`: a 64-bit address. -/
abbrev Handle := UInt64

def nullptr : Handle := 0

/-- `sizeof(QueueHandle_t)`. -/
def sizeofHandle : ℕ := 8

abbrev Bytes := List UInt8

/-- The bytes of a variable that holds the handle `h`. -/
def handleBytes (h : Handle) : Bytes := toLE sizeofHandle h.toNat

/-- The handle in a variable with the bytes `bs`. -/
def handleOfBytes (bs : Bytes) : Handle := UInt64.ofNat (ofLE bs)

@[simp] theorem length_handleBytes (h : Handle) : (handleBytes h).length = sizeofHandle :=
  length_toLE ..

@[simp] theorem handleOfBytes_handleBytes (h : Handle) : handleOfBytes (handleBytes h) = h := by
  have hlt : h.toNat < 256 ^ sizeofHandle := h.toNat_lt
  rw [handleOfBytes, handleBytes, ofLE_toLE, Nat.mod_eq_of_lt hlt, UInt64.ofNat_toNat]

theorem handleBytes_injective : Function.Injective handleBytes := fun h h' he => by
  rw [← handleOfBytes_handleBytes h, he, handleOfBytes_handleBytes]

/-! ## The queue object and the library's memory -/

/-- `QueueDefinition`, alias `FakeQueue`. -/
structure FakeQueue where
  queueLength : UBaseType := 0
  itemSize : UBaseType := 0
  queueType : UInt8 := 0
  queue : List Bytes := []
  recursiveCallCount : UInt64 := 0
  registryName : Option String := none
  queueSetContainer : Handle := nullptr
  deriving DecidableEq

/-- The memory of the queue modules: the live queue objects, and `s_mutexes`, null or the list of
tracked mutexes. -/
structure Lib where
  heap : Finmap fun _ : Handle => FakeQueue
  s_mutexes : Option (List Handle)
  deriving DecidableEq

/-- How a call leaves early. -/
inductive Exit
  /-- A tripped `configASSERT`, which ends in `TEST_EXIT`. -/
  | assertFailed
  /-- `FAIL_TEST`. -/
  | testFailed
  /-- Behaviour that C++ leaves undefined. -/
  | undefined
  /-- The recursion budget of the model is spent; `Exit.outOfFuel` is shown not to occur. -/
  | outOfFuel
  deriving DecidableEq

/-- A call of the library. -/
abbrev Api := EStateM Exit Lib

namespace Lib

/-- Before any call: no queue, no tracking. -/
def init : Lib := ⟨∅, none⟩

/-- The queue object at `h`. -/
def lookup (s : Lib) (h : Handle) : Option FakeQueue := s.heap.lookup h

/-- The memory with the object at `h` set to `q`. -/
def write (s : Lib) (h : Handle) (q : FakeQueue) : Lib := { s with heap := s.heap.insert h q }

/-- The memory without the object at `h`. -/
def free (s : Lib) (h : Handle) : Lib := { s with heap := s.heap.erase h }

@[simp] theorem lookup_write_self (s : Lib) (h : Handle) (q : FakeQueue) :
    (s.write h q).lookup h = some q := Finmap.lookup_insert ..

theorem lookup_write_of_ne (s : Lib) {h h' : Handle} (q : FakeQueue) (hne : h' ≠ h) :
    (s.write h q).lookup h' = s.lookup h' := Finmap.lookup_insert_of_ne _ hne

@[simp] theorem lookup_free_self (s : Lib) (h : Handle) : (s.free h).lookup h = none :=
  Finmap.lookup_erase ..

theorem lookup_free_of_ne (s : Lib) {h h' : Handle} (hne : h' ≠ h) :
    (s.free h).lookup h' = s.lookup h' := Finmap.lookup_erase_ne hne

@[simp] theorem s_mutexes_write (s : Lib) (h : Handle) (q : FakeQueue) :
    (s.write h q).s_mutexes = s.s_mutexes := rfl

@[simp] theorem s_mutexes_free (s : Lib) (h : Handle) : (s.free h).s_mutexes = s.s_mutexes := rfl

@[simp] theorem lookup_init (h : Handle) : init.lookup h = none := rfl

end Lib

/-! ## Primitive steps -/

section Primitives

variable {ε σ : Type}

/-- Leave a call early. -/
def leave {α : Type} (e : Exit) : EStateM Exit σ α := throw e

@[simp] theorem run_leave {α : Type} (e : Exit) (s : σ) :
    EStateM.run (leave e : EStateM Exit σ α) s = .error e s := rfl

/-- `configASSERT( x )`. -/
def configASSERT (x : Prop) [Decidable x] : EStateM Exit σ Unit :=
  if x then pure () else leave .assertFailed

theorem run_configASSERT (x : Prop) [Decidable x] (s : σ) :
    EStateM.run (configASSERT x : EStateM Exit σ Unit) s =
      if x then .ok () s else .error .assertFailed s := by
  by_cases h : x <;> simp [configASSERT, h]

@[simp] theorem run_configASSERT_of {x : Prop} [Decidable x] (h : x) (s : σ) :
    EStateM.run (configASSERT x : EStateM Exit σ Unit) s = .ok () s := by
  rw [run_configASSERT, if_pos h]

@[simp] theorem run_configASSERT_of_not {x : Prop} [Decidable x] (h : ¬ x) (s : σ) :
    EStateM.run (configASSERT x : EStateM Exit σ Unit) s = .error .assertFailed s := by
  rw [run_configASSERT, if_neg h]

theorem run_configASSERT_eq_ok {x : Prop} [Decidable x] {s s' : σ} {u : Unit} :
    EStateM.run (configASSERT x : EStateM Exit σ Unit) s = .ok u s' ↔ x ∧ s' = s := by
  rw [run_configASSERT]
  by_cases h : x <;> simp [h, eq_comm]

end Primitives

/-- What a `void *` argument refers to: nothing for `nullptr`, else the bytes from there on. -/
abbrev Buffer := Option Bytes

/-- Read the object a handle points to. -/
def deref (h : Handle) : Api FakeQueue := do
  match (← get).lookup h with
  | some q => pure q
  | none => leave .undefined

/-- Write the object a handle points to. -/
def assign (h : Handle) (q : FakeQueue) : Api Unit := modify fun s => s.write h q

/-- `new FakeQueue()` when the allocator answers `addr`, which is not null and not in use. -/
def new (addr : Handle) (q : FakeQueue) : Api Handle := do
  if addr = nullptr ∨ ((← get).lookup addr).isSome then leave .undefined
  else
    assign addr q
    pure addr

/-- `delete queue`. -/
def delete (h : Handle) : Api Unit := do
  let _ ← deref h
  modify fun s => s.free h

/-- `memcpy(dest, src, n)`: the bytes at `dest` afterwards. Copying nothing is always fine. -/
def memcpy (dest src : Buffer) (n : ℕ) : Api Buffer :=
  if n = 0 then pure dest
  else match dest, src with
    | some d, some s =>
      if n ≤ d.length ∧ n ≤ s.length then pure (some (s.take n ++ d.drop n)) else leave .undefined
    | _, _ => leave .undefined

@[simp] theorem run_deref {s : Lib} {h : Handle} {q : FakeQueue} (hq : s.lookup h = some q) :
    EStateM.run (deref h) s = .ok q s := by
  simp [deref, hq]

theorem run_deref_none {s : Lib} {h : Handle} (hq : s.lookup h = none) :
    EStateM.run (deref h) s = .error .undefined s := by
  simp [deref, hq]

theorem lookup_of_run_deref {s s' : Lib} {h : Handle} {q : FakeQueue}
    (hr : EStateM.run (deref h) s = .ok q s') : s.lookup h = some q := by
  cases hq : s.lookup h with
  | none =>
    rw [run_deref_none hq] at hr
    cases hr
  | some q' =>
    rw [run_deref hq] at hr
    cases hr
    rfl

@[simp] theorem run_assign (h : Handle) (q : FakeQueue) (s : Lib) :
    EStateM.run (assign h q) s = .ok () (s.write h q) := rfl

theorem run_new {s : Lib} {addr : Handle} (hn : addr ≠ nullptr) (hf : s.lookup addr = none)
    (q : FakeQueue) : EStateM.run (new addr q) s = .ok addr (s.write addr q) := by
  simp [new, hn, hf]

theorem run_new_not_fresh {s : Lib} {addr : Handle}
    (h : ¬ (addr ≠ nullptr ∧ s.lookup addr = none)) (q : FakeQueue) :
    EStateM.run (new addr q) s = .error .undefined s := by
  have h' : addr = nullptr ∨ (s.lookup addr).isSome := by
    rw [Option.isSome_iff_ne_none]
    tauto
  simp [new, h']

theorem run_delete {s : Lib} {h : Handle} {q : FakeQueue} (hq : s.lookup h = some q) :
    EStateM.run (delete h) s = .ok () (s.free h) := by
  simp [delete, hq]

/-- A copy within both buffers. -/
theorem run_memcpy {d src : Bytes} {n : ℕ} (hd : n ≤ d.length) (hs : n ≤ src.length) (s : Lib) :
    EStateM.run (memcpy (some d) (some src) n) s = .ok (some (src.take n ++ d.drop n)) s := by
  by_cases hn : n = 0
  · simp [memcpy, hn]
  · simp [memcpy, hn, hd, hs]

theorem run_memcpy_zero (dest src : Buffer) (s : Lib) :
    EStateM.run (memcpy dest src 0) s = .ok dest s := by
  simp [memcpy]

end FakeFreeRtos
