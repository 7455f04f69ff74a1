import FakeFreeRtos.Model.Service
import FakeFreeRtos.Model.Task
import Mathlib.Order.BoundedOrder.Lattice

/-!
# The button service

The functions of `buttonService.c`. The interrupt of the button driver gives a binary semaphore; the
service takes it, reads the driver, and tells a callback which of its buttons were pressed and
released.

The driver is known by its header: it collects the buttons that are pressed and released until they
are read (`ButtonReader`), and runs the registered callback in the step in which a button changes
(`buttonChange`). What is seen from outside is recorded in order (`ButtonEvent`): the changes, the
reads and the callbacks. The thread of the service is never run by the fake tasks and is left out.
-/

namespace FakeFreeRtos

open Foundations

/-! ## The driver -/

/-- Buttons that were pressed and released, one bit each. -/
structure Changes where
  pressed : UInt16
  released : UInt16
  deriving DecidableEq

namespace Changes

instance : Max Changes where
  max a b := ⟨a.pressed ||| b.pressed, a.released ||| b.released⟩

instance : Bot Changes where
  bot := ⟨0, 0⟩

/-- Changes are merged bit by bit. -/
instance : SemilatticeSup Changes :=
  SemilatticeSup.mk' (fun a b => by simp [Max.max, UInt16.or_comm])
    (fun a b c => by simp [Max.max, UInt16.or_assoc]) (fun a => by simp [Max.max])

@[simp] theorem pressed_sup (a b : Changes) : (a ⊔ b).pressed = a.pressed ||| b.pressed := rfl

@[simp] theorem released_sup (a b : Changes) : (a ⊔ b).released = a.released ||| b.released := rfl

@[simp] theorem pressed_bot : (⊥ : Changes).pressed = 0 := rfl

@[simp] theorem released_bot : (⊥ : Changes).released = 0 := rfl

instance : OrderBot Changes where
  bot_le a := by
    have hsup : (⟨0 ||| a.pressed, 0 ||| a.released⟩ : Changes) = a := by simp
    exact sup_eq_right.mp hsup

end Changes

/-- A driver that behaves as `buttonReader.h` says. `read` is `ButtonReaderRead`, whose answer comes
with what it writes to `pressed` and `released`; `unread` are the changes since the last read. -/
structure ButtonReader (D : Type) where
  init : D → D
  change : Changes → D → D
  read : D → (Bool × UInt16 × UInt16) × D
  unread : D → Changes
  unread_init (d : D) : unread (init d) = ⊥
  unread_change (c : Changes) (d : D) : unread (change c d) = unread d ⊔ c
  read_answer (d : D) : (read d).1 = (true, (unread d).pressed, (unread d).released)
  unread_read (d : D) : unread (read d).2 = ⊥

/-- `ButtonReaderIsrCallback`: the functions of the program of this type. -/
inductive ButtonReaderIsrCallback
  | ButtonService_IsrCallback
  deriving DecidableEq

/-! ## Types and variables of the module -/

/-- `ButtonFlagT`. -/
abbrev ButtonFlag := UInt32

def BUTTON_ON_OFF : ButtonFlag := 0x1
def BUTTON_FUNC_A : ButtonFlag := 0x2

/-- `ButtonStateT`. -/
inductive ButtonState
  | BUTTON_PRESSED
  | BUTTON_RELEASED
  deriving DecidableEq

def ON_OFF_BIT : UInt16 := 0x02
def FUNC_A_BIT : UInt16 := 0x08

/-- The static variables of the module, with their initial values. The callback, its context and the
thread are addresses. -/
structure ButtonVars where
  s_thread : UInt64 := 0
  s_eventSema : Handle := nullptr
  s_exitThread : Bool := false
  s_callback : UInt64 := 0
  s_context : UInt64 := 0
  deriving DecidableEq

/-- What happens between the service and its surroundings. -/
inductive ButtonEvent
  | change (c : Changes)
  | read (c : Changes)
  | callback (callback : UInt64) (flags : ButtonFlag) (state : ButtonState) (context : UInt64)
  deriving DecidableEq

/-- The memory of a program with the service: the library's, the module's variables, the driver with
the callback registered with it, and the events so far, the last one last. -/
structure ButtonMemory (D T : Type) where
  world : World T
  vars : ButtonVars
  driver : D
  isrCallback : Option ButtonReaderIsrCallback
  events : List ButtonEvent
  deriving DecidableEq

/-- A function of the service. -/
abbrev ButtonApi (D T : Type) := EStateM Exit (ButtonMemory D T)

variable {D T : Type}

/-- A call of the library. -/
def withWorld {α : Type} (x : WorldApi T α) : ButtonApi D T α := fun m =>
  match EStateM.run x m.world with
  | .ok a w => .ok a { m with world := w }
  | .error e w => .error e { m with world := w }

@[simp] theorem run_withWorld {α : Type} (x : WorldApi T α) (m : ButtonMemory D T) :
    EStateM.run (withWorld x) m =
      match EStateM.run x m.world with
      | .ok a w => .ok a { m with world := w }
      | .error e w => .error e { m with world := w } := rfl

theorem run_withWorld_of_ok {α : Type} {x : Api α} {m : ButtonMemory D T} {a : α} {lib : Lib}
    (h : EStateM.run x m.world.lib = .ok a lib) :
    EStateM.run (withWorld (onLib x)) m = .ok a { m with world := { m.world with lib } } := by
  rw [run_withWorld, run_onLib, h]

theorem run_withWorld_eq_ok {α : Type} {x : WorldApi T α} {m m' : ButtonMemory D T} {a : α} :
    EStateM.run (withWorld x) m = .ok a m' ↔
      ∃ w, EStateM.run x m.world = .ok a w ∧ m' = { m with world := w } := by
  rw [run_withWorld]
  cases EStateM.run x m.world with
  | ok b w =>
    constructor
    · rintro ⟨⟩
      exact ⟨w, rfl, rfl⟩
    · rintro ⟨w', ⟨⟩, rfl⟩
      rfl
  | error e w => exact ⟨nofun, nofun⟩

/-- The variables of the module. -/
def buttonVars : ButtonApi D T ButtonVars := do
  pure (← get).vars

/-- An assignment to variables of the module. -/
def buttonAssign (f : ButtonVars → ButtonVars) : ButtonApi D T Unit :=
  modify fun m => { m with vars := f m.vars }

/-- An event is noted. -/
def buttonEvent (e : ButtonEvent) : ButtonApi D T Unit :=
  modify fun m => { m with events := m.events ++ [e] }

@[simp] theorem run_buttonVars (m : ButtonMemory D T) :
    EStateM.run buttonVars m = .ok m.vars m := rfl

@[simp] theorem run_buttonAssign (f : ButtonVars → ButtonVars) (m : ButtonMemory D T) :
    EStateM.run (buttonAssign f) m = .ok () { m with vars := f m.vars } := rfl

@[simp] theorem run_buttonEvent (e : ButtonEvent) (m : ButtonMemory D T) :
    EStateM.run (buttonEvent e) m = .ok () { m with events := m.events ++ [e] } := rfl

variable (R : ButtonReader D)

/-! ## Functions of the driver -/

/-- No callback is registered with a driver that is initialised. -/
def buttonReaderInit : ButtonApi D T Unit :=
  modify fun m => { m with driver := R.init m.driver, isrCallback := none }

/-- The callback replaces the one before. -/
def buttonReaderRegisterIsrCallback (callback : Option ButtonReaderIsrCallback) :
    ButtonApi D T Unit :=
  modify fun m => { m with isrCallback := callback }

/-- The driver is read: whether that worked, the bits pressed and the bits released since the last
read. -/
def buttonReaderRead : ButtonApi D T (Bool × UInt16 × UInt16) := do
  let m ← get
  let r := R.read m.driver
  set { m with driver := r.2 }
  buttonEvent (.read ⟨r.1.2.1, r.1.2.2⟩)
  pure r.1

/-! ## The interrupt -/

/-- The interrupt gives the semaphore; the result of the give is dropped. -/
def buttonServiceIsrCallback : ButtonApi D T Unit := do
  let v ← buttonVars
  let _ ← withWorld (onLib (xQueueGiveFromISR v.s_eventSema))

/-- `ButtonService_SimulateIsr`, for the tests. -/
def buttonServiceSimulateIsr : ButtonApi D T Unit := buttonServiceIsrCallback

/-- Buttons change: the driver notes it, and the interrupt runs the callback in the same step. -/
def buttonChange (c : Changes) : ButtonApi D T Unit := do
  modify fun m => { m with driver := R.change c m.driver }
  buttonEvent (.change c)
  match (← get).isrCallback with
  | some .ButtonService_IsrCallback => buttonServiceIsrCallback
  | none => pure ()

/-! ## Processing an event -/

/-- The `flags` that `Emit` collects. -/
def emitFlags (bits : UInt16) : ButtonFlag :=
  let flags := if bits &&& ON_OFF_BIT ≠ 0 then 0 ||| BUTTON_ON_OFF else 0
  if bits &&& FUNC_A_BIT ≠ 0 then flags ||| BUTTON_FUNC_A else flags

/-- `Emit`. -/
def emit (bits : UInt16) (state : ButtonState) : ButtonApi D T Unit := do
  let flags := emitFlags bits
  let v ← buttonVars
  if v.s_callback ≠ 0 ∧ flags ≠ 0 then
    buttonEvent (.callback v.s_callback flags state v.s_context)

/-- A token of the semaphore is taken, and what the driver then reads is told to the callback. -/
def buttonServiceProcessOneEvent (option : ExecutionOption) : ButtonApi D T Bool := do
  let idle ← if option = .EXECUTION_OPTION_UNIT_TEST then do
      let v ← buttonVars
      (fun n => decide (0 = n)) <$> withWorld (onLib (uxSemaphoreGetCount v.s_eventSema))
    else pure false
  if idle = true then pure false
  else
    let v ← buttonVars
    let rtn ← withWorld (onLib (xQueueSemaphoreTake v.s_eventSema))
    if rtn = pdFALSE then pure false
    else
      let r ← buttonReaderRead R
      configASSERT (r.1 = true)
      let v ← buttonVars
      if v.s_callback ≠ 0 then
        if r.2.1 ≠ 0 then emit r.2.1 .BUTTON_PRESSED
        if r.2.2 ≠ 0 then emit r.2.2 .BUTTON_RELEASED
      pure true

/-! ## Setup, teardown and registration -/

/-- The allocator answers `addr` for the semaphore. -/
def buttonServiceInit (addr : Handle) : ButtonApi D T Unit := do
  let v ← buttonVars
  configASSERT (v.s_thread = 0)
  configASSERT (v.s_eventSema = nullptr)
  configASSERT (v.s_callback = 0)
  configASSERT (v.s_context = 0)
  configASSERT (v.s_exitThread = false)
  let sema ← withWorld (onLib (xSemaphoreCreateBinary addr))
  buttonAssign fun v => { v with s_eventSema := sema }
  configASSERT (sema ≠ nullptr)

/-- The result of the give is dropped. -/
def buttonServiceDestroy : ButtonApi D T Unit := do
  let v ← buttonVars
  if v.s_eventSema ≠ nullptr then
    buttonAssign fun v => { v with s_exitThread := true }
    let _ ← withWorld (onLib (xSemaphoreGive v.s_eventSema))
    withWorld vTaskDelete
    withWorld (onLib (vQueueDelete v.s_eventSema))
  buttonAssign fun v => { v with
    s_exitThread := false
    s_eventSema := nullptr
    s_thread := 0
    s_callback := 0
    s_context := 0 }

/-- The driver is initialised, and the interrupt connected. -/
def buttonServiceInitialize : ButtonApi D T Unit := do
  buttonReaderInit R
  buttonReaderRegisterIsrCallback (some .ButtonService_IsrCallback)

/-- The thread is created, or the driver initialised in a unit test. -/
def buttonServiceStart (option : ExecutionOption) : ButtonApi D T Unit := do
  let v ← buttonVars
  configASSERT (v.s_thread = 0)
  if option = .EXECUTION_OPTION_NORMAL then
    let ok ← withWorld xTaskCreate
    configASSERT (ok = pdPASS)
  else buttonServiceInitialize R

/-- The callback replaces the one before, and so does its context. -/
def buttonServiceRegisterButtonChangeCallback (callback context : UInt64) : ButtonApi D T Unit :=
  buttonAssign fun v => { v with s_callback := callback, s_context := context }

/-- What the tests do before each test. -/
def buttonServiceTestsSetup (addr : Handle) (callback context : UInt64) : ButtonApi D T Unit := do
  buttonServiceInit addr
  buttonServiceStart R .EXECUTION_OPTION_UNIT_TEST
  buttonServiceRegisterButtonChangeCallback callback context

/-! ## Runs -/

/-- A call of the service over its whole life, or a change of the buttons. -/
inductive ButtonCall
  | init (addr : Handle)
  | start (option : ExecutionOption)
  | register (callback context : UInt64)
  | processOneEvent (option : ExecutionOption)
  | simulateIsr
  | change (c : Changes)
  | destroy
  deriving DecidableEq

/-- The function that a call calls. -/
def ButtonCall.exec : ButtonCall → ButtonApi D T Value
  | .init addr => (fun _ => .unit) <$> buttonServiceInit addr
  | .start option => (fun _ => .unit) <$> buttonServiceStart R option
  | .register callback context =>
    (fun _ => .unit) <$> buttonServiceRegisterButtonChangeCallback callback context
  | .processOneEvent option => .bool <$> buttonServiceProcessOneEvent R option
  | .simulateIsr => (fun _ => .unit) <$> buttonServiceSimulateIsr
  | .change c => (fun _ => .unit) <$> buttonChange R c
  | .destroy => (fun _ => .unit) <$> buttonServiceDestroy

end FakeFreeRtos
