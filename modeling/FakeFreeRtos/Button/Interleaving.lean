import FakeFreeRtos.Model.ButtonService
import FakeFreeRtos.Queue.Frame

/-!
# The button service step by step

Interrupts and other tasks may run between any two accesses of `ButtonService_ProcessOneEvent` to
what it shares with them. A `Point` is a place in the function before such an access; `Point.next`
makes the access and goes on to the next point or out of the function. Without interruption the
points add up to the function (`finish_check`).

`ButtonSystem.Step` interleaves the points of the service with changes of the buttons, each with its
interrupt, and with whatever else the program does.
-/

namespace FakeFreeRtos

open Foundations

variable {D T : Type} (R : ButtonReader D)

/-- Places in `ButtonService_ProcessOneEvent`, with the values of its variables. -/
inductive Point
  | check (option : ExecutionOption)
  | take
  | read
  | notify (pressed released : UInt16)
  | emitPressed (pressed released : UInt16)
  | emitReleased (released : UInt16)
  deriving DecidableEq

/-- One step of the function: to another point, or to the end with what the function returns. -/
def Point.next : Point → ButtonApi D T (Point ⊕ Bool)
  | .check option => do
    if option = .EXECUTION_OPTION_UNIT_TEST then
      let v ← buttonVars
      let n ← withWorld (onLib (uxSemaphoreGetCount v.s_eventSema))
      if 0 = n then pure (.inr false) else pure (.inl .take)
    else pure (.inl .take)
  | .take => do
    let v ← buttonVars
    let rtn ← withWorld (onLib (xQueueSemaphoreTake v.s_eventSema))
    if rtn = pdFALSE then pure (.inr false) else pure (.inl .read)
  | .read => do
    let r ← buttonReaderRead R
    configASSERT (r.1 = true)
    pure (.inl (.notify r.2.1 r.2.2))
  | .notify pressed released => do
    let v ← buttonVars
    if v.s_callback ≠ 0 then pure (.inl (.emitPressed pressed released)) else pure (.inr true)
  | .emitPressed pressed released => do
    if pressed ≠ 0 then emit pressed .BUTTON_PRESSED
    pure (.inl (.emitReleased released))
  | .emitReleased released => do
    if released ≠ 0 then emit released .BUTTON_RELEASED
    pure (.inr true)

/-- The function from a point on, if it ends within `n` steps. -/
def Point.finish : ℕ → Point → ButtonApi D T Bool
  | 0, _ => leave .outOfFuel
  | n + 1, p => p.next R >>= Sum.elim (Point.finish n) pure

/-- **The points add up to the function.** -/
theorem finish_check (option : ExecutionOption) :
    Point.finish (T := T) R 6 (.check option) = buttonServiceProcessOneEvent R option := by
  have hite {c : Prop} [Decidable c] (x y : ButtonApi D T (Point ⊕ Bool))
      (f : Point ⊕ Bool → ButtonApi D T Bool) :
      (if c then x else y) >>= f = if c then x >>= f else y >>= f := apply_ite (· >>= f) c x y
  cases option with
  | EXECUTION_OPTION_NORMAL =>
    simp only [Point.finish, Point.next, buttonServiceProcessOneEvent, hite, bind_assoc, pure_bind,
      Sum.elim_inl, Sum.elim_inr, reduceCtorEq, Bool.false_eq_true, ↓reduceIte]
  | EXECUTION_OPTION_UNIT_TEST =>
    simp only [Point.finish, Point.next, buttonServiceProcessOneEvent, hite, bind_assoc, pure_bind,
      Sum.elim_inl, Sum.elim_inr, bind_map_left, decide_eq_true_eq, ↓reduceIte]

/-! ## Interleavings -/

/-- A program with the service. `service` is the point that a call of
`ButtonService_ProcessOneEvent` has reached, if one is under way. -/
structure ButtonSystem (D T : Type) where
  memory : ButtonMemory D T
  service : Option Point

/-- What can happen next: buttons change; another callback is registered; a task makes a call of the
library; the service calls `ButtonService_ProcessOneEvent`, or goes on in it. -/
inductive ButtonAction
  | change (c : Changes)
  | register (callback context : UInt64)
  | other (c : Call)
  | call (option : ExecutionOption)
  | proceed

def ButtonAction.changes : ButtonAction → List Changes
  | .change c => [c]
  | _ => []

/-- One step, with what `ButtonService_ProcessOneEvent` returns if the step ends it. A callback
stays registered, and the calls of other tasks are not given the semaphore of the service. -/
inductive ButtonSystem.Step :
    ButtonSystem D T → ButtonAction → Option Bool → ButtonSystem D T → Prop
  | change {m m' : ButtonMemory D T} {p : Option Point} {c : Changes}
      (h : EStateM.run (buttonChange R c) m = .ok () m') : Step ⟨m, p⟩ (.change c) none ⟨m', p⟩
  | register {m m' : ButtonMemory D T} {p : Option Point} {callback context : UInt64}
      (hc : callback ≠ 0)
      (h : EStateM.run (buttonServiceRegisterButtonChangeCallback callback context) m = .ok () m') :
      Step ⟨m, p⟩ (.register callback context) none ⟨m', p⟩
  | other {m : ButtonMemory D T} {p : Option Point} {c : Call} {r : Reply} {lib : Lib}
      (hs : m.world.lib.Step c r lib) (hd : r.Defined) (hh : m.vars.s_eventSema ∉ c.handles) :
      Step ⟨m, p⟩ (.other c) none ⟨{ m with world := { m.world with lib } }, p⟩
  | call {m : ButtonMemory D T} {option : ExecutionOption} :
      Step ⟨m, none⟩ (.call option) none ⟨m, some (.check option)⟩
  | proceed {m m' : ButtonMemory D T} {p : Point} {o : Point ⊕ Bool}
      (h : EStateM.run (p.next R) m = .ok o m') :
      Step ⟨m, some p⟩ .proceed o.getRight? ⟨m', o.getLeft?⟩

variable {R} in
/-- A call that nothing interrupts is a run of its points. -/
theorem run_of_finish {n : ℕ} {p : Point} {m m' : ButtonMemory D T} {b : Bool}
    (h : EStateM.run (p.finish R n) m = .ok b m') :
    ∃ k, Run (ButtonSystem.Step R) ⟨m, some p⟩
      (List.replicate k (.proceed, none) ++ [(.proceed, some b)]) ⟨m', none⟩ := by
  induction n generalizing p m with
  | zero => cases h
  | succ n ih =>
    obtain ⟨o, m₁, hnext, hrest⟩ := run_bind_eq_ok.mp h
    cases o with
    | inl p' =>
      obtain ⟨k, hk⟩ := ih hrest
      exact ⟨k + 1, .cons (.proceed hnext) hk⟩
    | inr b' =>
      cases hrest
      exact ⟨0, .cons (.proceed hnext) (.nil _)⟩

variable {R} in
theorem run_of_processOneEvent {option : ExecutionOption} {m m' : ButtonMemory D T} {b : Bool}
    (h : EStateM.run (buttonServiceProcessOneEvent R option) m = .ok b m') :
    ∃ k, Run (ButtonSystem.Step R) ⟨m, none⟩
      ((.call option, none) :: (List.replicate k (.proceed, none) ++ [(.proceed, some b)]))
      ⟨m', none⟩ := by
  rw [← finish_check] at h
  obtain ⟨k, hk⟩ := run_of_finish h
  exact ⟨k, .cons .call hk⟩

end FakeFreeRtos
