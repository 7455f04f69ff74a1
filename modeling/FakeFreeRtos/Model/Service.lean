import FakeFreeRtos.Model.Calls

/-!
# What the services of the example share

A service is a module with variables of its own on top of the library. A test drives it by calls,
which reply as the calls of the library do (`StepOf`). The tests process a service's events through
a backdoor that never waits, which `cmsExecutionOption.h` calls `EXECUTION_OPTION_UNIT_TEST`.
-/

namespace FakeFreeRtos

open Foundations

/-- `ExecutionOptionT`. -/
inductive ExecutionOption
  | EXECUTION_OPTION_NORMAL
  | EXECUTION_OPTION_UNIT_TEST
  deriving DecidableEq

section StepOf

variable {σ α : Type}

/-- The reply and the memory at the end of a call. -/
def replyOf : EStateM.Result Exit σ Value → Reply × σ
  | .ok v s => (.returned v, s)
  | .error e s => (.left e, s)

/-- The effect of a call on a memory. -/
def StepOf (x : EStateM Exit σ Value) (s : σ) (r : Reply) (s' : σ) : Prop :=
  replyOf (EStateM.run x s) = (r, s')

instance [DecidableEq σ] (x : EStateM Exit σ Value) (s : σ) (r : Reply) (s' : σ) :
    Decidable (StepOf x s r s') := inferInstanceAs (Decidable (_ = _))

variable {x : EStateM Exit σ Value} {y : EStateM Exit σ α} {f : α → Value} {s s' s₁ s₂ : σ}

theorem StepOf.deterministic {r₁ r₂ : Reply} (h₁ : StepOf x s r₁ s₁) (h₂ : StepOf x s r₂ s₂) :
    r₁ = r₂ ∧ s₁ = s₂ := Prod.mk.inj (h₁.symm.trans h₂)

/-- A call leaves the memory that it computes. -/
theorem stepOf_of_reply {r : Reply} (h : (replyOf (EStateM.run x s)).1 = r) :
    StepOf x s r (replyOf (EStateM.run x s)).2 := by
  rw [StepOf, ← h]

theorem stepOf_of_ok {a : α} (h : EStateM.run y s = .ok a s') :
    StepOf (f <$> y) s (.returned (f a)) s' := by
  rw [StepOf, run_map, h]
  rfl

theorem stepOf_of_error {e : Exit} (h : EStateM.run y s = .error e s') :
    StepOf (f <$> y) s (.left e) s' := by
  rw [StepOf, run_map, h]
  rfl

theorem StepOf.returned {v : Value} (h : StepOf (f <$> y) s (.returned v) s') :
    ∃ a, EStateM.run y s = .ok a s' ∧ f a = v := by
  rw [← run_map_eq_ok]
  rw [StepOf] at h
  cases hr : EStateM.run (f <$> y) s with
  | ok v' s₁ => rw [hr] at h; cases h; rfl
  | error e s₁ => rw [hr] at h; cases h

theorem StepOf.finalState_eq {r : Reply} (h : StepOf x s r s') :
    finalState (EStateM.run x s) = s' := by
  rw [StepOf] at h
  cases hr : EStateM.run x s with
  | ok v s₁ =>
    rw [hr] at h
    cases h
    rfl
  | error e s₁ =>
    rw [hr] at h
    cases h
    rfl

/-- What a function ensures however it ends relates the memories before and after. -/
theorem StepOf.of_ensures {R : σ → σ → Prop} (hx : Ensures R x) {r : Reply} (h : StepOf x s r s') :
    R s s' := h.finalState_eq ▸ hx s

end StepOf

end FakeFreeRtos
