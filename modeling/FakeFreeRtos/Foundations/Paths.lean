import Mathlib.Logic.Relation

/-!
# Paths that leave a point once

A path of a relation that starts at `k`, or passes through it, can be cut so that it leaves `k` at
its first step only.
-/

namespace Foundations

open Relation

variable {α : Type*} {r : α → α → Prop}

/-- The steps that do not leave `k`. -/
def Avoiding (r : α → α → Prop) (k : α) : α → α → Prop := fun y z => r y z ∧ y ≠ k

theorem reflTransGen_avoiding_or {a x : α} (h : ReflTransGen r a x) (k : α) :
    ReflTransGen (Avoiding r k) a x ∨ ∃ c, r k c ∧ ReflTransGen (Avoiding r k) c x := by
  induction h using ReflTransGen.head_induction_on with
  | refl => exact .inl .refl
  | @head y z hyz _ ih =>
    rcases ih with hz | hk
    · by_cases hy : y = k
      · exact .inr ⟨z, hy ▸ hyz, hz⟩
      · exact .inl (.head ⟨hyz, hy⟩ hz)
    · exact .inr hk

/-- A path from `k` to another point leaves `k` at its first step only. -/
theorem exists_avoiding_of_ne {k x : α} (h : ReflTransGen r k x) (hne : x ≠ k) :
    ∃ c, r k c ∧ ReflTransGen (Avoiding r k) c x := by
  refine (reflTransGen_avoiding_or h k).resolve_left fun hk => ?_
  rcases hk.cases_head with he | ⟨c, hc, -⟩
  · exact hne he.symm
  · exact hc.2 rfl

/-- A cycle through `k` leaves `k` at its first step only. -/
theorem exists_avoiding_of_cycle {k : α} (h : TransGen r k k) :
    ∃ c, r k c ∧ ReflTransGen (Avoiding r k) c k := by
  obtain ⟨b, hb, hbk⟩ := TransGen.head'_iff.mp h
  rcases reflTransGen_avoiding_or hbk k with hc | hc
  · exact ⟨b, hb, hc⟩
  · exact hc

end Foundations
