import Mathlib.Data.List.Basic

/-!
# Lanes of a merged queue

A queue of items, each with a key, merges the lanes of its keys (`lane`). What is pushed goes to
the end of its lane, and the head of the queue is the head of its lane.
-/

namespace Foundations

variable {κ α : Type*} [DecidableEq κ]

/-- The items with the key `k`, in order. -/
def lane (l : List (κ × α)) (k : κ) : List α := (l.filter (·.1 = k)).map Prod.snd

@[simp] theorem lane_nil (k : κ) : lane ([] : List (κ × α)) k = [] := rfl

@[simp] theorem lane_append (l l' : List (κ × α)) (k : κ) :
    lane (l ++ l') k = lane l k ++ lane l' k := by
  simp [lane]

@[simp] theorem lane_cons_self (k : κ) (a : α) (l : List (κ × α)) :
    lane ((k, a) :: l) k = a :: lane l k := by
  simp [lane]

theorem lane_cons_of_ne {k k' : κ} (h : k' ≠ k) (a : α) (l : List (κ × α)) :
    lane ((k', a) :: l) k = lane l k := by
  simp [lane, h]

theorem lane_eq_nil {l : List (κ × α)} {k : κ} (h : k ∉ l.map Prod.fst) : lane l k = [] := by
  unfold lane
  rw [List.map_eq_nil_iff, List.filter_eq_nil_iff]
  intro p hp
  simp only [decide_eq_true_eq]
  rintro rfl
  exact h (List.mem_map_of_mem hp)

end Foundations
