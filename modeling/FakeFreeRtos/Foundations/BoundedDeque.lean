import Mathlib.Data.List.Basic

/-!
# Bounded double-ended queues

`BoundedDeque α` is a list of at most `capacity` items, the bound being a field. An item is pushed
at either end while there is room, and taken from the front. This is the reference that the
queues of a message-passing library are compared with.
-/

namespace Foundations

/-- The end of a deque at which an item is pushed. -/
inductive Side
  | back
  | front
  deriving DecidableEq

/-- A double-ended queue of at most `capacity` items. -/
structure BoundedDeque (α : Type*) where
  capacity : ℕ
  items : List α
  fits : items.length ≤ capacity

namespace BoundedDeque

variable {α : Type*}

/-- The items after pushing `a`. -/
def pushItems (l : List α) : Side → α → List α
  | .back, a => l ++ [a]
  | .front, a => a :: l

@[simp] theorem length_pushItems (l : List α) (e : Side) (a : α) :
    (pushItems l e a).length = l.length + 1 := by
  cases e <;> simp [pushItems]

theorem map_pushItems {β : Type*} (f : α → β) (l : List α) (e : Side) (a : α) :
    (pushItems l e a).map f = pushItems (l.map f) e (f a) := by
  cases e <;> simp [pushItems]

theorem mem_pushItems {l : List α} {e : Side} {a b : α} :
    b ∈ pushItems l e a ↔ b = a ∨ b ∈ l := by
  cases e <;> simp [pushItems, or_comm]

/-- Push `a` at the end `e`, or `none` when the deque is full. -/
def push? (d : BoundedDeque α) (e : Side) (a : α) : Option (BoundedDeque α) :=
  if h : d.items.length < d.capacity then
    some ⟨d.capacity, pushItems d.items e a, by rw [length_pushItems]; exact h⟩
  else none

/-- The front item and the deque without it, or `none` when there is none. -/
def pop? (d : BoundedDeque α) : Option (α × BoundedDeque α) :=
  d.items.head?.map fun a =>
    (a, ⟨d.capacity, d.items.tail, by have := d.fits; rw [List.length_tail]; omega⟩)

/-- The front item, left in place. -/
def peek? (d : BoundedDeque α) : Option α := d.items.head?

/-- How many items are waiting. -/
def waiting (d : BoundedDeque α) : ℕ := d.items.length

/-- How many more items fit. -/
def spaces (d : BoundedDeque α) : ℕ := d.capacity - d.items.length

@[ext] theorem ext {d d' : BoundedDeque α} (hc : d.capacity = d'.capacity)
    (hi : d.items = d'.items) : d = d' := by
  cases d; cases d'; simp_all

/-- A push is refused exactly when the deque is full. -/
theorem push?_eq_none_iff {d : BoundedDeque α} {e : Side} {a : α} :
    d.push? e a = none ↔ d.waiting = d.capacity := by
  have := d.fits
  simp only [push?, waiting, dite_eq_right_iff, reduceCtorEq, imp_false, Nat.not_lt]
  omega

theorem push?_eq_some_iff {d d' : BoundedDeque α} {e : Side} {a : α} :
    d.push? e a = some d' ↔
      d.items.length < d.capacity ∧ d'.capacity = d.capacity ∧
        d'.items = pushItems d.items e a := by
  by_cases h : d.items.length < d.capacity
  · simp only [push?, h, ↓reduceDIte, Option.some.injEq, true_and]
    exact ⟨fun hd => hd ▸ ⟨rfl, rfl⟩, fun hd => ext hd.1.symm hd.2.symm⟩
  · simp [push?, h]

theorem pop?_eq_none_iff {d : BoundedDeque α} : d.pop? = none ↔ d.items = [] := by
  simp [pop?]

theorem pop?_eq_some_iff {d d' : BoundedDeque α} {a : α} :
    d.pop? = some (a, d') ↔ d'.capacity = d.capacity ∧ d.items = a :: d'.items := by
  cases hi : d.items with
  | nil => simp [pop?, hi]
  | cons b l =>
    simp only [pop?, hi, List.head?_cons, List.tail_cons, Option.map_some, Option.some.injEq,
      Prod.mk.injEq, List.cons.injEq]
    constructor
    · rintro ⟨rfl, rfl⟩
      exact ⟨rfl, rfl, rfl⟩
    · rintro ⟨hc, rfl, hl⟩
      exact ⟨rfl, ext hc.symm hl⟩

end BoundedDeque

end Foundations
