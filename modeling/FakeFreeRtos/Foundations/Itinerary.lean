import FakeFreeRtos.Foundations.Detour
import Mathlib.Data.List.Count
import Mathlib.Data.List.Induction

/-!
# The itinerary of a machine with detours

What can be seen of a machine with detours is where it arrives, and from where it departs on a
detour (`travels`). Over any run, with events posted in any order with the steps, the itinerary is
a walk (`Itinerary.step`): the machine never arrives where it is already, and after a detour it
arrives at the place it had left (`Itinerary.after_departed`, `Itinerary.after_arrived`). No detour
is forgotten or made twice: the departures so far and the detours still queued are the detours
that were posted (`departures_step`).
-/

namespace Foundations

open DetourMode

variable {α : Type*}

/-- What is seen of a machine. -/
inductive Travel (α : Type*)
  | arrived (a : α)
  | departed (a : α)
  deriving DecidableEq

/-- What is seen when the first event is handled. -/
def travels [DecidableEq α] : DetourMode α → DetourEvent α → List (Travel α)
  | here a, .goto b => if b = a then [] else [.arrived b]
  | away _, .goto b => [.arrived b]
  | here a, .detour => [.departed a]
  | _, _ => []

/-- Where a machine is after it has been seen to travel. -/
def Travel.mode : Travel α → DetourMode α
  | .arrived a => here a
  | .departed a => away a

/-- The place where a machine is seen. -/
def Travel.place : Travel α → α
  | .arrived a | .departed a => a

/-- How a machine can go on from a mode: to another place, or away, or back. -/
inductive Leads : DetourMode α → Travel α → Prop
  | goes {a b : α} (hne : b ≠ a) : Leads (here a) (.arrived b)
  | departs (a : α) : Leads (here a) (.departed a)
  | returns (a : α) : Leads (away a) (.arrived a)

/-- The walks that machines with detours make. -/
inductive Itinerary : DetourMode α → List (Travel α) → DetourMode α → Prop
  | start (mode : DetourMode α) : Itinerary mode [] mode
  | snoc {mode m : DetourMode α} {log : List (Travel α)} {t : Travel α} (h : Itinerary mode log m)
      (ht : Leads m t) : Itinerary mode (log ++ [t]) t.mode

namespace Itinerary

variable {mode mode' : DetourMode α} {log before after : List (Travel α)} {t : Travel α} {a : α}

theorem snoc_inv (h : Itinerary mode (log ++ [t]) mode') :
    mode' = t.mode ∧ ∃ m, Itinerary mode log m ∧ Leads m t := by
  generalize hl : log ++ [t] = l at h
  cases h with
  | start => simp at hl
  | @snoc m _ _ h ht =>
    obtain ⟨rfl, htt⟩ := List.append_inj' hl rfl
    obtain rfl := (List.cons.inj htt).1
    exact ⟨rfl, m, h, ht⟩

/-- A machine is where it was seen last, or away from there. -/
theorem place_eq (h : Itinerary (here a) log mode') :
    mode'.place = (log.getLast?.map Travel.place).getD a := by
  cases h with
  | start => rfl
  | snoc h ht =>
    rw [List.getLast?_concat, Option.map_some, Option.getD_some]
    cases ht <;> rfl

/-- A walk that starts at a place goes on from the arrival there. -/
theorem arrived (h : Itinerary (here a) log mode') :
    Itinerary (away a) (.arrived a :: log) mode' := by
  induction h with
  | start => exact (Itinerary.start (away a)).snoc (.returns a)
  | snoc _ ht ih => exact ih.snoc ht

/-- The first part of a walk is one. -/
theorem of_append (h : Itinerary mode (before ++ after) mode') : ∃ m, Itinerary mode before m := by
  induction after using List.reverseRecOn generalizing mode' with
  | nil => exact ⟨mode', by rwa [List.append_nil] at h⟩
  | append_singleton after t ih =>
    rw [← List.append_assoc] at h
    obtain ⟨-, m, h, -⟩ := h.snoc_inv
    exact ih h

/-- **Each step continues the walk.** -/
theorem step [DecidableEq α] {m m' : DetourMachine α} {e : DetourEvent α}
    {rest : List (DetourEvent α)} (h : Itinerary mode log m.mode) (hm : m.Homed)
    (hqueue : m.queue = e :: rest) (hm' : m' = DetourMachine.handle rest m.mode e) :
    Itinerary mode (log ++ travels m.mode e) m'.mode := by
  subst hm'
  cases hmode : m.mode with
  | here a =>
    rw [hmode] at h
    cases e with
    | goto b =>
      by_cases hb : b = a
      · subst hb
        simpa [travels, DetourMachine.handle] using h
      · simpa [travels, DetourMachine.handle, hb, Travel.mode] using h.snoc (.goes hb)
    | detour => exact h.snoc (.departs a)
    | other => simpa [travels, DetourMachine.handle] using h
  | away a =>
    -- the first event is the way back
    obtain ⟨rest', hback⟩ := hm a hmode
    obtain ⟨rfl, -⟩ := List.cons_eq_cons.mp (hqueue.symm.trans hback)
    rw [hmode] at h
    exact h.snoc (.returns a)

/-- **After a detour the machine arrives at the place it had left.** -/
theorem after_departed (h : Itinerary mode (before ++ .departed a :: t :: after) mode') :
    t = .arrived a := by
  rw [List.append_cons, List.append_cons] at h
  obtain ⟨m, h⟩ := h.of_append
  obtain ⟨-, m', h', ht⟩ := h.snoc_inv
  obtain rfl := h'.snoc_inv.1
  cases ht
  rfl

/-- **From a place the machine goes to another place, or departs from there.** -/
theorem after_arrived (h : Itinerary mode (before ++ .arrived a :: t :: after) mode') :
    t = .departed a ∨ ∃ b, t = .arrived b ∧ b ≠ a := by
  rw [List.append_cons, List.append_cons] at h
  obtain ⟨m, h⟩ := h.of_append
  obtain ⟨-, m', h', ht⟩ := h.snoc_inv
  obtain rfl := h'.snoc_inv.1
  cases ht with
  | goes hne => exact .inr ⟨_, rfl, hne⟩
  | departs => exact .inl rfl

end Itinerary

/-! ## Counting detours -/

def Travel.isDeparture : Travel α → Bool
  | .departed _ => true
  | .arrived _ => false

def DetourEvent.isDetour : DetourEvent α → Bool
  | .detour => true
  | _ => false

/-- The detours that a machine has still to make. -/
def DetourMachine.detours (m : DetourMachine α) : ℕ := m.queue.countP DetourEvent.isDetour

theorem DetourMachine.detours_post (m : DetourMachine α) (e : DetourEvent α) :
    (m.post e).detours = m.detours + if e.isDetour then 1 else 0 := by
  rw [DetourMachine.detours, DetourMachine.post, List.countP_append, List.countP_singleton]
  rfl

/-- **A step makes the detours that it takes from the queue.** -/
theorem departures_step [DecidableEq α] {m m' : DetourMachine α} {e : DetourEvent α}
    {rest : List (DetourEvent α)} (hm : m.Homed) (hqueue : m.queue = e :: rest)
    (hm' : m' = DetourMachine.handle rest m.mode e) :
    (travels m.mode e).countP Travel.isDeparture + m'.detours = m.detours := by
  subst hm'
  rw [DetourMachine.detours, DetourMachine.detours, hqueue, List.countP_cons]
  cases hmode : m.mode with
  | here a =>
    cases e with
    | goto b =>
      by_cases hb : b = a <;>
        simp [travels, hb, DetourMachine.handle, Travel.isDeparture, DetourEvent.isDetour]
    | detour =>
      simp [travels, DetourMachine.handle, Travel.isDeparture, DetourEvent.isDetour, Nat.add_comm]
    | other => simp [travels, DetourMachine.handle, DetourEvent.isDetour]
  | away a =>
    -- a machine that is away has its way back first, and no detour
    obtain ⟨rest', hback⟩ := hm a hmode
    obtain ⟨rfl, -⟩ := List.cons_eq_cons.mp (hqueue.symm.trans hback)
    simp [travels, DetourMachine.handle, Travel.isDeparture, DetourEvent.isDetour]

end Foundations
