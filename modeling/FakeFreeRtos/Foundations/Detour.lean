import Mathlib.Data.List.Basic

/-!
# Queued machines with detours

A machine is at a place of `α` and works off a queue of events. An event `goto b` sends it to `b`.
An event `detour` sends it away from its place; to come back, it posts `goto` of that place at the
front of its own queue. Every other event leaves it where it is.

Whatever is posted at the back, in any order with the steps of the machine: while it is away, the
way back is the first event of its queue (`Homed`); the place it is headed for is the one of the
last `goto` that was posted (`heading_post`, `heading_step`); and it comes to rest, since each step
lowers the `load`.
-/

namespace Foundations

/-- An event of a machine with detours. -/
inductive DetourEvent (α : Type*)
  | goto (a : α)
  | detour
  | other

/-- A machine is at a place, or away from it. -/
inductive DetourMode (α : Type*)
  | here (a : α)
  | away (a : α)

/-- Where the machine is, and the events it has still to process. -/
structure DetourMachine (α : Type*) where
  mode : DetourMode α
  queue : List (DetourEvent α)

/-- The place of a machine, whether it is there or away from it. -/
def DetourMode.place {α : Type*} : DetourMode α → α
  | here a | away a => a

namespace DetourMachine

variable {α : Type*}

/-- A client posts an event at the back. -/
def post (m : DetourMachine α) (e : DetourEvent α) : DetourMachine α :=
  { m with queue := m.queue ++ [e] }

/-- What the first event makes of the machine, when `rest` is queued behind it. -/
def handle (rest : List (DetourEvent α)) : DetourMode α → DetourEvent α → DetourMachine α
  | _, .goto b => ⟨.here b, rest⟩
  | .here a, .detour => ⟨.away a, .goto a :: rest⟩
  | mode, _ => ⟨mode, rest⟩

/-- One step, if there is an event. -/
def step? (m : DetourMachine α) : Option (DetourMachine α) :=
  match m.queue with
  | [] => none
  | e :: rest => some (handle rest m.mode e)

/-- Where an event sends a machine that is headed for `a`. -/
def headed (a : α) : DetourEvent α → α
  | .goto b => b
  | _ => a

/-- The place where the machine is at rest once it has worked off its queue. -/
def heading (m : DetourMachine α) : α := m.queue.foldl headed m.mode.place

/-- While the machine is away, the way back is the first event. -/
def Homed (m : DetourMachine α) : Prop :=
  ∀ a, m.mode = .away a → ∃ rest, m.queue = .goto a :: rest

/-- The steps that an event costs; a detour has to come back. -/
def cost : DetourEvent α → ℕ
  | .detour => 2
  | _ => 1

/-- A bound on the steps to come. -/
def load (m : DetourMachine α) : ℕ := m.queue.foldr (fun e n => cost e + n) 0

variable {m m' : DetourMachine α}

theorem heading_post (m : DetourMachine α) (e : DetourEvent α) :
    (m.post e).heading = headed m.heading e := by
  rw [heading, post, List.foldl_append, List.foldl_cons, List.foldl_nil, heading]

theorem step?_eq_none_iff : m.step? = none ↔ m.queue = [] := by
  rw [step?]
  cases m.queue <;> simp

/-- A step is the handling of the first event. -/
theorem step?_eq_some_iff :
    m.step? = some m' ↔ ∃ e rest, m.queue = e :: rest ∧ m' = handle rest m.mode e := by
  rw [step?]
  cases m.queue with
  | nil => simp
  | cons e rest =>
    rw [Option.some.injEq]
    constructor
    · rintro rfl
      exact ⟨e, rest, rfl, rfl⟩
    · rintro ⟨e', rest', he, rfl⟩
      obtain ⟨rfl, rfl⟩ := List.cons_eq_cons.mp he
      rfl

/-- **A step does not change where the machine is headed.** -/
theorem heading_step (h : m.step? = some m') : m'.heading = m.heading := by
  obtain ⟨e, rest, hqueue, rfl⟩ := step?_eq_some_iff.mp h
  rw [heading, heading, hqueue, List.foldl_cons]
  cases e with
  | goto b => rfl
  | other => cases m.mode <;> rfl
  | detour => cases m.mode <;> rfl

theorem Homed.post (h : m.Homed) (e : DetourEvent α) : (m.post e).Homed := fun a ha => by
  obtain ⟨rest, hqueue⟩ := h a ha
  exact ⟨rest ++ [e], by rw [DetourMachine.post, hqueue, List.cons_append]⟩

/-- **The way back stays first.** -/
theorem Homed.step (hm : m.Homed) (h : m.step? = some m') : m'.Homed := by
  obtain ⟨e, rest, hqueue, rfl⟩ := step?_eq_some_iff.mp h
  intro a ha
  cases hmode : m.mode with
  | here b =>
    rw [hmode] at ha
    cases e with
    | detour =>
      cases ha
      exact ⟨rest, rfl⟩
    | goto c => cases ha
    | other => cases ha
  | away b =>
    -- the first event is the way back, after which the machine is not away
    obtain ⟨rest', hback⟩ := hm b hmode
    obtain ⟨rfl, -⟩ := List.cons_eq_cons.mp (hqueue.symm.trans hback)
    cases ha

/-- **Each step lowers the load.** -/
theorem load_step (h : m.step? = some m') : m'.load < m.load := by
  obtain ⟨e, rest, hqueue, rfl⟩ := step?_eq_some_iff.mp h
  rw [load, load, hqueue, List.foldr_cons]
  cases e with
  | goto b => simp [handle, cost]
  | other => cases m.mode <;> simp [handle, cost]
  | detour =>
    cases m.mode with
    | here a => simp [handle, cost]
    | away a => simp [handle, cost]

/-- Nor does it lengthen the queue, even if it posts. -/
theorem length_step (h : m.step? = some m') : m'.queue.length ≤ m.queue.length := by
  obtain ⟨e, rest, hqueue, rfl⟩ := step?_eq_some_iff.mp h
  rw [hqueue, List.length_cons]
  cases e with
  | goto b => simp [handle]
  | other => cases m.mode <;> simp [handle]
  | detour => cases m.mode <;> simp [handle]

/-- A machine that has worked off its queue is where it was headed. -/
theorem mode_of_queue_eq_nil (hm : m.Homed) (hqueue : m.queue = []) :
    m.mode = .here m.heading := by
  rw [heading, hqueue, List.foldl_nil]
  cases hmode : m.mode with
  | here a => rfl
  | away a =>
    obtain ⟨rest, hback⟩ := hm a hmode
    rw [hqueue] at hback
    cases hback

end DetourMachine

end Foundations
