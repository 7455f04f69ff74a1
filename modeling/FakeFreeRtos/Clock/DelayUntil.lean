import FakeFreeRtos.Clock.Ticks
import FakeFreeRtos.Model.Harness

/-!
# Periodic tasks

A periodic task reads the tick count once, then works for a while and calls `xTaskDelayUntil` on
the variable that holds the last wake time, again and again. For a drift-free period each call
should move that variable on by one increment, whether or not it sleeps (`DriftFree`). It never
does: every call measures its deadline from the variable's first value (`rounds_last`), so the
period is kept by no task that calls it at all (`driftFree_iff`).
-/

namespace FakeFreeRtos

open Foundations

variable {T : Type} (P : Platform T)

/-- One call of `xTaskDelayUntil`, as the task sees it: the tick at which it was called, the answer,
the variable afterwards, and the tick at which it returned. -/
structure Wake where
  called : TickType
  answer : BaseType
  last : TickType
  returned : TickType
  deriving DecidableEq

/-- The rounds of a periodic task whose variable holds `last`, with the ticks spent in each. -/
def rounds (increment : TickType) : List TickType → TickType → WorldApi T (List Wake)
  | [], _ => pure []
  | spent :: rest, last => do
    vTaskDelay P spent
    let called ← xTaskGetTickCount P
    let r ← xTaskDelayUntil P (some last) increment
    let returned ← xTaskGetTickCount P
    let wakes ← rounds increment rest (r.2.getD last)
    pure (⟨called, r.1, r.2.getD last, returned⟩ :: wakes)

/-- A periodic task: the tick at which it starts, its rounds, and the tick at which it ends. -/
def periodicTask (increment : TickType) (spent : List TickType) :
    WorldApi T (TickType × List Wake × TickType) := do
  let start ← xTaskGetTickCount P
  let wakes ← rounds P increment spent start
  let final ← xTaskGetTickCount P
  pure (start, wakes, final)

/-- What is asked of the `n`th call of a task that started at `start`. -/
structure Wake.OnSchedule (wake : Wake) (start increment : TickType) (n : ℕ) : Prop where
  last : wake.last.toNat = start.toNat + n * increment.toNat
  answer : wake.answer = pdTRUE ↔ wake.called.toNat < start.toNat + n * increment.toNat
  returned : wake.answer = pdTRUE → wake.returned.toNat = start.toNat + n * increment.toNat

/-- The task keeps its period: every call is on schedule, and so is the end when no round takes
longer than the period. -/
def DriftFree (w : World T) (increment : TickType) (spent : List TickType) : Prop :=
  ∃ (start : TickType) (wakes : List Wake) (final : TickType) (w' : World T),
    EStateM.run (periodicTask P increment spent) w = .ok (start, wakes, final) w' ∧
    wakes.length = spent.length ∧
    (∀ i, ∀ wake : Wake, wakes[i]? = some wake → wake.OnSchedule start increment (i + 1)) ∧
    ((∀ n ∈ spent, n < increment) →
      final.toNat = start.toNat + spent.length * increment.toNat)

/-! ## What the calls do -/

/-- One round: the deadline is one increment after the variable's value, which stays. -/
theorem run_rounds_cons {increment spent : TickType} {rest : List TickType} {last : TickType}
    {w w' : World T} {wakes : List Wake}
    (h : EStateM.run (rounds P increment (spent :: rest) last) w = .ok wakes w') :
    ∃ w₁ w₂ wake wakes', wakes = wake :: wakes' ∧
      EStateM.run (vTaskDelay P spent) w = .ok () w₁ ∧ wake.called = w₁.tickCount P ∧
      wake.last = last ∧ (wake.answer = pdTRUE ↔ ¬ last + increment ≤ wake.called) ∧
      EStateM.run (rounds P increment rest last) w₂ = .ok wakes' w' := by
  rw [rounds, EStateM.run_bind] at h
  cases hspend : EStateM.run (vTaskDelay P spent) w with
  | error e w₁ => rw [hspend] at h; cases h
  | ok _ w₁ =>
    rw [hspend] at h
    simp only [EStateM.run_bind, run_xTaskGetTickCount, run_xTaskDelayUntil] at h
    by_cases hle : last + increment ≤ w₁.tickCount P
    · simp only [if_pos hle, Option.getD_some] at h
      cases hrest : EStateM.run (rounds P increment rest last) w₁ with
      | error e w₂ => rw [hrest] at h; cases h
      | ok wakes' w₂ =>
        rw [hrest] at h
        cases h
        exact ⟨w₁, w₁, _, _, rfl, rfl, rfl, rfl,
          iff_of_false pdTRUE_ne_pdFALSE.symm (not_not.mpr hle), hrest⟩
    · simp only [if_neg hle, run_map] at h
      cases hsleep : EStateM.run (vTaskDelay P (last + increment - w₁.tickCount P)) w₁ with
      | error e w₂ => rw [hsleep] at h; cases h
      | ok _ w₂ =>
        simp only [hsleep, Option.getD_some] at h
        cases hrest : EStateM.run (rounds P increment rest last) w₂ with
        | error e w₃ => rw [hrest] at h; cases h
        | ok wakes' w₃ =>
          rw [hrest] at h
          cases h
          exact ⟨w₁, w₂, _, _, rfl, rfl, rfl, rfl, iff_of_true rfl hle, hrest⟩

/-- **Every call measures its deadline from the first value of the variable.** -/
theorem rounds_last {increment last : TickType} {spent : List TickType} {w w' : World T}
    {wakes : List Wake} (h : EStateM.run (rounds P increment spent last) w = .ok wakes w') :
    ∀ wake ∈ wakes, wake.last = last ∧
      (wake.answer = pdTRUE ↔ ¬ last + increment ≤ wake.called) := by
  induction spent generalizing w wakes with
  | nil =>
    cases h
    exact fun _ hw => by cases hw
  | cons n rest ih =>
    obtain ⟨-, w₂, wake, wakes', rfl, -, -, hlast, hanswer, hrest⟩ := run_rounds_cons P h
    intro x hx
    rcases List.mem_cons.mp hx with rfl | hx
    · exact ⟨hlast, hanswer⟩
    · exact ih hrest x hx

/-- **When a periodic task keeps its period**: with a positive increment, exactly when it never
calls `xTaskDelayUntil`, with the timers active or not. -/
theorem driftFree_iff (w : World T) {increment : TickType} (hinc : 0 < increment)
    (spent : List TickType) : DriftFree P w increment spent ↔ spent = [] := by
  constructor
  · rintro ⟨start, wakes, final, w', hrun, hlen, hsched, -⟩
    by_contra hne
    obtain ⟨n, rest, rfl⟩ := List.exists_cons_of_ne_nil hne
    rw [periodicTask, EStateM.run_bind, run_xTaskGetTickCount] at hrun
    cases hrounds : EStateM.run (rounds P increment (n :: rest) (w.tickCount P)) w with
    | error e w₁ => simp [hrounds] at hrun
    | ok wakes₁ w₁ =>
      simp only [EStateM.run_bind, hrounds, run_xTaskGetTickCount, EStateM.run_pure] at hrun
      obtain ⟨rfl, rfl, -⟩ : w.tickCount P = start ∧ wakes₁ = wakes ∧ w₁.tickCount P = final := by
        simpa using (EStateM.Result.ok.inj hrun).1
      obtain ⟨-, -, wake, wakes', rfl, -, -, hlast, -, -⟩ := run_rounds_cons P hrounds
      -- the first call leaves the variable at the start, not one increment later
      have hfirst := (hsched 0 wake rfl).last
      rw [hlast, Nat.zero_add, Nat.one_mul] at hfirst
      have hpos : 0 < increment.toNat := UInt64.lt_iff_toNat_lt.mp hinc
      omega
  · rintro rfl
    refine ⟨w.tickCount P, [], w.tickCount P, w, ?_, rfl, ?_, fun _ => ?_⟩
    · simp [periodicTask, rounds]
    · exact fun i wake hi => by simp at hi
    · rw [List.length_nil, Nat.zero_mul, Nat.add_zero]

/-- With the timers inactive: a task that never calls it, and one that calls it twice. -/
theorem driftFree_standard : DriftFree Platform.standard World.start 10 [] ∧
    ¬ DriftFree Platform.standard World.start 10 [3, 3] :=
  ⟨(driftFree_iff Platform.standard World.start (by decide) []).mpr rfl,
    mt (driftFree_iff Platform.standard World.start (by decide) [3, 3]).mp (by decide)⟩

/-- A task with a period of 10 ticks that works for 3 ticks in each round. Its first call sleeps
until tick 10, as it should; its second does not sleep until tick 20, since tick 10 is over. The
timers make no difference. -/
theorem not_driftFree_threeOfTen :
    (∃ w : World ℤ, EStateM.run (periodicTask Platform.standard 10 [3, 3]) World.start =
      .ok (0, [⟨3, pdTRUE, 0, 10⟩, ⟨13, pdFALSE, 0, 13⟩], 13) w) ∧
    (∃ w : World ℤ, EStateM.run (periodicTask Platform.standard 10 [3, 3])
      { (World.start : World ℤ) with s_fakeTimers := some 0 } =
      .ok (0, [⟨3, pdTRUE, 0, 10⟩, ⟨13, pdFALSE, 0, 13⟩], 13) w) ∧
    ¬ DriftFree Platform.standard World.start 10 [3, 3] := by
  have hrun : EStateM.run (periodicTask Platform.standard 10 [3, 3]) World.start =
      .ok (0, [⟨3, pdTRUE, 0, 10⟩, ⟨13, pdFALSE, 0, 13⟩], 13)
        { (World.start : World ℤ) with s_tickCount := 13 } := by decide +kernel
  refine ⟨⟨_, hrun⟩, ⟨{ (World.start : World ℤ) with s_fakeTimers := some 13000000 }, ?_⟩, ?_⟩
  · decide +kernel
  rintro ⟨start, wakes, final, w', hrun', -, hsched, -⟩
  obtain ⟨he, -⟩ := EStateM.Result.ok.inj (hrun.symm.trans hrun')
  cases he
  exact absurd (hsched 0 _ rfl).last (by decide)

end FakeFreeRtos
