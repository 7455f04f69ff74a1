import FakeFreeRtos.Clock.Ticks
import FakeFreeRtos.Model.Harness

/-!
# The length of a tick

A tick count is converted to a duration and back in several places. At every tick rate that divides
1000, the conversions of `vTaskDelay`, `TicksToChrono`, `xTaskGetTickCount`, `xTimerGetPeriod` and
`xTimerGetExpiryTime` describe the same tick (`conversionsAgree`). The tick that `TimersInit` hands
to the engine is `configTICK_RATE_HZ * 1/1000` milliseconds, the inverse of what it should be:
`tickLengthAgrees_iff` says that it is right at 1000 Hz only.
-/

namespace FakeFreeRtos

open Foundations

variable {T : Type} (P : Platform T)

/-- The variable `sysTick` of `TimersInit`, in milliseconds. -/
def Platform.sysTick : ℤ := P.configTICK_RATE_HZ.toNat * 1 / 1000

/-- The engine is constructed from `sysTick`. -/
theorem run_timersInit {w : World T} (hw : w.s_fakeTimers = none) :
    EStateM.run (timersInit P) w = .ok () { w with s_fakeTimers := some (P.new P.sysTick) } := by
  simp [timersInit, updateTimers, hw, Platform.sysTick]

/-- The conversions all describe the same duration of `n` ticks, in nanoseconds. -/
structure ConversionsAgree (n : TickType) (duration : ℤ) : Prop where
  ticksToChrono : ∀ w, EStateM.run (ticksToChrono P n) w = .ok duration w
  delay : ∀ w t, w.s_fakeTimers = some t →
    EStateM.run (vTaskDelay P n) w =
      .ok () { w with s_fakeTimers := some (P.moveTimeForward t duration) }
  tickCount : ∀ w t, w.s_fakeTimers = some t → P.getCurrentInternalTime t = duration →
    EStateM.run (xTaskGetTickCount P) w = .ok n w
  period : ∀ w t timer, w.s_fakeTimers = some t →
    P.timerGetPeriod t (pointerToHandle P timer) = duration →
    EStateM.run (xTimerGetPeriod P timer) w = .ok n w
  expiryTime : ∀ w t timer, w.s_fakeTimers = some t →
    P.timerGetExpiryTime t (pointerToHandle P timer) = duration →
    EStateM.run (xTimerGetExpiryTime P timer) w = .ok n w

/-- `n` steps of the tick that the engine is constructed from are what every conversion takes `n`
ticks for. -/
structure TickLengthAgrees (n : TickType) : Prop where
  constructed : ∀ w, w.s_fakeTimers = none →
    EStateM.run (timersInit P) w = .ok () { w with s_fakeTimers := some (P.new P.sysTick) }
  conversions : ConversionsAgree P n (n.toNat * (P.sysTick * 1000000))

/-- The duration of `n` ticks at a tick rate, in nanoseconds. -/
def tickDuration (configTICK_RATE_HZ : UInt64) (n : TickType) : ℤ :=
  n.toNat * 1000 / configTICK_RATE_HZ.toNat * 1000000

/-! ## Rates that divide 1000 -/

section Rate

variable {R : UInt64} {n : TickType} {k : ℕ} (hk : 1000 = R.toNat * k)

include hk

theorem rate_pos : 0 < R.toNat := by
  refine Nat.pos_of_ne_zero fun h0 => ?_
  rw [h0, Nat.zero_mul] at hk
  cases hk

theorem mul_div_rate (m : ℕ) : m * 1000 / R.toNat = m * k := by
  rw [hk, ← Nat.mul_assoc, Nat.mul_comm m, Nat.mul_assoc, Nat.mul_div_cancel_left _ (rate_pos hk)]

/-- A tick has `k` milliseconds. -/
theorem tickDuration_eq : tickDuration R n = ((n.toNat * k : ℕ) : ℤ) * 1000000 := by
  rw [tickDuration, ← mul_div_rate hk n.toNat, Int.natCast_ediv, Int.natCast_mul]
  rfl

variable (hn : FitsInt64 (tickDuration R n))

include hn

theorem milliseconds_lt : n.toNat * k < 2 ^ 44 := by
  have hlt := hn.2
  rw [tickDuration_eq hk] at hlt
  omega

theorem ticks_lt : n.toNat * 1000 < 2 ^ 64 := by
  have hms := milliseconds_lt hk hn
  have hR : R.toNat ≤ 1000 := Nat.le_of_dvd (by decide) ⟨k, hk⟩
  calc n.toNat * 1000 = R.toNat * (n.toNat * k) := by rw [hk, Nat.mul_left_comm]
    _ ≤ 1000 * (n.toNat * k) := Nat.mul_le_mul_right _ hR
    _ < 2 ^ 64 := by omega

theorem toNat_pdTICKS_TO_MS : (pdTICKS_TO_MS R n).toNat = n.toNat * k := by
  rw [pdTICKS_TO_MS, UInt64.toNat_div, UInt64.toNat_mul, toNat_rate,
    Nat.mod_eq_of_lt (ticks_lt hk hn), mul_div_rate hk]

/-- Ticks become nanoseconds exactly. -/
theorem toInt64_pdTICKS_TO_MS : toInt64 (pdTICKS_TO_MS R n) * 1000000 = tickDuration R n := by
  have hms := milliseconds_lt hk hn
  have htoNat := toNat_pdTICKS_TO_MS hk hn
  rw [toInt64_of_lt (by omega), htoNat, tickDuration_eq hk]

/-- And back. -/
theorem chronoToTicks_tickDuration :
    pdMS_TO_TICKS R (toUInt64 (toMilliseconds (tickDuration R n))) = n := by
  have hms := milliseconds_lt hk hn
  have hdiv : toMilliseconds (tickDuration R n) = (n.toNat * k : ℕ) := by
    rw [tickDuration_eq hk, toMilliseconds]
    exact Int.mul_tdiv_cancel _ (by decide)
  have htoNat : (toUInt64 ((n.toNat * k : ℕ) : ℤ)).toNat = n.toNat * k := by
    exact_mod_cast toNat_toUInt64 (x := ((n.toNat * k : ℕ) : ℤ)) (by omega) (by omega)
  have hback : n.toNat * k * R.toNat = n.toNat * 1000 := by
    rw [hk, Nat.mul_assoc, Nat.mul_comm k]
  rw [hdiv, ← UInt64.toNat_inj, pdMS_TO_TICKS, UInt64.toNat_div, UInt64.toNat_mul, toNat_rate,
    htoNat, hback, Nat.mod_eq_of_lt (ticks_lt hk hn), Nat.mul_div_cancel _ (by decide)]

end Rate

/-! ## What agrees -/

section Platform

variable {P} {n : TickType} (hR : P.configTICK_RATE_HZ.toNat ∣ 1000)
  (hn : FitsInt64 (tickDuration P.configTICK_RATE_HZ n))

include hR hn

theorem run_ticksToChrono (w : World T) :
    EStateM.run (ticksToChrono P n) w = .ok (tickDuration P.configTICK_RATE_HZ n) w := by
  obtain ⟨k, hk⟩ := hR
  rw [ticksToChrono, toNanoseconds, toInt64_pdTICKS_TO_MS hk hn, if_pos hn]
  rfl

/-- **The conversions describe the same tick**, at every rate that divides 1000. -/
theorem conversionsAgree : ConversionsAgree P n (tickDuration P.configTICK_RATE_HZ n) := by
  obtain ⟨k, hk⟩ := id hR
  have hms := toInt64_pdTICKS_TO_MS hk hn
  have hback := chronoToTicks_tickDuration hk hn
  refine ⟨run_ticksToChrono hR hn, fun w t hw => ?_, fun w t hw ht => ?_, fun w t timer hw ht => ?_,
    fun w t timer hw ht => ?_⟩
  · rw [run_vTaskDelay_active P hw (hms ▸ hn), hms]
  · simp only [run_xTaskGetTickCount, World.tickCount, hw, ht, hback]
  · simp [xTimerGetPeriod, assertTimers, theTimers, chronoToTicks, hw, ht, hback]
  · simp [xTimerGetExpiryTime, assertTimers, theTimers, chronoToTicks, hw, ht, hback]

/-- **The engine's tick is that of the other functions at 1000 Hz only.** At every tick rate that
divides 1000 and for every tick count whose duration is representable, `n` steps of the tick that
`TimersInit` passes to the engine are the duration that the other functions convert `n` ticks to
and back from, if and only if the rate is 1000 Hz or `n` is 0. -/
theorem tickLengthAgrees_iff :
    TickLengthAgrees P n ↔ P.configTICK_RATE_HZ = 1000 ∨ n = 0 := by
  have hconv := conversionsAgree hR hn
  obtain ⟨k, hk⟩ := id hR
  have hduration := tickDuration_eq (n := n) hk
  have hrate : P.configTICK_RATE_HZ = 1000 ↔ P.configTICK_RATE_HZ.toNat = 1000 := by
    rw [← UInt64.toNat_inj, toNat_rate]
  have hzero : n = 0 ↔ n.toNat = 0 := by rw [← UInt64.toNat_inj, UInt64.toNat_zero]
  have hpos := rate_pos hk
  have hle : P.configTICK_RATE_HZ.toNat ≤ 1000 := Nat.le_of_dvd (by decide) hR
  rw [hrate, hzero]
  constructor
  · intro hagrees
    -- both durations are those of `TicksToChrono`
    have heq := (hagrees.conversions.ticksToChrono World.start).symm.trans
      (hconv.ticksToChrono World.start)
    obtain ⟨hsteps, -⟩ := EStateM.Result.ok.inj heq
    by_contra hnot
    obtain ⟨hne, hn0⟩ := not_or.mp hnot
    have hsysTick : P.sysTick = 0 := by
      rw [Platform.sysTick, mul_one]
      omega
    rw [hsysTick, hduration] at hsteps
    have hk0 : k ≠ 0 := by
      rintro rfl
      cases hk
    have hmul : n.toNat * k = 0 := by omega
    exact (Nat.mul_ne_zero hn0 hk0) hmul
  · intro h
    have hsteps : (n.toNat : ℤ) * (P.sysTick * 1000000) =
        tickDuration P.configTICK_RATE_HZ n := by
      rw [hduration]
      rcases h with h | h
      · have hsysTick : P.sysTick = 1 := by
          rw [Platform.sysTick, mul_one]
          omega
        have hk1 : k = 1 := by
          rw [h] at hk
          omega
        rw [hsysTick, hk1, one_mul, Nat.mul_one]
      · rw [h, Nat.zero_mul]
        simp
    refine ⟨fun _ => run_timersInit P, ?_⟩
    rw [hsteps]
    exact hconv

end Platform

/-- At the configured rate, 5 ticks. -/
theorem tickLengthAgrees_standard : TickLengthAgrees Platform.standard 5 :=
  (tickLengthAgrees_iff (by decide) (by decide)).mpr (.inl rfl)

/-- The configuration of the repository but for the tick rate, which is 500 Hz. -/
def Platform.halfRate : Platform ℤ := { Platform.standard with configTICK_RATE_HZ := 500 }

/-- At 500 Hz the engine is constructed from a tick of no length, where a tick has two
milliseconds. -/
theorem not_tickLengthAgrees_halfRate :
    Platform.halfRate.configTICK_RATE_HZ.toNat ∣ 1000 ∧
      FitsInt64 (tickDuration Platform.halfRate.configTICK_RATE_HZ 1) ∧
      Platform.halfRate.sysTick = 0 ∧
      EStateM.run (ticksToChrono Platform.halfRate 1) World.start = .ok 2000000 World.start ∧
      ¬ TickLengthAgrees Platform.halfRate 1 := by
  have hchrono : EStateM.run (ticksToChrono Platform.halfRate 1) World.start =
      .ok 2000000 World.start := by decide +kernel
  refine ⟨by decide, by decide, by decide, hchrono, fun hagrees => ?_⟩
  have heq := (hagrees.conversions.ticksToChrono World.start).symm.trans hchrono
  exact absurd (EStateM.Result.ok.inj heq).1 (by decide)

end FakeFreeRtos
