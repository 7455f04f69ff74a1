import FakeFreeRtos.Model.Task

/-!
# Reading and moving the clock

The tick count is `s_tickCount` while the timers are inactive and is otherwise read back from the
engine's clock, in nanoseconds, through two truncating conversions. At the configured tick rate of
1000 Hz every conversion is exact while the clock fits its 64 bits (`readsExactly_of_lt`,
`convertsExactly_of_lt`), so that a delay of `n` ticks moves the tick count by `n`.
-/

namespace FakeFreeRtos

open Foundations

variable {T : Type} (P : Platform T)

/-! ## The functions on the clock -/

/-- The tick count. -/
def World.tickCount (w : World T) : TickType :=
  match w.s_fakeTimers with
  | some t =>
    pdMS_TO_TICKS P.configTICK_RATE_HZ (toUInt64 (toMilliseconds (P.getCurrentInternalTime t)))
  | none => w.s_tickCount

@[simp] theorem run_xTaskGetTickCount (w : World T) :
    EStateM.run (xTaskGetTickCount P) w = .ok (w.tickCount P) w := by
  cases h : w.s_fakeTimers <;>
    simp [xTaskGetTickCount, timersIsActive, getCurrentInternalTime, theTimers, h, World.tickCount]

theorem run_vTaskDelay_inactive {w : World T} (h : w.s_fakeTimers = none) (ticks : TickType) :
    EStateM.run (vTaskDelay P ticks) w =
      .ok () { w with s_tickCount := w.s_tickCount + ticks } := by
  simp [vTaskDelay, timersIsActive, h]

theorem run_vTaskDelay_active {w : World T} {t : T} (h : w.s_fakeTimers = some t) {ticks : TickType}
    (hfits : FitsInt64 (toInt64 (pdTICKS_TO_MS P.configTICK_RATE_HZ ticks) * 1000000)) :
    EStateM.run (vTaskDelay P ticks) w = .ok () { w with s_fakeTimers := some (P.moveTimeForward t
      (toInt64 (pdTICKS_TO_MS P.configTICK_RATE_HZ ticks) * 1000000)) } := by
  simp [vTaskDelay, timersIsActive, toNanoseconds, hfits, moveTimeForward, assertTimers, theTimers,
    updateTimers, h]

/-- The deadline is compared with the tick count; the variable is left as it is. -/
theorem run_xTaskDelayUntil (previous increment : TickType) (w : World T) :
    EStateM.run (xTaskDelayUntil P (some previous) increment) w =
      if previous + increment ≤ w.tickCount P then .ok (pdFALSE, some previous) w
      else EStateM.run ((fun _ => (pdTRUE, some previous)) <$>
        vTaskDelay P (previous + increment - w.tickCount P)) w := by
  rw [xTaskDelayUntil, EStateM.run_bind, run_configASSERT_of (by simp)]
  simp only [EStateM.run_bind, run_xTaskGetTickCount, Option.getD_some]
  split
  · rfl
  · rw [EStateM.run_bind, run_map]
    rfl

/-! ## Exact conversions -/

/-- Nothing overflows and nothing is cut off when a delay in ticks becomes nanoseconds. -/
structure ConvertsExactly (configTICK_RATE_HZ : UInt64) (ticks : TickType) : Prop where
  mul_lt : ticks.toNat * 1000 < 2 ^ 64
  div_mul : (pdTICKS_TO_MS configTICK_RATE_HZ ticks).toNat * configTICK_RATE_HZ.toNat =
    ticks.toNat * 1000
  signed : toInt64 (pdTICKS_TO_MS configTICK_RATE_HZ ticks) =
    (pdTICKS_TO_MS configTICK_RATE_HZ ticks).toNat
  fits : FitsInt64 (toInt64 (pdTICKS_TO_MS configTICK_RATE_HZ ticks) * 1000000)

/-- Nothing overflows, and nothing but the part below a tick is cut off, when a clock in nanoseconds
is read in ticks. -/
structure ReadsExactly (configTICK_RATE_HZ : UInt64) (ns : ℤ) : Prop where
  unsigned : ((toUInt64 (toMilliseconds ns)).toNat : ℤ) = toMilliseconds ns
  mul_lt : (toUInt64 (toMilliseconds ns)).toNat * configTICK_RATE_HZ.toNat < 2 ^ 64
  le : ((pdMS_TO_TICKS configTICK_RATE_HZ (toUInt64 (toMilliseconds ns))).toNat : ℤ) * 1000000000 ≤
    ns * configTICK_RATE_HZ.toNat
  lt : ns * configTICK_RATE_HZ.toNat <
    ((pdMS_TO_TICKS configTICK_RATE_HZ (toUInt64 (toMilliseconds ns))).toNat + 1 : ℤ) * 1000000000

theorem toInt64_of_lt {n : UInt64} (h : n.toNat < 2 ^ 63) : toInt64 n = n.toNat := by
  have hlt : 2 * n.toBitVec.toNat < 2 ^ 64 := by
    change 2 * n.toNat < 2 ^ 64
    omega
  exact BitVec.toInt_eq_toNat_of_lt hlt

theorem toNat_toUInt64 {x : ℤ} (h₀ : 0 ≤ x) (h : x < 2 ^ 63) : ((toUInt64 x).toNat : ℤ) = x := by
  rw [toUInt64, UInt64.toNat_ofNat', Int.emod_eq_of_lt h₀ (by omega),
    Nat.mod_eq_of_lt (by omega), Int.toNat_of_nonneg h₀]

theorem toNat_rate : (1000 : UInt64).toNat = 1000 := rfl

/-- At the configured rate a tick is a millisecond. -/
theorem toNat_mul_div_rate {n : UInt64} (h : n.toNat * 1000 < 2 ^ 64) :
    (n * 1000 / 1000).toNat = n.toNat := by
  rw [UInt64.toNat_div, UInt64.toNat_mul, toNat_rate, Nat.mod_eq_of_lt h,
    Nat.mul_div_cancel _ (by decide)]

/-- The delays that the clock has room for. -/
theorem convertsExactly_of_lt {n : TickType} (h : (n.toNat : ℤ) * 1000000 < 2 ^ 63) :
    ConvertsExactly 1000 n := by
  have hmul : n.toNat * 1000 < 2 ^ 64 := by omega
  have hms : (pdTICKS_TO_MS 1000 n).toNat = n.toNat := toNat_mul_div_rate hmul
  have hsigned : toInt64 (pdTICKS_TO_MS 1000 n) = (pdTICKS_TO_MS 1000 n).toNat :=
    toInt64_of_lt (by omega)
  refine ⟨hmul, by rw [hms, toNat_rate], hsigned, ?_⟩
  rw [hsigned, hms, FitsInt64]
  omega

/-- A clock that fits its 64 bits. -/
theorem readsExactly_of_lt {ns : ℤ} (h₀ : 0 ≤ ns) (h : ns < 2 ^ 63) :
    ReadsExactly 1000 ns ∧
      ((pdMS_TO_TICKS 1000 (toUInt64 (toMilliseconds ns))).toNat : ℤ) = ns / 1000000 := by
  have hdiv : toMilliseconds ns = ns / 1000000 := Int.tdiv_eq_ediv_of_nonneg h₀
  have hms : ((toUInt64 (toMilliseconds ns)).toNat : ℤ) = ns / 1000000 := by
    rw [toNat_toUInt64 (by omega) (by omega), hdiv]
  have hmul : (toUInt64 (toMilliseconds ns)).toNat * 1000 < 2 ^ 64 := by omega
  have hticks : (pdMS_TO_TICKS 1000 (toUInt64 (toMilliseconds ns))).toNat =
      (toUInt64 (toMilliseconds ns)).toNat := toNat_mul_div_rate hmul
  refine ⟨⟨by rw [hms, hdiv], by rw [toNat_rate]; exact hmul, ?_, ?_⟩, by rw [hticks, hms]⟩
  · rw [hticks, hms, toNat_rate]
    omega
  · rw [hticks, hms, toNat_rate]
    omega

end FakeFreeRtos
