import FakeFreeRtos.Clock.Ticks
import FakeFreeRtos.Model.Harness

/-!
# The two time sources agree

A task that delays sees the same ticks whether the timers are active, the time being kept by the
engine in nanoseconds, or inactive, the time being kept in `s_tickCount`. What a time source is for
is said by an abstract clock that counts ticks in `ℕ` (`IsClock`), from which everything that a run
of calls shows follows (`IsClock.run`). Both time sources are clocks: the counter is its value
(`isClock_counter`), the engine's time is its value and a rest below one tick (`isClock_engine`).
`clocks_agree` puts the two together.
-/

namespace FakeFreeRtos

open Foundations

variable {T : Type} (P : Platform T)

/-! ## A task that delays -/

/-- A call of the task, whose variable holds the last wake time. -/
inductive TickCall
  | delay (ticks : TickType)
  | delayUntil (increment : TickType)

/-- What the task sees after a call: the tick count, its variable and the answer, if there is
one. -/
structure Seen where
  tick : TickType
  previous : TickType
  answer : Option BaseType

/-- The memory, and the variable of the task. -/
structure Sleeper (T : Type) where
  world : World T
  previous : TickType

/-- The value of the variable after a call, and the answer. -/
def TickCall.exec (previous : TickType) : TickCall → WorldApi T (TickType × Option BaseType)
  | .delay ticks => (fun _ => (previous, none)) <$> vTaskDelay P ticks
  | .delayUntil increment =>
    (fun r => (r.2.getD previous, some r.1)) <$> xTaskDelayUntil P (some previous) increment

/-- One call, after which the task reads the tick count. -/
def Sleeper.Step (s : Sleeper T) (c : TickCall) (o : Seen) (s' : Sleeper T) : Prop :=
  EStateM.run (c.exec P s.previous) s.world = .ok (s'.previous, o.answer) s'.world ∧
    EStateM.run (xTaskGetTickCount P) s'.world = .ok o.tick s'.world ∧ o.previous = s'.previous

/-- The ticks that a call made with the tick count `s` delays by. -/
def TickCall.delayed (s : Sleeper T) : TickCall → TickType
  | .delay ticks => ticks
  | .delayUntil increment =>
    if s.previous + increment ≤ s.world.tickCount P then 0
    else s.previous + increment - s.world.tickCount P

variable {P}

theorem Sleeper.Step.deterministic {s s₁ s₂ : Sleeper T} {c : TickCall} {o : Seen}
    (h₁ : s.Step P c o s₁) (h₂ : s.Step P c o s₂) : s₁ = s₂ := by
  obtain ⟨w₁, p₁⟩ := s₁
  obtain ⟨w₂, p₂⟩ := s₂
  obtain ⟨hp, rfl⟩ := EStateM.Result.ok.inj (h₁.1.symm.trans h₂.1)
  obtain ⟨rfl, -⟩ := Prod.mk.inj hp
  rfl

/-! ## The abstract clock -/

/-- The ticks for which a call made at tick `now` sleeps. -/
def TickCall.elapsed (previous : TickType) (now : ℕ) : TickCall → ℕ
  | .delay ticks => ticks.toNat
  | .delayUntil increment => (previous + increment).toNat - now

/-- What the task sees after a call made at tick `now`. -/
def TickCall.seen (previous : TickType) (now : ℕ) (c : TickCall) : Seen where
  tick := UInt64.ofNat (now + c.elapsed previous now)
  previous := previous
  answer := match c with
    | .delay _ => none
    | .delayUntil increment => some (if (previous + increment).toNat ≤ now then pdFALSE else pdTRUE)

/-- The ticks for which the calls sleep altogether. -/
def simulated (previous : TickType) : ℕ → List TickCall → ℕ
  | _, [] => 0
  | now, c :: cs =>
    c.elapsed previous now + simulated previous (now + c.elapsed previous now) cs

/-- The calls, and what the task sees after each. -/
def seenTrace (previous : TickType) : ℕ → List TickCall → List (TickCall × Seen)
  | _, [] => []
  | now, c :: cs =>
    (c, c.seen previous now) :: seenTrace previous (now + c.elapsed previous now) cs

theorem map_fst_seenTrace (previous : TickType) (now : ℕ) (cs : List TickCall) :
    (seenTrace previous now cs).map Prod.fst = cs := by
  induction cs generalizing now with
  | nil => rfl
  | cons c cs ih => rw [seenTrace, List.map_cons, ih]

/-- `R` relates memories to the value of a clock that runs up to `limit`: the tick count is that
value, and a delay moves it on. -/
structure IsClock (P : Platform T) (limit : ℕ) (R : World T → ℕ → Prop) : Prop where
  limit_lt : limit < 2 ^ 64
  tickCount : ∀ w now, R w now → (w.tickCount P).toNat = now
  delay : ∀ w now (ticks : TickType), R w now → now + ticks.toNat ≤ limit →
    ∃ w', EStateM.run (vTaskDelay P ticks) w = .ok () w' ∧ R w' (now + ticks.toNat)

namespace IsClock

variable {limit : ℕ} {R : World T → ℕ → Prop}

/-- What a call delays by is what the clock says. -/
theorem toNat_delayed (hR : IsClock P limit R) {w : World T} {now : ℕ} (hw : R w now)
    (previous : TickType) (c : TickCall) :
    (c.delayed P ⟨w, previous⟩).toNat = c.elapsed previous now := by
  cases c with
  | delay ticks => rfl
  | delayUntil increment =>
    have hnow := hR.tickCount w now hw
    simp only [TickCall.delayed, TickCall.elapsed]
    split
    · rename_i hle
      rw [UInt64.le_iff_toNat_le, hnow] at hle
      rw [UInt64.toNat_zero, Nat.sub_eq_zero_of_le hle]
    · rename_i hlt
      rw [UInt64.toNat_sub_of_le _ _ (UInt64.le_of_lt (UInt64.not_le.mp hlt)), hnow]

/-- One call on a clock that has room for it. -/
theorem step (hR : IsClock P limit R) {w : World T} {now : ℕ} (previous : TickType)
    (c : TickCall) (hw : R w now) (hfits : now + c.elapsed previous now ≤ limit) :
    ∃ w', Sleeper.Step P ⟨w, previous⟩ c (c.seen previous now) ⟨w', previous⟩ ∧
      R w' (now + c.elapsed previous now) := by
  have hlimit := hR.limit_lt
  have htick : ∀ w', R w' (now + c.elapsed previous now) →
      EStateM.run (xTaskGetTickCount P) w' = .ok (c.seen previous now).tick w' := by
    intro w' hw'
    have htoNat : (c.seen previous now).tick.toNat = now + c.elapsed previous now :=
      UInt64.toNat_ofNat_of_lt' (by rw [UInt64.size]; omega)
    have he : w'.tickCount P = (c.seen previous now).tick := by
      rw [← UInt64.toNat_inj, hR.tickCount w' _ hw', htoNat]
    rw [run_xTaskGetTickCount, he]
  cases c with
  | delay ticks =>
    obtain ⟨w', hrun, hw'⟩ := hR.delay w now ticks hw hfits
    refine ⟨w', ⟨?_, htick w' hw', rfl⟩, hw'⟩
    rw [TickCall.exec, run_map, hrun]
    rfl
  | delayUntil increment =>
    have hnow := hR.tickCount w now hw
    have hiff : previous + increment ≤ w.tickCount P ↔ (previous + increment).toNat ≤ now := by
      rw [UInt64.le_iff_toNat_le, hnow]
    by_cases hle : (previous + increment).toNat ≤ now
    · have hzero : TickCall.elapsed previous now (.delayUntil increment) = 0 :=
        Nat.sub_eq_zero_of_le hle
      have hw' : R w (now + TickCall.elapsed previous now (.delayUntil increment)) := by
        rwa [hzero, Nat.add_zero]
      refine ⟨w, ⟨?_, htick w hw', rfl⟩, hw'⟩
      rw [TickCall.exec, run_map, run_xTaskDelayUntil, if_pos (hiff.mpr hle)]
      simp only [TickCall.seen, if_pos hle, Option.getD_some]
    · have hdelayed : (previous + increment - w.tickCount P).toNat =
          TickCall.elapsed previous now (.delayUntil increment) := by
        have hd := hR.toNat_delayed hw previous (.delayUntil increment)
        rwa [TickCall.delayed, if_neg (mt hiff.mp hle)] at hd
      obtain ⟨w', hrun, hw'⟩ := hR.delay w now _ hw (hdelayed ▸ hfits)
      rw [hdelayed] at hw'
      refine ⟨w', ⟨?_, htick w' hw', rfl⟩, hw'⟩
      rw [TickCall.exec, run_map, run_xTaskDelayUntil, if_neg (mt hiff.mp hle), run_map, hrun]
      simp only [TickCall.seen, if_neg hle, Option.getD_some]

/-- **What a run of calls shows is determined by the clock**, as long as the clock has room; every
state on the way is at some value of the clock, which has room for every delay. -/
theorem run (hR : IsClock P limit R) (previous : TickType) (cs : List TickCall) {w : World T}
    {now : ℕ} (hw : R w now) (hfits : now + simulated previous now cs ≤ limit) :
    (∃ w', Run (Sleeper.Step P) ⟨w, previous⟩ (seenTrace previous now cs) ⟨w', previous⟩) ∧
    EveryState (Sleeper.Step P) (fun s => ∃ n, R s.world n) ⟨w, previous⟩
      (seenTrace previous now cs) ∧
    EveryStep (Sleeper.Step P) (fun s c => (c.delayed P s).toNat ≤ limit) ⟨w, previous⟩
      (seenTrace previous now cs) := by
  induction cs generalizing w now with
  | nil => exact ⟨⟨w, .nil _⟩, everyState_nil.mpr ⟨now, hw⟩, everyStep_nil⟩
  | cons c cs ih =>
    rw [simulated] at hfits
    obtain ⟨w₁, hstep, hw₁⟩ := hR.step previous c hw (by omega)
    obtain ⟨⟨w', hrun⟩, hstates, hsteps⟩ := ih hw₁ (by omega)
    have hdet : ∀ s₁ s₂, Sleeper.Step P ⟨w, previous⟩ c (c.seen previous now) s₁ →
        Sleeper.Step P ⟨w, previous⟩ c (c.seen previous now) s₂ → s₁ = s₂ :=
      fun _ _ h₁ h₂ => h₁.deterministic h₂
    refine ⟨⟨w', .cons hstep hrun⟩, ?_, ?_⟩
    · exact (everyState_cons hdet hstep).mpr ⟨⟨now, hw⟩, hstates⟩
    · refine (everyStep_cons hdet hstep).mpr ⟨?_, hsteps⟩
      rw [hR.toNat_delayed hw]
      omega

end IsClock

/-! ## The two time sources -/

/-- The timers are inactive and the counter is `now`. -/
def World.Counts (w : World T) (now : ℕ) : Prop := w.s_fakeTimers = none ∧ w.s_tickCount.toNat = now

theorem isClock_counter {limit : ℕ} (hlimit : limit < 2 ^ 64) :
    IsClock P limit World.Counts := by
  refine ⟨hlimit, ?_, ?_⟩
  · rintro w now ⟨hnone, rfl⟩
    rw [World.tickCount, hnone]
  · rintro w now ticks ⟨hnone, rfl⟩ hfits
    refine ⟨_, run_vTaskDelay_inactive P hnone ticks, hnone, ?_⟩
    rw [UInt64.toNat_add, Nat.mod_eq_of_lt (by omega)]

/-- The timers are active, and the engine's time is `now` ticks and `rest` nanoseconds. -/
def World.KeepsTime (P : Platform T) (rest : ℤ) (w : World T) (now : ℕ) : Prop :=
  ∃ t, w.s_fakeTimers = some t ∧ P.getCurrentInternalTime t = now * 1000000 + rest

/-- The engine advances its clock by exactly the duration it is given. -/
def FakeTimers.MovesExactly (F : FakeTimers T) : Prop :=
  ∀ t d, 0 ≤ d → F.getCurrentInternalTime (F.moveTimeForward t d) = F.getCurrentInternalTime t + d

theorem isClock_engine (hrate : P.configTICK_RATE_HZ = 1000) (hmove : P.MovesExactly) (rest : ℤ)
    (hrest : 0 ≤ rest ∧ rest < 1000000) {limit : ℕ}
    (hlimit : (limit : ℤ) * 1000000 + rest < 2 ^ 63) :
    IsClock P limit fun w now => w.KeepsTime P rest now ∧ now ≤ limit := by
  refine ⟨by omega, ?_, ?_⟩
  · rintro w now ⟨⟨t, ht, htime⟩, hle⟩
    have h₀ : 0 ≤ P.getCurrentInternalTime t := by omega
    have hread := (readsExactly_of_lt h₀ (by omega)).2
    rw [World.tickCount, ht]
    simp only [hrate]
    omega
  · rintro w now ticks ⟨⟨t, ht, htime⟩, hle⟩ hfits
    have hconv : ConvertsExactly P.configTICK_RATE_HZ ticks :=
      hrate ▸ convertsExactly_of_lt (by omega)
    have hms : (pdTICKS_TO_MS P.configTICK_RATE_HZ ticks).toNat = ticks.toNat := by
      have := hconv.div_mul
      rw [hrate, toNat_rate] at this
      rw [hrate]
      omega
    refine ⟨_, run_vTaskDelay_active P ht hconv.fits, ⟨_, rfl, ?_⟩, hfits⟩
    rw [hmove _ _ (by rw [hconv.signed]; omega), htime, hconv.signed, hms]
    push_cast
    omega

/-- **The two time sources agree.** The calls are made once with the timers active and once with
the timers inactive, from the same tick count. If the engine's clock has room for them, the task
sees the same in both runs, and with the timers active no conversion overflows or loses a tick. -/
theorem clocks_agree (hrate : P.configTICK_RATE_HZ = 1000) (hmove : P.MovesExactly)
    {w w₀ : World T} {t : T} (hactive : w.s_fakeTimers = some t)
    (hinactive : w₀.s_fakeTimers = none) (htime : 0 ≤ P.getCurrentInternalTime t)
    {start : TickType} (hstart : EStateM.run (xTaskGetTickCount P) w = .ok start w)
    (hstart₀ : EStateM.run (xTaskGetTickCount P) w₀ = .ok start w₀)
    (previous : TickType) (cs : List TickCall)
    (hfits : P.getCurrentInternalTime t + simulated previous start.toNat cs * 1000000 < 2 ^ 63) :
    ∃ tr s s₀, tr.map Prod.fst = cs ∧
      Run (Sleeper.Step P) ⟨w, previous⟩ tr s ∧ Run (Sleeper.Step P) ⟨w₀, previous⟩ tr s₀ ∧
      EveryState (Sleeper.Step P) (fun s => ∃ t, s.world.s_fakeTimers = some t ∧
        ReadsExactly P.configTICK_RATE_HZ (P.getCurrentInternalTime t)) ⟨w, previous⟩ tr ∧
      EveryStep (Sleeper.Step P) (fun s c =>
        ConvertsExactly P.configTICK_RATE_HZ (c.delayed P s)) ⟨w, previous⟩ tr := by
  have hread := readsExactly_of_lt htime (by omega)
  rw [run_xTaskGetTickCount] at hstart hstart₀
  have hnow : (start.toNat : ℤ) = P.getCurrentInternalTime t / 1000000 := by
    rw [← hread.2, ← (EStateM.Result.ok.inj hstart).1, World.tickCount, hactive]
    simp only [hrate]
  have hcounts : w₀.Counts start.toNat := by
    refine ⟨hinactive, ?_⟩
    rw [← (EStateM.Result.ok.inj hstart₀).1, World.tickCount, hinactive]
  -- the clock has room for the calls, in ticks, beside the rest that the engine starts with
  obtain ⟨limit, hlimit⟩ : ∃ limit, limit = start.toNat + simulated previous start.toNat cs :=
    ⟨_, rfl⟩
  obtain ⟨rest, hrest⟩ : ∃ rest, rest = P.getCurrentInternalTime t % 1000000 := ⟨_, rfl⟩
  have hroom : (limit : ℤ) * 1000000 + rest < 2 ^ 63 := by omega
  have hengine := isClock_engine hrate hmove rest (by omega) hroom
  have hcounter : IsClock P limit World.Counts := isClock_counter (by omega)
  have hkeeps : w.KeepsTime P rest start.toNat := ⟨t, hactive, by omega⟩
  obtain ⟨⟨w', hrun⟩, hstates, hsteps⟩ :=
    hengine.run previous cs ⟨hkeeps, by omega⟩ (by omega)
  obtain ⟨⟨w₀', hrun₀⟩, -, -⟩ := hcounter.run previous cs hcounts (by omega)
  refine ⟨_, _, _, map_fst_seenTrace previous start.toNat cs, hrun, hrun₀, ?_, ?_⟩
  · intro tr₁ tr₂ s₁ he hrun₁
    obtain ⟨n, ⟨t', ht', htime'⟩, hn⟩ := hstates tr₁ tr₂ s₁ he hrun₁
    exact ⟨t', ht', hrate ▸ (readsExactly_of_lt (by omega) (by omega)).1⟩
  · intro tr₁ c o tr₂ s₁ he hrun₁
    have hle := hsteps tr₁ c o tr₂ s₁ he hrun₁
    exact hrate ▸ convertsExactly_of_lt (by omega)

/-- The engine's clock stands at 2.5 ms and the counter at 2 ticks. -/
theorem clocks_agree_standard : ∃ tr s s₀,
    tr.map Prod.fst = [.delay 3, .delayUntil 10, .delayUntil 10] ∧
    Run (Sleeper.Step Platform.standard)
      ⟨{ (World.start : World ℤ) with s_fakeTimers := some 2500000 }, 0⟩ tr s ∧
    Run (Sleeper.Step Platform.standard)
      ⟨{ (World.start : World ℤ) with s_tickCount := 2 }, 0⟩ tr s₀ := by
  let w : World ℤ := { (World.start : World ℤ) with s_fakeTimers := some 2500000 }
  let w₀ : World ℤ := { (World.start : World ℤ) with s_tickCount := 2 }
  have hstart : EStateM.run (xTaskGetTickCount Platform.standard) w = .ok 2 w := by
    decide +kernel
  have hstart₀ : EStateM.run (xTaskGetTickCount Platform.standard) w₀ = .ok 2 w₀ := by
    decide +kernel
  obtain ⟨tr, s, s₀, htr, hrun, hrun₀, -⟩ := clocks_agree (P := Platform.standard) rfl
    (fun _ _ _ => rfl) rfl rfl (by decide) hstart hstart₀ 0
    [.delay 3, .delayUntil 10, .delayUntil 10] (by decide +kernel)
  exact ⟨tr, s, s₀, htr, hrun, hrun₀⟩

end FakeFreeRtos
