import FakeFreeRtos.Clock.TickLength
import FakeFreeRtos.Foundations.Lockstep
import FakeFreeRtos.Model.Harness
import Mathlib.Logic.Function.Basic

/-!
# What is known of a timer

The timer functions keep nothing themselves: a timer's name, period, identity and reload mode are
held by the engine, under a handle of the engine's and with the period as a duration. To a program
the timers are a table from its own handles to what it has given for them, with the period in ticks
(`TimerTable`). `timers_remember` says that the table is faithful: whatever the functions are asked,
they answer what was given last.
-/

namespace FakeFreeRtos

open Foundations Function

/-! ## The table -/

/-- What a program knows of a timer. -/
structure TimerSheet where
  name : Option String
  period : TickType
  reloadMode : BaseType
  timerID : UInt64
  deriving DecidableEq

/-- A call of the timer functions, or of the harness that moves time. -/
inductive TimerCall
  | create (name : Option String) (periodInTicks : TickType) (autoReload : BaseType)
    (timerID callback : UInt64)
  | command (timer : TimerHandle) (commandID : BaseType) (optionalValue : TickType)
  | getTimerID (timer : TimerHandle)
  | setTimerID (timer : TimerHandle) (newID : UInt64)
  | getName (timer : TimerHandle)
  | getReloadMode (timer : TimerHandle)
  | setReloadMode (timer : TimerHandle) (autoReload : BaseType)
  | getPeriod (timer : TimerHandle)
  | moveTimeForward (duration : ℤ)
  deriving DecidableEq

/-- What a call returns. -/
inductive TimerValue
  | unit
  | timer (h : TimerHandle)
  | code (b : BaseType)
  | timerID (p : UInt64)
  | name (n : Option String)
  | ticks (n : TickType)
  deriving DecidableEq

/-- What a program may know of its timers. -/
abbrev TimerTable := TimerHandle → Option TimerSheet

/-- The reload mode that `xAutoReload` asks for. -/
def reloadMode (autoReload : BaseType) : BaseType := if autoReload = pdTRUE then pdTRUE else pdFALSE

namespace TimerTable

/-- A command succeeds on a timer that exists. -/
def command (tab : TimerTable) (timer : TimerHandle) (commandID : BaseType)
    (optionalValue : TickType) : Except Exit TimerValue × TimerTable :=
  match tab timer with
  | none => (.error .assertFailed, tab)
  | some x =>
    if timer = 0 then (.error .assertFailed, tab)
    else if commandID = tmrCOMMAND_START ∨ commandID = tmrCOMMAND_STOP ∨
        commandID = tmrCOMMAND_RESET then (.ok (.code pdPASS), tab)
    else if commandID = tmrCOMMAND_DELETE then (.ok (.code pdPASS), update tab timer none)
    else if commandID = tmrCOMMAND_CHANGE_PERIOD then
      (.ok (.code pdPASS), update tab timer (some { x with period := optionalValue }))
    else (.error .assertFailed, tab)

/-- How the table answers a call. Which handle a new timer gets is not in the table. -/
inductive Step : TimerTable → TimerCall → Except Exit TimerValue → TimerTable → Prop
  | create (tab : TimerTable) (name : Option String) (periodInTicks : TickType)
      (autoReload : BaseType) (timerID callback : UInt64) (timer : TimerHandle) :
      Step tab (.create name periodInTicks autoReload timerID callback) (.ok (.timer timer))
        (update tab timer (some ⟨name, periodInTicks, reloadMode autoReload, timerID⟩))
  | command (tab : TimerTable) (timer : TimerHandle) (commandID : BaseType)
      (optionalValue : TickType) :
      Step tab (.command timer commandID optionalValue)
        (tab.command timer commandID optionalValue).1 (tab.command timer commandID optionalValue).2
  | getTimerID {tab : TimerTable} {timer : TimerHandle} {x : TimerSheet} (hx : tab timer = some x) :
      Step tab (.getTimerID timer) (.ok (.timerID x.timerID)) tab
  | setTimerID {tab : TimerTable} {timer : TimerHandle} {x : TimerSheet} (hx : tab timer = some x)
      (newID : UInt64) : Step tab (.setTimerID timer newID) (.ok .unit)
        (update tab timer (some { x with timerID := newID }))
  | getName {tab : TimerTable} {timer : TimerHandle} {x : TimerSheet} (hx : tab timer = some x) :
      Step tab (.getName timer) (.ok (.name x.name)) tab
  | getReloadMode {tab : TimerTable} {timer : TimerHandle} {x : TimerSheet}
      (hx : tab timer = some x) :
      Step tab (.getReloadMode timer) (.ok (.code x.reloadMode)) tab
  | setReloadMode {tab : TimerTable} {timer : TimerHandle} {x : TimerSheet}
      (hx : tab timer = some x) (autoReload : BaseType) :
      Step tab (.setReloadMode timer autoReload) (.ok .unit)
        (update tab timer (some { x with reloadMode := reloadMode autoReload }))
  | getPeriod {tab : TimerTable} {timer : TimerHandle} {x : TimerSheet} (hx : tab timer = some x) :
      Step tab (.getPeriod timer) (.ok (.ticks x.period)) tab
  | moveTimeForward (tab : TimerTable) (duration : ℤ) :
      Step tab (.moveTimeForward duration) (.ok .unit) tab

end TimerTable

/-! ## The engine -/

/-- What the engine keeps of a timer. -/
structure EngineTimer where
  name : Option String
  period : ℤ
  behavior : Behavior
  context : UInt64
  deriving DecidableEq

/-- What the engine promises of the timers `timer` that it keeps: the operations with an answer
succeed on those that exist, an operation changes what it is for, and nothing else does. -/
structure KeepsTimers {T : Type} (F : FakeTimers T) (timer : T → UInt64 → Option EngineTimer) :
    Prop where
  timerCreate : ∀ t name period behavior context callback,
    timer (F.timerCreate t name period behavior context callback).2 =
      update (timer t) (F.timerCreate t name period behavior context callback).1
        (some ⟨name, period, behavior, context⟩)
  timerStart : ∀ t h, (F.timerStart t h).1 = (timer t h).isSome ∧
    timer (F.timerStart t h).2 = timer t
  timerStop : ∀ t h, (F.timerStop t h).1 = (timer t h).isSome ∧ timer (F.timerStop t h).2 = timer t
  timerReset : ∀ t h, (F.timerReset t h).1 = (timer t h).isSome ∧
    timer (F.timerReset t h).2 = timer t
  timerDelete : ∀ t h, (F.timerDelete t h).1 = (timer t h).isSome ∧
    timer (F.timerDelete t h).2 = update (timer t) h none
  timerChangePeriod : ∀ t h period, (F.timerChangePeriod t h period).1 = (timer t h).isSome ∧
    timer (F.timerChangePeriod t h period).2 =
      update (timer t) h ((timer t h).map fun e => { e with period })
  timerSetContext : ∀ t h e context, timer t h = some e →
    timer (F.timerSetContext t h context) = update (timer t) h (some { e with context })
  timerSetBehavior : ∀ t h e behavior, timer t h = some e →
    timer (F.timerSetBehavior t h behavior) = update (timer t) h (some { e with behavior })
  moveTimeForward : ∀ t duration, timer (F.moveTimeForward t duration) = timer t
  timerGetName : ∀ t h e, timer t h = some e → F.timerGetName t h = e.name
  timerGetPeriod : ∀ t h e, timer t h = some e → F.timerGetPeriod t h = e.period
  timerGetBehavior : ∀ t h e, timer t h = some e → F.timerGetBehavior t h = e.behavior
  timerGetContext : ∀ t h e, timer t h = some e → F.timerGetContext t h = e.context

/-! ## The timer functions keep the table -/

variable {T : Type} (P : Platform T) (timer : T → UInt64 → Option EngineTimer)

/-- The function that a call calls. -/
def TimerCall.exec : TimerCall → WorldApi T TimerValue
  | .create name periodInTicks autoReload timerID callback =>
    .timer <$> xTimerCreate P name periodInTicks autoReload timerID callback
  | .command timer commandID optionalValue =>
    .code <$> xTimerGenericCommandFromTask P timer commandID optionalValue
  | .getTimerID timer => .timerID <$> pvTimerGetTimerID P timer
  | .setTimerID timer newID => (fun _ => .unit) <$> vTimerSetTimerID P timer newID
  | .getName timer => .name <$> pcTimerGetName P timer
  | .getReloadMode timer => .code <$> xTimerGetReloadMode P timer
  | .setReloadMode timer autoReload => (fun _ => .unit) <$> vTimerSetReloadMode P timer autoReload
  | .getPeriod timer => .ticks <$> xTimerGetPeriod P timer
  | .moveTimeForward duration => (fun _ => .unit) <$> FakeFreeRtos.moveTimeForward P duration

/-- What a program is told of a timer of the engine. -/
def EngineTimer.sheet (e : EngineTimer) : TimerSheet where
  name := e.name
  period := chronoToTicks P e.period
  reloadMode := if e.behavior = .AutoReload then pdTRUE else pdFALSE
  timerID := e.context

/-- The table of an engine. -/
def timerTable (t : T) : TimerTable := fun h =>
  (timer t (pointerToHandle P h)).map (EngineTimer.sheet P)

/-- The periods that a call gives are representable in nanoseconds. -/
def TimerCall.Representable : TimerCall → Prop
  | .create _ periodInTicks _ _ _ => FitsInt64 (tickDuration P.configTICK_RATE_HZ periodInTicks)
  | .command _ commandID optionalValue => commandID = tmrCOMMAND_CHANGE_PERIOD →
    FitsInt64 (tickDuration P.configTICK_RATE_HZ optionalValue)
  | _ => True

instance (c : TimerCall) : Decidable (c.Representable P) := by
  unfold TimerCall.Representable
  split <;> infer_instance

/-- The timer that a call takes for an existing one. -/
def TimerCall.subject? : TimerCall → Option TimerHandle
  | .getTimerID timer | .setTimerID timer _ | .getName timer | .getReloadMode timer
  | .setReloadMode timer _ | .getPeriod timer => some timer
  | _ => none

/-- The reply and the memory at the end of a call. -/
def timerOutcome : EStateM.Result Exit (World T) TimerValue → Except Exit TimerValue × World T
  | .ok v w => (.ok v, w)
  | .error e w => (.error e, w)

section Calls

variable {P timer}

theorem pointerToHandle_injective : Injective (pointerToHandle P) := fun x y h => by
  have heq := congrArg (P.s_an_object + ·) h
  simpa only [pointerToHandle, UInt64.add_comm P.s_an_object, UInt64.sub_add_cancel] using heq

/-- What happens to one timer of the engine happens to one line of the table. -/
theorem timerTable_update {t t' : T} {h : TimerHandle} {e : Option EngineTimer}
    (ht : timer t' = update (timer t) (pointerToHandle P h) e) :
    timerTable P timer t' = update (timerTable P timer t) h (e.map (EngineTimer.sheet P)) := by
  funext x
  by_cases hx : x = h
  · subst hx
    simp [timerTable, ht]
  · have hne : pointerToHandle P x ≠ pointerToHandle P h :=
      fun he => hx (pointerToHandle_injective he)
    simp [timerTable, ht, hx, hne]

theorem exists_of_isSome {t : T} {h : TimerHandle} (hx : (timerTable P timer t h).isSome) :
    ∃ e, timer t (pointerToHandle P h) = some e ∧ timerTable P timer t h = some (e.sheet P) := by
  obtain ⟨x, hx⟩ := Option.isSome_iff_exists.mp hx
  obtain ⟨e, he, rfl⟩ := Option.map_eq_some_iff.mp hx
  exact ⟨e, he, hx⟩

theorem timerTable_congr {t t' : T} (ht : timer t' = timer t) :
    timerTable P timer t' = timerTable P timer t := by
  funext x
  rw [timerTable, ht, timerTable]

/-- A new timer has the period that was asked for. -/
theorem sheet_eq (hR : P.configTICK_RATE_HZ.toNat ∣ 1000) {n : TickType}
    (hn : FitsInt64 (tickDuration P.configTICK_RATE_HZ n)) (name : Option String)
    (behavior : Behavior) (context : UInt64) :
    EngineTimer.sheet P ⟨name, tickDuration P.configTICK_RATE_HZ n, behavior, context⟩ =
      ⟨name, n, if behavior = .AutoReload then pdTRUE else pdFALSE, context⟩ := by
  obtain ⟨k, hk⟩ := hR
  simp only [EngineTimer.sheet, chronoToTicks, chronoToTicks_tickDuration hk hn]

theorem reloadMode_eq (autoReload : BaseType) :
    (if (if autoReload = pdTRUE then Behavior.AutoReload else .SingleShot) = .AutoReload then pdTRUE
      else pdFALSE) = reloadMode autoReload := by
  rw [reloadMode]
  split <;> rfl

variable {w : World T} {t : T} {h : TimerHandle} {commandID : BaseType} {value : TickType}

/-- A command whose operation succeeds on the timers that exist, and changes the table as it is to
change there. -/
theorem answered_checked (hw : w.s_fakeTimers = some t) {f : T → Bool × T}
    (hrun : EStateM.run (xTimerGenericCommandFromTask P h commandID value) w =
      EStateM.run ((fun _ => pdPASS) <$> checkedOperation f) w)
    (hok : (f t).1 = (timer t (pointerToHandle P h)).isSome)
    (hsome : ∀ e, timer t (pointerToHandle P h) = some e →
      (timerTable P timer t).command h commandID value =
        (.ok (.code pdPASS), timerTable P timer (f t).2))
    (hnone : timer t (pointerToHandle P h) = none →
      timerTable P timer (f t).2 = timerTable P timer t) :
    ∃ r t', timerOutcome (EStateM.run ((TimerCall.command h commandID value).exec P) w) =
        (r, { w with s_fakeTimers := some t' }) ∧
      TimerTable.Step (timerTable P timer t) (.command h commandID value) r
        (timerTable P timer t') := by
  have hstep := TimerTable.Step.command (timerTable P timer t) h commandID value
  cases hx : timer t (pointerToHandle P h) with
  | none =>
    rw [hx, Option.isSome_none] at hok
    have htable : timerTable P timer t h = none := by rw [timerTable, hx, Option.map_none]
    refine ⟨.error .assertFailed, (f t).2, ?_, ?_⟩
    · simp [TimerCall.exec, hrun, run_checkedOperation hw, hok, timerOutcome]
    · rw [hnone hx]
      simpa only [TimerTable.command, htable] using hstep
  | some e =>
    rw [hx, Option.isSome_some] at hok
    refine ⟨.ok (.code pdPASS), (f t).2, ?_, ?_⟩
    · simp [TimerCall.exec, hrun, run_checkedOperation hw, hok, timerOutcome]
    · simpa only [hsome e hx] using hstep

variable (laws : KeepsTimers P.toFakeTimers timer) (hR : P.configTICK_RATE_HZ.toNat ∣ 1000)

include laws hR

theorem answered_command (hw : w.s_fakeTimers = some t) (h : TimerHandle) (commandID : BaseType)
    (value : TickType) (hc : (TimerCall.command h commandID value).Representable P) :
    ∃ r t', timerOutcome (EStateM.run ((TimerCall.command h commandID value).exec P) w) =
        (r, { w with s_fakeTimers := some t' }) ∧
      TimerTable.Step (timerTable P timer t) (.command h commandID value) r
        (timerTable P timer t') := by
  have hcommands : tmrCOMMAND_START = 1 ∧ tmrCOMMAND_RESET = 2 ∧ tmrCOMMAND_STOP = 3 ∧
      tmrCOMMAND_CHANGE_PERIOD = 4 ∧ tmrCOMMAND_DELETE = 5 := ⟨rfl, rfl, rfl, rfl, rfl⟩
  obtain ⟨hstart, hreset, hstop, hchange, hdelete⟩ := hcommands
  have hknown : ∀ e, timer t (pointerToHandle P h) = some e →
      timerTable P timer t h = some (e.sheet P) := fun e he => by
    rw [timerTable, he, Option.map_some]
  have hupdate : timer t (pointerToHandle P h) = none →
      update (timerTable P timer t) h none = timerTable P timer t := fun he => by
    rw [update_eq_self_iff, timerTable, he, Option.map_none]
  have hself : { w with s_fakeTimers := some t } = w := by rw [← hw]
  have hstep := TimerTable.Step.command (timerTable P timer t) h commandID value
  by_cases h0 : h = 0
  · refine ⟨.error .assertFailed, t, ?_, ?_⟩
    · simp [TimerCall.exec, xTimerGenericCommandFromTask, assertTimers, timerOutcome, hw, hself, h0]
    · cases hx : timerTable P timer t h <;>
        simpa only [TimerTable.command, hx, if_pos h0] using hstep
  by_cases hid : commandID = tmrCOMMAND_START
  · obtain ⟨hok, ht⟩ := laws.timerStart t (pointerToHandle P h)
    subst hid
    refine answered_checked hw (f := fun t => P.timerStart t (pointerToHandle P h)) ?_ hok
      (fun e he => ?_) fun _ => timerTable_congr ht
    · simp [xTimerGenericCommandFromTask, assertTimers, hw, h0]
    · simp [TimerTable.command, timerTable_congr ht, hknown e he, h0]
  by_cases hid₁ : commandID = tmrCOMMAND_DELETE
  · obtain ⟨hok, ht⟩ := laws.timerDelete t (pointerToHandle P h)
    subst hid₁
    refine answered_checked hw (f := fun t => P.timerDelete t (pointerToHandle P h)) ?_ hok
      (fun e he => ?_) fun he => (timerTable_update ht).trans (hupdate he)
    · simp [xTimerGenericCommandFromTask, assertTimers, hw, h0, hid]
    · simp [TimerTable.command, timerTable_update ht, hknown e he, h0, hstart, hreset, hstop,
        hdelete]
  by_cases hid₂ : commandID = tmrCOMMAND_STOP
  · obtain ⟨hok, ht⟩ := laws.timerStop t (pointerToHandle P h)
    subst hid₂
    refine answered_checked hw (f := fun t => P.timerStop t (pointerToHandle P h)) ?_ hok
      (fun e he => ?_) fun _ => timerTable_congr ht
    · simp [xTimerGenericCommandFromTask, assertTimers, hw, h0, hid, hid₁]
    · simp [TimerTable.command, timerTable_congr ht, hknown e he, h0]
  by_cases hid₃ : commandID = tmrCOMMAND_CHANGE_PERIOD
  · have hfits := hc hid₃
    obtain ⟨hok, ht⟩ := laws.timerChangePeriod t (pointerToHandle P h)
      (tickDuration P.configTICK_RATE_HZ value)
    subst hid₃
    refine answered_checked hw (f := fun t => P.timerChangePeriod t (pointerToHandle P h)
      (tickDuration P.configTICK_RATE_HZ value)) ?_ hok (fun e he => ?_) fun he => ?_
    · simp [xTimerGenericCommandFromTask, assertTimers, hw, h0, hid, hid₁, hid₂,
        run_ticksToChrono hR hfits]
    · have htable := timerTable_update ht
      rw [he, Option.map_some, Option.map_some, sheet_eq hR hfits] at htable
      simp [TimerTable.command, htable, hknown e he, h0, hstart, hreset, hstop, hdelete, hchange,
        EngineTimer.sheet]
    · rw [he, Option.map_none] at ht
      exact (timerTable_update ht).trans (hupdate he)
  by_cases hid₄ : commandID = tmrCOMMAND_RESET
  · obtain ⟨hok, ht⟩ := laws.timerReset t (pointerToHandle P h)
    subst hid₄
    refine answered_checked hw (f := fun t => P.timerReset t (pointerToHandle P h)) ?_ hok
      (fun e he => ?_) fun _ => timerTable_congr ht
    · simp [xTimerGenericCommandFromTask, assertTimers, hw, h0, hid, hid₁, hid₂, hid₃]
    · simp [TimerTable.command, timerTable_congr ht, hknown e he, h0]
  · refine ⟨.error .assertFailed, t, ?_, ?_⟩
    · simp [TimerCall.exec, xTimerGenericCommandFromTask, assertTimers, timerOutcome, hw, hself, h0,
        hid, hid₁, hid₂, hid₃, hid₄]
    · cases hx : timerTable P timer t h <;>
        simpa [TimerTable.command, hx, h0, hid, hid₁, hid₂, hid₃, hid₄] using hstep

/-- **Every call is answered from the table**, and leaves the table that it asks for. -/
theorem answered (hw : w.s_fakeTimers = some t) {c : TimerCall} (hc : c.Representable P)
    (hknown : ∀ h, c.subject? = some h → (timerTable P timer t h).isSome) :
    ∃ r t', timerOutcome (EStateM.run (c.exec P) w) = (r, { w with s_fakeTimers := some t' }) ∧
      TimerTable.Step (timerTable P timer t) c r (timerTable P timer t') := by
  obtain ⟨lib, timers, tickCount, printAssert⟩ := w
  subst hw
  cases c with
  | create name ticks autoReload timerID callback =>
    let behavior : Behavior := if autoReload = pdTRUE then .AutoReload else .SingleShot
    let r := P.timerCreate t name (tickDuration P.configTICK_RATE_HZ ticks) behavior timerID
      callback
    have hcreate : timer r.2 = update (timer t) (pointerToHandle P (handleToPointer P r.1)) _ :=
      pointerToHandle_handleToPointer r.1 ▸ laws.timerCreate t name _ behavior timerID callback
    have htable := timerTable_update hcreate
    rw [Option.map_some, sheet_eq hR hc, reloadMode_eq] at htable
    refine ⟨.ok (.timer (handleToPointer P r.1)), r.2, ?_, ?_⟩
    · simp [TimerCall.exec, xTimerCreate, assertTimers, theTimers, updateTimers, timerOutcome,
        run_ticksToChrono hR hc, r, behavior]
    · rw [htable]
      exact .create ..
  | command h commandID value => exact answered_command laws hR rfl h commandID value hc
  | getTimerID h =>
    obtain ⟨e, he, hx⟩ := exists_of_isSome (hknown h rfl)
    refine ⟨.ok (.timerID e.context), t, ?_, .getTimerID hx⟩
    simp [TimerCall.exec, pvTimerGetTimerID, assertTimers, theTimers, timerOutcome,
      laws.timerGetContext t _ e he]
  | setTimerID h newID =>
    obtain ⟨e, he, hx⟩ := exists_of_isSome (hknown h rfl)
    refine ⟨.ok .unit, P.timerSetContext t (pointerToHandle P h) newID, ?_, ?_⟩
    · simp [TimerCall.exec, vTimerSetTimerID, assertTimers, theTimers, updateTimers, timerOutcome]
    · rw [timerTable_update (laws.timerSetContext t _ e newID he)]
      exact .setTimerID hx newID
  | getName h =>
    obtain ⟨e, he, hx⟩ := exists_of_isSome (hknown h rfl)
    refine ⟨.ok (.name e.name), t, ?_, .getName hx⟩
    simp [TimerCall.exec, pcTimerGetName, assertTimers, theTimers, timerOutcome,
      laws.timerGetName t _ e he]
  | getReloadMode h =>
    obtain ⟨e, he, hx⟩ := exists_of_isSome (hknown h rfl)
    refine ⟨.ok (.code (e.sheet P).reloadMode), t, ?_, .getReloadMode hx⟩
    by_cases hb : e.behavior = .AutoReload <;>
      simp [TimerCall.exec, xTimerGetReloadMode, assertTimers, theTimers, timerOutcome,
        laws.timerGetBehavior t _ e he, EngineTimer.sheet, hb]
  | setReloadMode h autoReload =>
    obtain ⟨e, he, hx⟩ := exists_of_isSome (hknown h rfl)
    let behavior : Behavior := if autoReload = pdTRUE then .AutoReload else .SingleShot
    refine ⟨.ok .unit, P.timerSetBehavior t (pointerToHandle P h) behavior, ?_, ?_⟩
    · simp [TimerCall.exec, vTimerSetReloadMode, assertTimers, theTimers, updateTimers,
        timerOutcome, behavior]
    · rw [timerTable_update (laws.timerSetBehavior t _ e behavior he), Option.map_some,
        EngineTimer.sheet, reloadMode_eq]
      exact .setReloadMode hx autoReload
  | getPeriod h =>
    obtain ⟨e, he, hx⟩ := exists_of_isSome (hknown h rfl)
    refine ⟨.ok (.ticks (chronoToTicks P e.period)), t, ?_, .getPeriod hx⟩
    simp [TimerCall.exec, xTimerGetPeriod, assertTimers, theTimers, timerOutcome,
      laws.timerGetPeriod t _ e he]
  | moveTimeForward duration =>
    refine ⟨.ok .unit, P.moveTimeForward t duration, ?_, ?_⟩
    · simp [TimerCall.exec, moveTimeForward, assertTimers, theTimers, updateTimers, timerOutcome]
    · rw [timerTable_congr (laws.moveTimeForward t duration)]
      exact .moveTimeForward ..

end Calls

/-! ## The rest of a program -/

/-- The calls that are not on the table. -/
def TestCall.OffTable : TestCall → Prop
  | .timerCreate .. | .timerCommand .. | .timerSetID .. | .timerSetReloadMode .. => False
  | _ => True

/-- The timers of the engine, if there is one, are kept. -/
def World.KeepsTable (timer : T → UInt64 → Option EngineTimer) (w w' : World T) : Prop :=
  ∀ t, w.s_fakeTimers = some t → ∃ t', w'.s_fakeTimers = some t' ∧ timer t' = timer t

instance (timer : T → UInt64 → Option EngineTimer) : IsPreorder (World T) (World.KeepsTable timer)
    where
  refl _ t ht := ⟨t, ht, rfl⟩
  trans _ _ _ h h' t ht := by
    obtain ⟨t', ht', heq⟩ := h t ht
    obtain ⟨t'', ht'', heq'⟩ := h' t' ht'
    exact ⟨t'', ht'', heq'.trans heq⟩

section Rest

variable {P timer}

theorem keepsTable_of_s_fakeTimers {w w' : World T} (h : w'.s_fakeTimers = w.s_fakeTimers) :
    w.KeepsTable timer w' := fun t ht => ⟨t, h.trans ht, rfl⟩

theorem keepsTable_readsTimers {α : Type} {f : T → WorldApi T α}
    (hf : ∀ t w, finalState (EStateM.run (f t) w) = w) :
    Ensures (World.KeepsTable timer) (do assertTimers; let t ← theTimers; f t) :=
  .of_reads fun w => by
    cases hw : w.s_fakeTimers with
    | none => simp [assertTimers, hw]
    | some t =>
      have hrun : EStateM.run (do assertTimers; let t ← theTimers; f t) w =
          EStateM.run (f t) w := by
        simp [assertTimers, theTimers, hw]
      rw [hrun, hf]

variable (laws : KeepsTimers P.toFakeTimers timer)

include laws

theorem keepsTable_moveTimeForward (duration : ℤ) :
    Ensures (World.KeepsTable timer) (moveTimeForward P duration) := fun w t hw => by
  refine ⟨P.moveTimeForward t duration, ?_, laws.moveTimeForward t duration⟩
  simp [moveTimeForward, assertTimers, theTimers, updateTimers, hw]

theorem keepsTable_vTaskDelay (ticks : TickType) :
    Ensures (World.KeepsTable timer) (vTaskDelay P ticks) := by
  have hnanoseconds : ∀ ms, Ensures (World.KeepsTable timer) (toNanoseconds (T := T) ms) :=
    fun ms => .ite (fun _ => .pure _) fun _ => .of_reads fun _ => rfl
  refine Ensures.bind (x := timersIsActive) (.of_reads fun _ => rfl) fun active => .ite
    (fun _ => (hnanoseconds _).bind fun _ => keepsTable_moveTimeForward laws _) fun _ w => ?_
  exact keepsTable_of_s_fakeTimers rfl

theorem keepsTable_xTaskDelayUntil (previous : Option TickType) (increment : TickType) :
    Ensures (World.KeepsTable timer) (xTaskDelayUntil P previous increment) := by
  have hassert : Ensures (World.KeepsTable timer) (configASSERT (previous ≠ none)) :=
    .of_reads fun w => by by_cases h : previous ≠ none <;> simp [h]
  have hcount : Ensures (World.KeepsTable timer) (xTaskGetTickCount P) := .of_reads fun w => by
    rw [run_xTaskGetTickCount, finalState_ok]
  exact hassert.bind fun _ => hcount.bind fun _ => .ite (fun _ => .pure _) fun _ =>
    (keepsTable_vTaskDelay laws _).bind fun _ => .pure _

/-- The rest of a program leaves the table alone. -/
theorem TestCall.keepsTable {c : TestCall} (hc : c.OffTable) :
    Ensures (World.KeepsTable timer) (c.exec P) := by
  cases c with
  | queues c =>
    refine .map _ fun w => keepsTable_of_s_fakeTimers ?_
    rw [run_onLib]
    cases EStateM.run c.exec w.lib <;> rfl
  | taskCreate => exact .map _ (.pure _)
  | taskDelete => exact .pure _
  | delay ticks => exact keepsTable_vTaskDelay laws ticks
  | tickCount =>
    exact .map _ (.of_reads fun w => by rw [run_xTaskGetTickCount, finalState_ok])
  | delayUntil previous increment => exact .map _ (keepsTable_xTaskDelayUntil laws _ _)
  | assertOutputEnable => exact fun w => keepsTable_of_s_fakeTimers rfl
  | assertOutputDisable => exact fun w => keepsTable_of_s_fakeTimers rfl
  | timersIsActive => exact .map _ (.of_reads fun _ => rfl)
  | moveTimeForward duration => exact keepsTable_moveTimeForward laws duration
  | currentInternalTime =>
    refine .map _ (.of_reads fun w => ?_)
    cases hw : w.s_fakeTimers <;>
      simp [getCurrentInternalTime, FakeFreeRtos.timersIsActive, theTimers, hw]
  | timerCreate => exact hc.elim
  | timerCommand => exact hc.elim
  | timerIsActive h =>
    refine .map _ (keepsTable_readsTimers fun t w => ?_)
    cases P.timerIsActive t (pointerToHandle P h) <;> rfl
  | timerGetID => exact .map _ (keepsTable_readsTimers fun _ _ => rfl)
  | timerSetID => exact hc.elim
  | timerGetName => exact .map _ (keepsTable_readsTimers fun _ _ => rfl)
  | timerGetReloadMode h =>
    refine .map _ (keepsTable_readsTimers fun t w => ?_)
    by_cases hb : P.timerGetBehavior t (pointerToHandle P h) = .AutoReload <;> simp [hb]
  | timerSetReloadMode => exact hc.elim
  | timerGetPeriod => exact .map _ (keepsTable_readsTimers fun _ _ => rfl)
  | timerGetExpiryTime => exact .map _ (keepsTable_readsTimers fun _ _ => rfl)

end Rest

/-! ## Programs with timers -/

/-- A program makes a call that is on the table, with a representable period and for a timer that
it knows, or any other call; how the other calls reply is not recorded. -/
inductive World.TimerStep :
    World T → TimerCall ⊕ TestCall → Except Exit TimerValue → World T → Prop
  | timers {w w' : World T} {c : TimerCall} {r : Except Exit TimerValue}
      (h : timerOutcome (EStateM.run (c.exec P) w) = (r, w')) (hc : c.Representable P)
      (hknown : ∀ t h, w.s_fakeTimers = some t → c.subject? = some h →
        (timerTable P timer t h).isSome) : TimerStep w (.inl c) r w'
  | rest {w w' : World T} {c : TestCall} (h : finalState (EStateM.run (c.exec P) w) = w')
      (hc : c.OffTable) : TimerStep w (.inr c) (.ok .unit) w'

variable {P timer}

/-- **The timers remember.** Over every run of a program, at every tick rate that divides 1000 and
for every engine that keeps its timers, the timer functions answer from the table: what a timer was
given last, and whether it exists. -/
theorem timers_remember (laws : KeepsTimers P.toFakeTimers timer)
    (hR : P.configTICK_RATE_HZ.toNat ∣ 1000) {w w' : World T} {t : T}
    {tr : List ((TimerCall ⊕ TestCall) × Except Exit TimerValue)} (hw : w.s_fakeTimers = some t)
    (hrun : Run (World.TimerStep P timer) w tr w') :
    ∃ t', w'.s_fakeTimers = some t' ∧ Run TimerTable.Step (timerTable P timer t)
      (project Sum.getLeft? tr) (timerTable P timer t') := by
  let R : World T → TimerTable → Prop :=
    fun w tab => ∃ t, w.s_fakeTimers = some t ∧ timerTable P timer t = tab
  have hvisible : ∀ w tab (c : TimerCall ⊕ TestCall) c' r w', c.getLeft? = some c' → R w tab →
      World.TimerStep P timer w c r w' → ∃ tab', TimerTable.Step tab c' r tab' ∧ R w' tab' := by
    rintro w tab c c' r w' hsee ⟨t, hw, rfl⟩ hstep
    cases hstep with
    | timers h hc hknown =>
      obtain rfl := Option.some.inj hsee
      obtain ⟨r', t', hrun, htab⟩ := answered laws hR hw hc fun x hx => hknown t x hw hx
      obtain ⟨rfl, rfl⟩ := Prod.mk.inj (h.symm.trans hrun)
      exact ⟨_, htab, t', rfl, rfl⟩
    | rest => cases hsee
  have hhidden : ∀ w tab (c : TimerCall ⊕ TestCall) r w', c.getLeft? = none → R w tab →
      World.TimerStep P timer w c r w' → R w' tab := by
    rintro w tab c r w' hsee ⟨t, hw, rfl⟩ hstep
    cases hstep with
    | timers => cases hsee
    | rest h hc =>
      obtain ⟨t', ht', htimer⟩ := TestCall.keepsTable laws hc w t hw
      exact ⟨t', h ▸ ht', timerTable_congr htimer⟩
  obtain ⟨tab, hrun, t', ht', rfl⟩ := hrun.unwind hvisible hhidden ⟨t, hw, rfl⟩
  exact ⟨t', ht', hrun⟩

/-! ## An engine that keeps its timers -/

/-- What the engine of a list promises to keep of a timer. -/
def ListedTimer.engineTimer (x : ListedTimer) : EngineTimer where
  name := x.name
  period := x.period
  behavior := x.behavior
  context := x.context

namespace ListedTimers

def kept (t : ListedTimers) (handle : UInt64) : Option EngineTimer :=
  (t.find handle).map ListedTimer.engineTimer

theorem find_map {f : ListedTimer → ListedTimer} (hf : ∀ x, (f x).handle = x.handle) (now : ℤ)
    (created : ℕ) (timers : List ListedTimer) (handle : UInt64) :
    find ⟨now, created, timers.map f⟩ handle = (find ⟨now, created, timers⟩ handle).map f := by
  have hcomp : ((fun x : ListedTimer => decide (x.handle = handle)) ∘ f) =
      fun x => decide (x.handle = handle) := by
    funext x
    simp only [comp_apply, hf]
  simp only [find, List.find?_map, hcomp]

theorem handle_of_find {t : ListedTimers} {handle : UInt64} {x : ListedTimer}
    (h : t.find handle = some x) : x.handle = handle := by
  simpa using List.find?_some h

/-- An operation of the engine does to what it keeps what it does to the timer. -/
theorem kept_update (t : ListedTimers) (handle : UInt64) {f : ListedTimer → ListedTimer}
    {g : EngineTimer → EngineTimer} (hf : ∀ x, (f x).handle = x.handle)
    (hg : ∀ x, (f x).engineTimer = g x.engineTimer) :
    (t.update handle f).2.kept = Function.update t.kept handle ((t.kept handle).map g) := by
  funext h
  have hhandle : ∀ x : ListedTimer, (if x.handle = handle then f x else x).handle = x.handle :=
    fun x => by split <;> simp [hf]
  have hfind := find_map hhandle t.now t.created t.timers h
  rw [kept, ListedTimers.update, hfind]
  change ((t.find h).map _).map _ = _
  by_cases hh : h = handle
  · subst hh
    cases hx : t.find h with
    | none => simp [kept, hx]
    | some x => simp [kept, hx, handle_of_find hx, hg]
  · cases hx : t.find h with
    | none => simp [kept, hx, hh]
    | some x => simp [kept, hx, hh, handle_of_find hx]

theorem kept_update_id (t : ListedTimers) (handle : UInt64) {f : ListedTimer → ListedTimer}
    (hf : ∀ x, (f x).handle = x.handle) (hg : ∀ x, (f x).engineTimer = x.engineTimer) :
    (t.update handle f).2.kept = t.kept := by
  rw [kept_update t handle (g := id) hf hg, Option.map_id, id_eq, update_eq_self]

theorem kept_filter (t : ListedTimers) (handle : UInt64) :
    kept { t with timers := t.timers.filter fun x => x.handle ≠ handle } =
      Function.update t.kept handle none := by
  funext h
  by_cases hh : h = handle
  · subst hh
    simp [kept, find, List.find?_filter]
  · have hpred : (fun x : ListedTimer => !decide (x.handle = handle) && decide (x.handle = h)) =
        fun x => decide (x.handle = h) := by
      funext x
      by_cases hx : x.handle = h <;> simp [hx, hh]
    simp [kept, find, List.find?_filter, hpred, hh]

theorem advance_keeps (now : ℤ) (x : ListedTimer) :
    (advance now x).handle = x.handle ∧ (advance now x).engineTimer = x.engineTimer := by
  rw [advance]
  repeat' split
  all_goals exact ⟨rfl, rfl⟩

/-- The list keeps its timers. -/
theorem keepsTimers : KeepsTimers FakeTimers.listed ListedTimers.kept where
  timerCreate t name period behavior context callback := by
    funext h
    change (find ⟨_, _, _⟩ h).map _ = _
    by_cases hh : UInt64.ofNat (t.created + 1) = h
    · subst hh
      simp [FakeTimers.listed, find, ListedTimer.engineTimer]
    · change _ = Function.update t.kept (UInt64.ofNat (t.created + 1)) _ h
      rw [Function.update_of_ne (fun he => hh he.symm), find,
        List.find?_cons_of_neg (by simpa only [decide_eq_true_eq] using hh)]
      rfl
  timerStart t h := ⟨Option.isSome_map.symm, kept_update_id t h (fun _ => rfl) fun _ => rfl⟩
  timerStop t h := ⟨Option.isSome_map.symm, kept_update_id t h (fun _ => rfl) fun _ => rfl⟩
  timerReset t h := ⟨Option.isSome_map.symm, kept_update_id t h (fun _ => rfl) fun _ => rfl⟩
  timerDelete t h := ⟨Option.isSome_map.symm, kept_filter t h⟩
  timerChangePeriod t h period :=
    ⟨Option.isSome_map.symm, kept_update t h (fun _ => rfl) fun _ => rfl⟩
  timerSetContext t h e context he := by
    have hkept := kept_update t h (f := fun x => { x with context })
      (g := fun e => { e with context }) (fun _ => rfl) fun _ => rfl
    rwa [he, Option.map_some] at hkept
  timerSetBehavior t h e behavior he := by
    have hkept := kept_update t h (f := fun x => { x with behavior })
      (g := fun e => { e with behavior }) (fun _ => rfl) fun _ => rfl
    rwa [he, Option.map_some] at hkept
  moveTimeForward t duration := by
    funext h
    have hfind := find_map (fun x => (advance_keeps (t.now + duration) x).1) (t.now + duration)
      t.created t.timers h
    change ((find ⟨_, _, _⟩ h).map _) = _
    rw [hfind, Option.map_map]
    exact congrArg (Option.map · _) (funext fun x => (advance_keeps _ x).2)
  timerGetName t h e he := by
    obtain ⟨x, hx, rfl⟩ := Option.map_eq_some_iff.mp he
    simp [FakeTimers.listed, hx, ListedTimer.engineTimer]
  timerGetPeriod t h e he := by
    obtain ⟨x, hx, rfl⟩ := Option.map_eq_some_iff.mp he
    simp [FakeTimers.listed, hx, ListedTimer.engineTimer]
  timerGetBehavior t h e he := by
    obtain ⟨x, hx, rfl⟩ := Option.map_eq_some_iff.mp he
    simp [FakeTimers.listed, hx, ListedTimer.engineTimer]
  timerGetContext t h e he := by
    obtain ⟨x, hx, rfl⟩ := Option.map_eq_some_iff.mp he
    simp [FakeTimers.listed, hx, ListedTimer.engineTimer]

end ListedTimers

/-- The memory after the setup of the timers. -/
def World.timersReady : World ListedTimers :=
  { (World.start : World ListedTimers) with s_fakeTimers := some (Platform.listed.new 1) }

/-- A call of the timer functions, by its reply. -/
theorem World.TimerStep.of_outcome {w : World T} {c : TimerCall} {r : Except Exit TimerValue}
    (hr : (timerOutcome (EStateM.run (c.exec P) w)).1 = r) (hc : c.Representable P)
    (hknown : w.s_fakeTimers.all fun t => c.subject?.all fun h =>
      (timerTable P timer t h).isSome) :
    TimerStep P timer w (.inl c) r (timerOutcome (EStateM.run (c.exec P) w)).2 := by
  refine .timers (Prod.ext hr rfl) hc fun t h ht hs => ?_
  rwa [ht, Option.all_some, hs, Option.all_some] at hknown

/-- A timer with a period of 250 ticks gets one of 40, stops reloading and is deleted. -/
def blinks : List ((TimerCall ⊕ TestCall) × Except Exit TimerValue) :=
  [(.inl (.create (some "blink") 250 pdTRUE 7 99), .ok (.timer 4097)),
    (.inl (.getPeriod 4097), .ok (.ticks 250)),
    (.inl (.command 4097 tmrCOMMAND_CHANGE_PERIOD 40), .ok (.code pdPASS)),
    (.inr (.delay 100), .ok .unit),
    (.inl (.setReloadMode 4097 pdFALSE), .ok .unit),
    (.inl (.getPeriod 4097), .ok (.ticks 40)),
    (.inl (.getReloadMode 4097), .ok (.code pdFALSE)),
    (.inl (.command 4097 tmrCOMMAND_DELETE 0), .ok (.code pdPASS)),
    (.inl (.command 4097 tmrCOMMAND_START 0), .error .assertFailed)]

theorem timers_remember_blinks : ∃ (w : World ListedTimers) (t : ListedTimers),
    Run (World.TimerStep Platform.listed ListedTimers.kept) World.timersReady blinks w ∧
    w.s_fakeTimers = some t ∧
    Run TimerTable.Step (timerTable Platform.listed ListedTimers.kept (Platform.listed.new 1))
      (project Sum.getLeft? blinks) (timerTable Platform.listed ListedTimers.kept t) := by
  have hrun : ∃ w : World ListedTimers,
      Run (World.TimerStep Platform.listed ListedTimers.kept) World.timersReady blinks w :=
    ⟨_, .cons (.of_outcome (by decide +kernel) (by decide +kernel) (by decide +kernel))
      (.cons (.of_outcome (by decide +kernel) trivial (by decide +kernel))
      (.cons (.of_outcome (by decide +kernel) (by decide +kernel) (by decide +kernel))
      (.cons (.rest rfl trivial)
      (.cons (.of_outcome (by decide +kernel) trivial (by decide +kernel))
      (.cons (.of_outcome (by decide +kernel) trivial (by decide +kernel))
      (.cons (.of_outcome (by decide +kernel) trivial (by decide +kernel))
      (.cons (.of_outcome (by decide +kernel) (by decide +kernel) (by decide +kernel))
      (.cons (.of_outcome (by decide +kernel) (by decide +kernel) (by decide +kernel))
      (.nil _)))))))))⟩
  obtain ⟨w, hrun⟩ := hrun
  obtain ⟨t, ht, htable⟩ := timers_remember ListedTimers.keepsTimers (by decide) rfl hrun
  exact ⟨w, t, hrun, ht, htable⟩

end FakeFreeRtos
