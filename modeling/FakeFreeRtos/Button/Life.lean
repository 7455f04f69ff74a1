import FakeFreeRtos.Button.Tenant

/-!
# The life of the button service

Over its whole life the service remembers that buttons have changed until it is asked, and tells the
callback what the driver knows then (`ButtonLife`). The semaphore does not show, and neither does
the rest of the program: the calls of the service are answered as the machine answers them
(`buttonService_refines`). In particular an assertion trips exactly where it does there. The
teardown never trips one; but it leaves the callback of the interrupt with the driver, so that a
button that changes afterwards does, until the service is set up again.
-/

namespace FakeFreeRtos

open Foundations Tenancy

/-! ## The machine -/

/-- The service as its clients and the driver know it. -/
structure ButtonLife where
  /-- Set up, and not torn down. -/
  up : Bool
  /-- The driver runs the callback of the interrupt. -/
  armed : Bool
  /-- An interrupt has not been processed. -/
  raised : Bool
  unread : Changes
  callback : UInt64
  context : UInt64
  events : List ButtonEvent
  deriving DecidableEq

namespace ButtonLife

/-- The callback for the buttons in `bits`, if there is one to call and a button to tell of. -/
def tells (l : ButtonLife) (bits : UInt16) (state : ButtonState) : List ButtonEvent :=
  if l.callback = 0 ∨ emitFlags bits = 0 then []
  else [.callback l.callback (emitFlags bits) state l.context]

/-- The interrupt. -/
def interrupt (l : ButtonLife) : Reply × ButtonLife :=
  if l.up = true then (.returned .unit, { l with raised := true }) else (.left .assertFailed, l)

/-- All interrupts so far are one event. -/
def process (l : ButtonLife) : Reply × ButtonLife :=
  if l.up = false then (.left .assertFailed, l)
  else if l.raised = false then (.returned (.bool false), l)
  else (.returned (.bool true), { l with
    raised := false
    unread := ⊥
    events := l.events ++ [.read l.unread] ++ l.tells l.unread.pressed .BUTTON_PRESSED ++
      l.tells l.unread.released .BUTTON_RELEASED })

/-- The driver notes a change. -/
def note (l : ButtonLife) (c : Changes) : ButtonLife :=
  { l with unread := l.unread ⊔ c, events := l.events ++ [.change c] }

/-- How a call is answered. -/
def answer (l : ButtonLife) : ButtonCall → Reply × ButtonLife
  | .init _ =>
    if l.up = true ∨ l.callback ≠ 0 ∨ l.context ≠ 0 then (.left .assertFailed, l)
    else (.returned .unit, { l with up := true, raised := false })
  | .start .EXECUTION_OPTION_NORMAL => (.returned .unit, l)
  | .start .EXECUTION_OPTION_UNIT_TEST => (.returned .unit, { l with armed := true, unread := ⊥ })
  | .register callback context => (.returned .unit, { l with callback, context })
  | .processOneEvent _ => l.process
  | .simulateIsr => l.interrupt
  | .change c => if l.armed = true then (l.note c).interrupt else (.returned .unit, l.note c)
  | .destroy => (.returned .unit, { l with up := false, callback := 0, context := 0 })

def Step (l : ButtonLife) (c : ButtonCall) (r : Reply) (l' : ButtonLife) : Prop :=
  l.answer c = (r, l')

end ButtonLife

/-! ## The service is the machine -/

variable {D T : Type} {R : ButtonReader D}

namespace ButtonLife

/-- The memory of a program with the service, which does not show the library and the driver. -/
def memory (l : ButtonLife) (w : World T) (sema : Handle) (d : D) : ButtonMemory D T where
  world := w
  vars := { s_eventSema := sema, s_callback := l.callback, s_context := l.context }
  driver := d
  isrCallback := if l.armed = true then some .ButtonService_IsrCallback else none
  events := l.events

/-- The semaphore and the driver hold what the service remembers. -/
structure Held (R : ButtonReader D) (l : ButtonLife) (w : World T) (sema : Handle) (d : D) :
    Prop where
  down : l.up = false → sema = nullptr
  up : l.up = true → w.lib.IsBinary sema l.raised
  unread : R.unread d = l.unread

/-- A call is answered as the machine answers it, and touches only the queues of the library. -/
def Answers (R : ButtonReader D) (l : ButtonLife) (w : World T) (sema : Handle) (d : D)
    (c : ButtonCall) : Prop :=
  ∃ lib sema' d', StepOf (c.exec R) (l.memory w sema d) (l.answer c).1
      ((l.answer c).2.memory { w with lib } sema' d') ∧
    Held R (l.answer c).2 { w with lib } sema' d'

variable {l : ButtonLife} {w : World T} {sema : Handle} {d : D}

theorem Held.interrupt (h : Held R l w sema d) : ∃ lib,
    StepOf ((fun _ => .unit) <$> buttonServiceIsrCallback) (l.memory w sema d) l.interrupt.1
      (l.interrupt.2.memory { w with lib } sema d) ∧
    Held R l.interrupt.2 { w with lib } sema d := by
  obtain ⟨hdown, hup, hunread⟩ := h
  rw [ButtonLife.interrupt]
  split
  · obtain ⟨code, lib, hgive, hbin⟩ := (hup ‹_›).run_xQueueGiveFromISR
    exact ⟨lib, stepOf_of_ok (by simp [buttonServiceIsrCallback, memory, hgive]; rfl),
      fun hne => hdown hne, fun _ => hbin, hunread⟩
  · obtain rfl := hdown (by simpa using ‹¬ l.up = true›)
    exact ⟨w.lib, stepOf_of_error (by simp [buttonServiceIsrCallback, memory, xQueueGiveFromISR]),
      hdown, hup, hunread⟩

theorem tells_of_callback (h : l.callback = 0) (bits : UInt16) (state : ButtonState) :
    l.tells bits state = [] := if_pos (.inl h)

theorem run_if_emit {α : Type} (h : l.callback ≠ 0) (w : World T) (sema : Handle) (d : D)
    (bits : UInt16) (state : ButtonState) (a : α) :
    EStateM.run (do
      if bits ≠ 0 then emit bits state
      pure a) (l.memory w sema d) =
      .ok a (({ l with
        events := l.events ++ l.tells bits state } : ButtonLife).memory w sema d) := by
  rw [ButtonSystem.run_if_emit (m := l.memory w sema d) h, ButtonSystem.emitted]
  simp only [tells, h, false_or]
  rfl

/-- Once the driver is read, the callback is told of both kinds of changes. -/
theorem run_finish_notify (l : ButtonLife) (w : World T) (sema : Handle) (d : D)
    (pressed released : UInt16) :
    EStateM.run (Point.finish R 3 (.notify pressed released)) (l.memory w sema d) =
      .ok true (({ l with
        events := l.events ++ l.tells pressed .BUTTON_PRESSED ++
          l.tells released .BUTTON_RELEASED } : ButtonLife).memory w sema d) := by
  by_cases hcb : l.callback = 0
  · simp [Point.finish, Point.next, memory, hcb, tells_of_callback hcb]
  · have hnotify : EStateM.run (Point.next R (.notify pressed released)) (l.memory w sema d) =
        .ok (.inl (.emitPressed pressed released)) (l.memory w sema d) := by
      simp [Point.next, memory, hcb]
    rw [Point.finish, EStateM.run_bind, hnotify]
    simp only [Sum.elim_inl]
    rw [Point.finish, EStateM.run_bind, Point.next, run_if_emit hcb]
    simp only [Sum.elim_inl]
    rw [Point.finish, EStateM.run_bind, Point.next, run_if_emit (by exact hcb)]
    rfl

theorem Held.process (h : Held R l w sema d) (option : ExecutionOption) :
    l.Answers R w sema d (.processOneEvent option) := by
  obtain ⟨hdown, hup, hunread⟩ := h
  cases hl : l.up with
  | false =>
    obtain rfl := hdown hl
    have hanswer : l.answer (.processOneEvent option) = (.left .assertFailed, l) := if_pos hl
    rw [Answers, hanswer]
    refine ⟨w.lib, nullptr, d, stepOf_of_error ?_, hdown, hup, hunread⟩
    cases option <;> simp [buttonServiceProcessOneEvent, memory, uxSemaphoreGetCount,
      uxQueueMessagesWaiting, xQueueSemaphoreTake]
  | true =>
    have hbin := hup hl
    cases hraised : l.raised with
    | false =>
      rw [hraised] at hbin
      have hanswer : l.answer (.processOneEvent option) = (.returned (.bool false), l) := by
        simp [answer, ButtonLife.process, hl, hraised]
      rw [Answers, hanswer]
      refine ⟨w.lib, sema, d, stepOf_of_ok ?_, hdown, hup, hunread⟩
      have hcount := hbin.run_uxSemaphoreGetCount
      have htake := hbin.run_xQueueSemaphoreTake_none
      cases option <;> simp [buttonServiceProcessOneEvent, memory, hcount, htake]
    | true =>
      rw [hraised] at hbin
      have hcount := hbin.run_uxSemaphoreGetCount
      obtain ⟨lib, htake, hbin'⟩ := hbin.run_xQueueSemaphoreTake
      have hread := R.read_answer d
      rw [hunread] at hread
      have hanswer : l.answer (.processOneEvent option) = (.returned (.bool true), { l with
          raised := false
          unread := ⊥
          events := l.events ++ [.read l.unread] ++ l.tells l.unread.pressed .BUTTON_PRESSED ++
            l.tells l.unread.released .BUTTON_RELEASED }) := by
        simp [answer, ButtonLife.process, hl, hraised]
      rw [Answers, hanswer]
      refine ⟨lib, sema, (R.read d).2, stepOf_of_ok ?_, hdown, fun _ => hbin',
        R.unread_read d⟩
      have hchecked : EStateM.run (Point.next R (.check option)) (l.memory w sema d) =
          .ok (.inl .take) (l.memory w sema d) := by
        cases option <;> simp [Point.next, memory, hcount]
      have htaken : EStateM.run (Point.next R .take) (l.memory w sema d) =
          .ok (.inl .read) (l.memory { w with lib } sema d) := by
        simp [Point.next, memory, htake, pdTRUE_ne_pdFALSE]
      have hnext : EStateM.run (Point.next R .read) (l.memory { w with lib } sema d) =
          .ok (.inl (.notify l.unread.pressed l.unread.released))
            (({ l with events := l.events ++ [.read l.unread] } : ButtonLife).memory { w with lib }
              sema (R.read d).2) := by
        simp [Point.next, buttonReaderRead, memory, hread]
      rw [← finish_check, Point.finish, EStateM.run_bind, hchecked]
      simp only [Sum.elim_inl]
      rw [Point.finish, EStateM.run_bind, htaken]
      simp only [Sum.elim_inl]
      rw [Point.finish, EStateM.run_bind, hnext]
      exact run_finish_notify ..

theorem Held.init (h : Held R l w sema d) {addr : Handle} (ha : w.lib.Vacant addr) :
    l.Answers R w sema d (.init addr) := by
  obtain ⟨hdown, hup, hunread⟩ := h
  rw [Answers, answer]
  split
  · refine ⟨w.lib, sema, d, stepOf_of_error ?_, hdown, hup, hunread⟩
    rcases ‹_ ∨ _ ∨ _› with hl | hcb | hcontext
    · simp [buttonServiceInit, memory, (hup hl).ne_nullptr]
    · by_cases hsema : sema = nullptr <;> simp [buttonServiceInit, memory, hsema, hcb]
    · by_cases hsema : sema = nullptr <;> by_cases hcb : l.callback = 0 <;>
        simp [buttonServiceInit, memory, hsema, hcb, hcontext]
  · simp only [not_or, Bool.not_eq_true, not_not] at *
    obtain ⟨hl, hcb, hcontext⟩ := ‹_ ∧ _›
    obtain rfl := hdown hl
    obtain ⟨lib, hcreate, hbin⟩ := ha.isBinary
    have hrun := run_withWorld_of_ok (m := l.memory w nullptr d) hcreate
    refine ⟨lib, addr, d, stepOf_of_ok (a := ()) ?_, (fun h => by cases h), fun _ => hbin,
      hunread⟩
    simp [buttonServiceInit, memory, hcb, hcontext, hcreate, ha.fresh.1]

theorem Held.destroy (h : Held R l w sema d) : l.Answers R w sema d .destroy := by
  obtain ⟨hdown, hup, hunread⟩ := h
  cases hl : l.up with
  | false =>
    obtain rfl := hdown hl
    refine ⟨w.lib, nullptr, d, stepOf_of_ok (a := ()) ?_, fun _ => rfl, (fun h => by cases h),
      hunread⟩
    simp [buttonServiceDestroy, memory, answer]
    rfl
  | true =>
    have hbin := hup hl
    have hbinary : ¬ queueQUEUE_TYPE_BINARY_SEMAPHORE = queueQUEUE_TYPE_MUTEX := by decide
    obtain ⟨code, lib, hgive, hbin'⟩ := hbin.run_xSemaphoreGive
    have hdelete : EStateM.run (vQueueDelete sema) lib = .ok () (lib.free sema) :=
      (run_vQueueDelete hbin'.ne_nullptr hbin'.live).trans
        (congrArg _ (congrArg (Lib.free · sema) (if_neg hbinary)))
    refine ⟨lib.free sema, nullptr, d, stepOf_of_ok (a := ()) ?_, fun _ => rfl,
      (fun h => by cases h), hunread⟩
    simp [buttonServiceDestroy, memory, answer, hbin.ne_nullptr, hgive, hdelete, vTaskDelete]
    rfl

theorem Held.change (h : Held R l w sema d) (c : Changes) : l.Answers R w sema d (.change c) := by
  have hnote : Held R (l.note c) w sema (R.change c d) :=
    ⟨h.down, h.up, by rw [R.unread_change, h.unread]; rfl⟩
  rw [Answers, answer]
  split
  · obtain ⟨lib, hstep, hheld⟩ := hnote.interrupt
    refine ⟨lib, sema, R.change c d, ?_, hheld⟩
    have hrun : EStateM.run (buttonChange R c) (l.memory w sema d) =
        EStateM.run buttonServiceIsrCallback ((l.note c).memory w sema (R.change c d)) := by
      simp [buttonChange, memory, note, ‹l.armed = true›]
    rw [StepOf, ButtonCall.exec, run_map, hrun]
    exact hstep
  · refine ⟨w.lib, sema, R.change c d, stepOf_of_ok (a := ()) ?_, hnote⟩
    simp [buttonChange, memory, note, ‹¬ l.armed = true›]

theorem Held.start (h : Held R l w sema d) (option : ExecutionOption) :
    l.Answers R w sema d (.start option) := by
  obtain ⟨hdown, hup, hunread⟩ := h
  cases option with
  | EXECUTION_OPTION_NORMAL => exact ⟨w.lib, sema, d, rfl, hdown, hup, hunread⟩
  | EXECUTION_OPTION_UNIT_TEST =>
    exact ⟨w.lib, sema, R.init d, rfl, hdown, hup, R.unread_init d⟩

/-- **Every call of the service is answered as the machine answers it.** -/
theorem Held.answers (h : Held R l w sema d) {c : ButtonCall} (ha : c.Granted w.lib) :
    l.Answers R w sema d c := by
  cases c with
  | init addr => exact h.init ha
  | start option => exact h.start option
  | register callback context => exact ⟨w.lib, sema, d, rfl, h.down, h.up, h.unread⟩
  | processOneEvent option => exact h.process option
  | simulateIsr =>
    obtain ⟨lib, hstep, hheld⟩ := h.interrupt
    exact ⟨lib, sema, d, hstep, hheld⟩
  | change c => exact h.change c
  | destroy => exact h.destroy

/-- What spares the semaphore is not noticed. -/
theorem Held.withWorld (h : Held R l w sema d) {w' : World T}
    (hlib : sema ≠ nullptr → Lib.Spares sema w.lib w'.lib) : Held R l w' sema d := by
  refine ⟨h.down, fun hl => ?_, h.unread⟩
  obtain ⟨hn, hno, hlive⟩ := h.up hl
  obtain ⟨hno', hlookup⟩ := hlib hn hno
  exact ⟨hn, hno', hlookup.trans hlive⟩

/-- The stage of the life that a memory shows. -/
def Shown (R : ButtonReader D) (m : ButtonMemory D T) (l : ButtonLife) : Prop :=
  ∃ w sema d, m = l.memory w sema d ∧ Held R l w sema d

section Shown

variable {m m' : ButtonMemory D T}

theorem Shown.events_eq (h : Shown R m l) : m.events = l.events := by
  obtain ⟨w, sema, d, rfl, -⟩ := h
  rfl

/-- The semaphore is in the library. -/
theorem Shown.live (h : Shown R m l) (hn : m.vars.s_eventSema ≠ nullptr) :
    (m.world.lib.lookup m.vars.s_eventSema).isSome := by
  obtain ⟨w, sema, d, rfl, hheld⟩ := h
  cases hl : l.up with
  | false => exact absurd (hheld.down hl) hn
  | true => exact Option.isSome_iff_exists.mpr ⟨_, (hheld.up hl).live⟩

/-- A call shows the next stage, and touches only the queues of the library. -/
theorem Shown.answers (h : Shown R m l) {c : ButtonCall} {r : Reply}
    (hstep : StepOf (c.exec R) m r m') (ha : c.Granted m.world.lib) :
    ButtonLife.Step l c r (l.answer c).2 ∧ Shown R m' (l.answer c).2 ∧
      ∃ lib, m'.world = { m.world with lib } := by
  obtain ⟨w, sema, d, rfl, hheld⟩ := h
  obtain ⟨lib, sema', d', hanswer, hheld'⟩ := hheld.answers ha
  obtain ⟨rfl, rfl⟩ := hstep.deterministic hanswer
  exact ⟨rfl, ⟨_, sema', d', rfl, hheld'⟩, lib, rfl⟩

theorem Shown.withWorld (h : Shown R m l) {w : World T} (hlib : m.vars.s_eventSema ≠ nullptr →
    Lib.Spares m.vars.s_eventSema m.world.lib w.lib) : Shown R { m with world := w } l := by
  obtain ⟨w', sema, d, rfl, hheld⟩ := h
  exact ⟨w, sema, d, rfl, hheld.withWorld hlib⟩

end Shown

end ButtonLife

open ButtonLife ButtonMemory

/-- **The button service refines the machine.** Over every run of a program that sets the service
up, uses it and tears it down, with buttons changing and other calls of the library in between, the
service's answers, and what happens between it and its surroundings, are those of the machine. -/
theorem buttonService_refines {m : ButtonMemory D T} {tr : List ((ButtonCall ⊕ Call) × Reply)}
    (w : World T) (d : D) (hrun : Run (SharedStep R) ⟨w, {}, d, none, []⟩ tr m) :
    ∃ l, Run ButtonLife.Step ⟨false, false, false, R.unread d, 0, 0, []⟩
        (project Sum.getLeft? tr) l ∧ m.events = l.events := by
  have hstart : Shown R (⟨w, {}, d, none, []⟩ : ButtonMemory D T)
      ⟨false, false, false, R.unread d, 0, 0, []⟩ :=
    ⟨w, nullptr, d, rfl, fun _ => rfl, (fun h => by cases h), rfl⟩
  refine (hrun.unwind (R := Shown R) ?_ ?_ hstart).imp fun l h => ⟨h.1, h.2.events_eq⟩
  · rintro m l (c | c) c' r m' hsee hm hstep
    · obtain rfl : c = c' := Option.some.inj hsee
      cases hstep with
      | service hstep hd ha =>
        obtain ⟨hl, hm', -⟩ := hm.answers hstep ha
        exact ⟨_, hl, hm'⟩
    · cases hsee
  · rintro m l (c | c) r m' hsee hm hstep
    · cases hsee
    · cases hstep with
      | others hstep hd hh =>
        refine hm.withWorld (w := { m.world with lib := _ }) fun hn hno =>
          hstep.spares hd hn (fun hmem => ?_) hno
        exact (hh _ hmem).elim hn fun hne => hne rfl

theorem buttonService_refines_lateChange : ∃ m,
    Run (SharedStep ButtonReader.register) ButtonMemory.ready lateChange m ∧
    ∃ l, Run ButtonLife.Step ⟨false, false, false, ⊥, 0, 0, []⟩
        (project Sum.getLeft? lateChange) l ∧ m.events = l.events := by
  obtain ⟨m, hrun⟩ := lateChange_run
  exact ⟨m, hrun, buttonService_refines _ _ hrun⟩

end FakeFreeRtos
