import FakeFreeRtos.Button.Interleaving
import FakeFreeRtos.Foundations.Wakeup
import FakeFreeRtos.Semaphore.Binary

/-!
# The button service loses no change

The driver and the semaphore are a mailbox with a flag (`Foundations.Mailbox`), and the service is
its server: it takes the token before it reads the driver. So a change that comes between the two is
announced again, and while the driver holds a change that was not read, the token is there or the
service is about to read (`ButtonSystem.Announced`). When `ButtonService_ProcessOneEvent` finds no
token, every change has been read, by exactly one read, and the service has answered each read with
the callbacks that the changes call for (`AllDelivered`).
-/

namespace FakeFreeRtos

open Foundations

/-! ## What the changes call for -/

namespace Changes

/-- The buttons that went to a state. -/
def bits (c : Changes) : ButtonState → UInt16
  | .BUTTON_PRESSED => c.pressed
  | .BUTTON_RELEASED => c.released

theorem bits_sup (c d : Changes) (state : ButtonState) :
    (c ⊔ d).bits state = c.bits state ||| d.bits state := by
  cases state <;> rfl

theorem bits_merge_and_ne_zero {w : List Changes} {state : ButtonState} {bit : UInt16} :
    (merge w).bits state &&& bit ≠ 0 ↔ ∃ c ∈ w, c.bits state &&& bit ≠ 0 := by
  induction w with
  | nil => cases state <;> simp [bits]
  | cons d w ih =>
    have hdist : (d ⊔ merge w).bits state &&& bit =
        d.bits state &&& bit ||| (merge w).bits state &&& bit := by
      rw [bits_sup, ← UInt16.toBitVec_inj]
      exact BitVec.and_or_distrib_right
    rw [merge_cons, hdist, Ne, UInt16.or_eq_zero_iff, not_and_or, ← Ne, ← Ne, ih]
    simp only [List.exists_mem_cons_iff]

end Changes

/-- The flags of the on/off and function-A buttons that went to `state` in one of the changes. -/
def flagsTo (state : ButtonState) (w : List Changes) : ButtonFlag :=
  (if ∃ c ∈ w, c.bits state &&& ON_OFF_BIT ≠ 0 then BUTTON_ON_OFF else 0) |||
    if ∃ c ∈ w, c.bits state &&& FUNC_A_BIT ≠ 0 then BUTTON_FUNC_A else 0

theorem emitFlags_merge (state : ButtonState) (w : List Changes) :
    emitFlags ((merge w).bits state) = flagsTo state w := by
  simp only [emitFlags, flagsTo, Changes.bits_merge_and_ne_zero]
  split <;> split <;> rfl

/-- What the service reports: a read, or a callback with its flags and state. -/
inductive ButtonReport
  | read (c : Changes)
  | callback (flags : ButtonFlag) (state : ButtonState)
  deriving DecidableEq

def ButtonEvent.report : ButtonEvent → List ButtonReport
  | .change _ => []
  | .read c => [.read c]
  | .callback _ flags state _ => [.callback flags state]

def ButtonEvent.mail : ButtonEvent → List (Mail Changes)
  | .change c => [.posted c]
  | .read c => [.collected c]
  | .callback .. => []

/-- The callback for the buttons that went to `state`, if there are any. -/
def told (flags : ButtonFlag) (state : ButtonState) : List ButtonReport :=
  if flags = 0 then [] else [.callback flags state]

/-- What the changes between two reads call for: a callback for the buttons that were pressed, and
one for those that were released. -/
def answers (w : List Changes) : List ButtonReport :=
  told (flagsTo .BUTTON_PRESSED w) .BUTTON_PRESSED ++
    told (flagsTo .BUTTON_RELEASED w) .BUTTON_RELEASED

/-- The changes, cut at the reads. -/
def changeWindows (events : List ButtonEvent) : Windows Changes :=
  windows (events.flatMap ButtonEvent.mail)

/-- The buttons of the service: the bit of the driver and the flag of the callback. -/
def serviceButtons : List (UInt16 × ButtonFlag) :=
  [(ON_OFF_BIT, BUTTON_ON_OFF), (FUNC_A_BIT, BUTTON_FUNC_A)]

/-- Every change is read by exactly one read, and answered. -/
structure AllDelivered (changes : List Changes) (events : List ButtonEvent) : Prop where
  /-- The windows between the reads are cut from the changes. -/
  once : (changeWindows events).closed.flatten ++ (changeWindows events).current = changes
  /-- Only empty changes have not been read. -/
  none_unread : ∀ c ∈ (changeWindows events).current, c = ⊥
  /-- Each read returns what changed in its window, and is answered by the callbacks that the window
  calls for. -/
  reports : events.flatMap ButtonEvent.report =
    (changeWindows events).closed.flatMap fun w => .read (merge w) :: answers w
  /-- A button of the service that was pressed or released is told of in a later callback. -/
  heard : ∀ before c after, events = before ++ .change c :: after →
    ∀ button ∈ serviceButtons, ∀ state, c.bits state &&& button.1 ≠ 0 →
      ∃ callback flags context, .callback callback flags state context ∈ after ∧
        flags &&& button.2 ≠ 0

/-! ## The service serves the mailbox -/

variable {D T : Type} (R : ButtonReader D)

/-- What the service still has to report of its last read. -/
def owed : Option Point → List ButtonReport
  | some (.notify pressed released) | some (.emitPressed pressed released) =>
    told (emitFlags pressed) .BUTTON_PRESSED ++ told (emitFlags released) .BUTTON_RELEASED
  | some (.emitReleased released) => told (emitFlags released) .BUTTON_RELEASED
  | _ => []

/-- What a read obliges the service to report. -/
def ButtonEvent.due : ButtonEvent → List ButtonReport
  | .read c => .read c :: owed (some (.notify c.pressed c.released))
  | _ => []

namespace ButtonSystem

/-- The driver and the semaphore are the mailbox `b`, which a service at `p` serves. -/
structure Represents (m : ButtonMemory D T) (p : Option Point) (b : Mailbox Changes) : Prop where
  binary : m.world.lib.IsBinary m.vars.s_eventSema b.flag
  unread : R.unread m.driver = b.contents
  serving : b.serving = decide (p = some .read)
  isr : m.isrCallback = some .ButtonService_IsrCallback
  callback : m.vars.s_callback ≠ 0

/-- One step, as the mailbox sees it: what is new in the events is mail for it, and what was owed
and has become due is reported or still owed. -/
def Simulates (m : ButtonMemory D T) (p : Option Point) (b : Mailbox Changes)
    (changes : List Changes) (r : Option Bool) (m' : ButtonMemory D T) (p' : Option Point) : Prop :=
  ∃ new b', m'.events = m.events ++ new ∧ Represents R m' p' b' ∧
    b.Step (new.flatMap ButtonEvent.mail) b' ∧
    (new.flatMap ButtonEvent.mail).flatMap Mail.news = changes ∧
    owed p ++ new.flatMap ButtonEvent.due = new.flatMap ButtonEvent.report ++ owed p' ∧
    (r = some false → b'.flag = false ∧ b'.serving = false)

variable {R} {m m' : ButtonMemory D T} {p p' : Option Point} {b b' : Mailbox Changes}

/-- A step without events. -/
theorem Represents.quiet (h : Represents R m' p' b') {r : Option Bool}
    (hevents : m'.events = m.events) (hstep : b.Step [] b') (howed : owed p = owed p')
    (hasleep : r = some false → b'.flag = false ∧ b'.serving = false) :
    Simulates R m p b [] r m' p' := by
  refine ⟨[], b', ?_, h, hstep, rfl, ?_, hasleep⟩
  · rw [hevents, List.append_nil]
  · rw [List.flatMap_nil, List.flatMap_nil, List.append_nil, List.nil_append, howed]

/-- A change is posted, and its interrupt raises the flag. -/
theorem Represents.change (h : Represents R m p b) (c : Changes) :
    ∃ m', EStateM.run (buttonChange R c) m = .ok () m' ∧ Simulates R m p b [c] none m' p := by
  obtain ⟨code, lib, hgive, hbin⟩ := h.binary.run_xQueueGiveFromISR
  refine ⟨{ m with
    world := { m.world with lib }, driver := R.change c m.driver
    events := m.events ++ [.change c] }, ?_, [.change c],
    { b with contents := b.contents ⊔ c, flag := true }, rfl,
    ⟨hbin, ?_, h.serving, h.isr, h.callback⟩, .post c, rfl, ?_, nofun⟩
  · simp [buttonChange, h.isr, buttonServiceIsrCallback, hgive]
  · rw [R.unread_change, h.unread]
  · simp [ButtonEvent.due, ButtonEvent.report]

theorem Represents.register (h : Represents R m p b) {callback : UInt64} (hc : callback ≠ 0)
    (context : UInt64) : Simulates R m p b [] none
      { m with vars := { m.vars with s_callback := callback, s_context := context } } p := by
  have hreg : Represents R
      { m with vars := { m.vars with s_callback := callback, s_context := context } } p b :=
    ⟨h.binary, h.unread, h.serving, h.isr, hc⟩
  exact hreg.quiet rfl .rest rfl nofun

theorem Represents.other (h : Represents R m p b) {c : Call} {r : Reply} {lib : Lib}
    (hs : m.world.lib.Step c r lib) (hd : r.Defined) (hh : m.vars.s_eventSema ∉ c.handles) :
    Simulates R m p b [] none { m with world := { m.world with lib } } p := by
  have hother : Represents R { m with world := { m.world with lib } } p b :=
    ⟨h.binary.spared hs hd hh, h.unread, h.serving, h.isr, h.callback⟩
  exact hother.quiet rfl .rest rfl nofun

/-! ### The points of the service -/

/-- The service moves to another point, and nothing else happens. -/
theorem Represents.moves (h : Represents R m p b) {r : Option Bool}
    (hp : decide (p = some .read) = false) (hp' : decide (p' = some .read) = false)
    (howed : owed p = owed p') (hasleep : r = some false → b.flag = false) :
    Simulates R m p b [] r m p' := by
  have hserving : b.serving = false := h.serving.trans hp
  refine Represents.quiet ⟨h.binary, h.unread, ?_, h.isr, h.callback⟩ rfl .rest howed
    fun hr => ⟨hasleep hr, hserving⟩
  exact hserving.trans hp'.symm

/-- The same when the call does not return false. -/
theorem Represents.movesOn (h : Represents R m p b) {r : Option Bool} (hr : r ≠ some false)
    (hp : decide (p = some .read) = false) (hp' : decide (p' = some .read) = false)
    (howed : owed p = owed p') : Simulates R m p b [] r m p' :=
  h.moves hp hp' howed fun he => absurd he hr

theorem Represents.check {option : ExecutionOption}
    (h : Represents R m (some (.check option)) b) :
    ∃ o m', EStateM.run (Point.next R (.check option)) m = .ok o m' ∧
      Simulates R m (some (.check option)) b [] o.getRight? m' o.getLeft? := by
  cases option with
  | EXECUTION_OPTION_NORMAL =>
    exact ⟨.inl .take, m, by simp [Point.next], h.movesOn (by decide) rfl rfl rfl⟩
  | EXECUTION_OPTION_UNIT_TEST =>
    have hcount := run_withWorld_of_ok h.binary.run_uxSemaphoreGetCount
    cases hflag : b.flag with
    | false =>
      refine ⟨.inr false, m, ?_, h.moves rfl rfl rfl fun _ => hflag⟩
      simp [Point.next, hcount, hflag]
    | true =>
      refine ⟨.inl .take, m, ?_, h.movesOn (by decide) rfl rfl rfl⟩
      simp [Point.next, hcount, hflag]

theorem Represents.take (h : Represents R m (some .take) b) :
    ∃ o m', EStateM.run (Point.next R .take) m = .ok o m' ∧
      Simulates R m (some .take) b [] o.getRight? m' o.getLeft? := by
  have hbin := h.binary
  cases hflag : b.flag with
  | false =>
    rw [hflag] at hbin
    have htake := run_withWorld_of_ok hbin.run_xQueueSemaphoreTake_none
    exact ⟨.inr false, m, by simp [Point.next, htake], h.moves rfl rfl rfl fun _ => hflag⟩
  | true =>
    rw [hflag] at hbin
    obtain ⟨lib, htake, hbin'⟩ := hbin.run_xQueueSemaphoreTake
    have hrun := run_withWorld_of_ok htake
    have htaken : Represents R { m with world := { m.world with lib } } (some .read)
        { b with flag := false, serving := true } :=
      ⟨hbin', h.unread, rfl, h.isr, h.callback⟩
    exact ⟨.inl .read, _, by simp [Point.next, hrun, pdTRUE_ne_pdFALSE],
      htaken.quiet rfl (.lower hflag) rfl fun he => absurd he (by decide)⟩

theorem Represents.read (h : Represents R m (some .read) b) :
    ∃ o m', EStateM.run (Point.next R .read) m = .ok o m' ∧
      Simulates R m (some .read) b [] o.getRight? m' o.getLeft? := by
  have hanswer := R.read_answer m.driver
  rw [h.unread] at hanswer
  refine ⟨.inl (.notify b.contents.pressed b.contents.released), { m with
    driver := (R.read m.driver).2, events := m.events ++ [.read b.contents] }, ?_,
    [.read b.contents], { b with contents := ⊥, serving := false }, rfl,
    ⟨h.binary, R.unread_read m.driver, rfl, h.isr, h.callback⟩, .collect h.serving, rfl, ?_, nofun⟩
  · simp [Point.next, buttonReaderRead, hanswer]
  · simp [ButtonEvent.due, ButtonEvent.report, owed]

theorem Represents.notify {pressed released : UInt16}
    (h : Represents R m (some (.notify pressed released)) b) :
    ∃ o m', EStateM.run (Point.next R (.notify pressed released)) m = .ok o m' ∧
      Simulates R m (some (.notify pressed released)) b [] o.getRight? m' o.getLeft? :=
  ⟨.inl (.emitPressed pressed released), m, by simp [Point.next, h.callback],
    h.movesOn (by simp) rfl rfl rfl⟩

/-- The callback of an `Emit`. -/
def emitted (m : ButtonMemory D T) (bits : UInt16) (state : ButtonState) : List ButtonEvent :=
  if emitFlags bits = 0 then []
  else [.callback m.vars.s_callback (emitFlags bits) state m.vars.s_context]

theorem run_emit (hc : m.vars.s_callback ≠ 0) (bits : UInt16) (state : ButtonState) :
    EStateM.run (emit bits state) m =
      .ok () { m with events := m.events ++ emitted m bits state } := by
  by_cases hflags : emitFlags bits = 0
  · simp [emit, emitted, hflags]
  · simp [emit, emitted, hflags, hc]

/-- Nothing is emitted for no buttons. -/
theorem run_if_emit {α : Type} (hc : m.vars.s_callback ≠ 0) (bits : UInt16) (state : ButtonState)
    (a : α) :
    EStateM.run (do
      if bits ≠ 0 then emit bits state
      pure a) m = .ok a { m with events := m.events ++ emitted m bits state } := by
  by_cases hbits : bits = 0
  · subst hbits
    simp [emitted, show emitFlags 0 = 0 by decide]
  · simp [hbits, run_emit hc]

/-- An `Emit` reports what was owed for its buttons. -/
theorem Represents.emits (h : Represents R m p b) {bits : UInt16} {state : ButtonState}
    {r : Option Bool} (hr : r ≠ some false) (hp : decide (p = some .read) = false)
    (hp' : decide (p' = some .read) = false)
    (howed : owed p = told (emitFlags bits) state ++ owed p') :
    Simulates R m p b [] r { m with events := m.events ++ emitted m bits state } p' := by
  have hserving : b.serving = decide (p' = some .read) := by
    rw [h.serving, hp, hp']
  refine ⟨emitted m bits state, b, rfl, ⟨h.binary, h.unread, hserving, h.isr, h.callback⟩,
    ?_, ?_, ?_, fun he => absurd he hr⟩
  · unfold emitted
    split
    · exact .rest
    · exact .rest
  · unfold emitted
    split <;> rfl
  · rw [howed]
    unfold emitted told
    split <;> simp [ButtonEvent.due, ButtonEvent.report]

theorem Represents.emitPressed {pressed released : UInt16}
    (h : Represents R m (some (.emitPressed pressed released)) b) :
    ∃ o m', EStateM.run (Point.next R (.emitPressed pressed released)) m = .ok o m' ∧
      Simulates R m (some (.emitPressed pressed released)) b [] o.getRight? m' o.getLeft? :=
  ⟨.inl (.emitReleased released), _, run_if_emit h.callback pressed .BUTTON_PRESSED _,
    h.emits (by simp) rfl rfl rfl⟩

theorem Represents.emitReleased {released : UInt16}
    (h : Represents R m (some (.emitReleased released)) b) :
    ∃ o m', EStateM.run (Point.next R (.emitReleased released)) m = .ok o m' ∧
      Simulates R m (some (.emitReleased released)) b [] o.getRight? m' o.getLeft? :=
  ⟨.inr true, _, run_if_emit h.callback released .BUTTON_RELEASED _,
    h.emits (by simp) rfl rfl (List.append_nil _).symm⟩

/-- **Every step of the service runs, and serves the mailbox.** -/
theorem Represents.next {q : Point} (h : Represents R m (some q) b) :
    ∃ o m', EStateM.run (q.next R) m = .ok o m' ∧
      Simulates R m (some q) b [] o.getRight? m' o.getLeft? := by
  cases q with
  | check option => exact h.check
  | take => exact h.take
  | read => exact h.read
  | notify pressed released => exact h.notify
  | emitPressed pressed released => exact h.emitPressed
  | emitReleased released => exact h.emitReleased

/-! ## Runs -/

variable {s s' : ButtonSystem D T} {a : ButtonAction} {r : Option Bool} {cs : List Changes}

theorem Represents.step (h : Represents R s.memory s.service b)
    (hs : ButtonSystem.Step R s a r s') :
    Simulates R s.memory s.service b a.changes r s'.memory s'.service := by
  cases hs with
  | change hrun =>
    obtain ⟨m₁, hrun₁, hsim⟩ := h.change _
    cases hrun.symm.trans hrun₁
    exact hsim
  | register hc hrun =>
    cases hrun
    exact h.register hc _
  | other hlib hd hh => exact h.other hlib hd hh
  | call => exact h.movesOn (by decide) rfl rfl rfl
  | proceed hrun =>
    obtain ⟨o, m₁, hrun₁, hsim⟩ := h.next
    cases hrun.symm.trans hrun₁
    exact hsim

/-- A call returns by a step of its own, and is over then. -/
theorem Step.of_returned {v : Bool} (hs : ButtonSystem.Step R s a (some v) s') :
    a = .proceed ∧ s'.service = none := by
  generalize hr : some v = r at hs
  cases hs with
  | @proceed _ _ _ o hrun =>
    cases o with
    | inl => cases hr
    | inr => exact ⟨rfl, rfl⟩
  | _ => cases hr

variable (R) in
/-- The service serves the mailbox `b`, and the events so far account for it. -/
structure Serves (changes : List Changes) (s : ButtonSystem D T) (b : Mailbox Changes) : Prop where
  represents : Represents R s.memory s.service b
  changes : (s.memory.events.flatMap ButtonEvent.mail).flatMap Mail.news = changes
  sound : Mailbox.Sound (s.memory.events.flatMap ButtonEvent.mail) b
  reports : s.memory.events.flatMap ButtonEvent.report ++ owed s.service =
    s.memory.events.flatMap ButtonEvent.due

/-- **Every step keeps the account.** -/
theorem Serves.step (h : Serves R cs s b) (hs : ButtonSystem.Step R s a r s') :
    ∃ b', Serves R (cs ++ a.changes) s' b' ∧
      (r = some false → b'.flag = false ∧ b'.serving = false) := by
  obtain ⟨new, b', hevents, hrep, hstep, hchanges, howed, hasleep⟩ := h.represents.step hs
  refine ⟨b', ⟨hrep, ?_, ?_, ?_⟩, hasleep⟩
  · rw [hevents, List.flatMap_append, List.flatMap_append, h.changes, hchanges]
  · rw [hevents, List.flatMap_append]
    exact h.sound.step hstep
  · rw [hevents, List.flatMap_append, List.flatMap_append, List.append_assoc, ← howed,
      ← List.append_assoc, h.reports]

/-- The changes of a run. -/
def changesOf (tr : List (ButtonAction × Option Bool)) : List Changes :=
  tr.flatMap fun x => x.1.changes

theorem Serves.run {tr : List (ButtonAction × Option Bool)} (h : Serves R [] s b)
    (hrun : Run (ButtonSystem.Step R) s tr s') : ∃ b', Serves R (changesOf tr) s' b' := by
  refine hrun.history (I := fun tr s => ∃ b, Serves R (changesOf tr) s b) ?_ ⟨b, h⟩
  rintro tr s₁ a r s₂ ⟨b₁, h₁⟩ hs
  obtain ⟨b₂, h₂, -⟩ := h₁.step hs
  rw [changesOf, List.flatMap_append, List.flatMap_singleton]
  exact ⟨b₂, h₂⟩

variable (R) in
/-- A change that was not read is announced by the token, or the service is between its take and its
read. -/
def Announced (s : ButtonSystem D T) : Prop :=
  R.unread s.memory.driver ≠ ⊥ →
    EStateM.run (uxSemaphoreGetCount s.memory.vars.s_eventSema) s.memory.world.lib =
        .ok 1 s.memory.world.lib ∨
      s.service = some .read

theorem Serves.announced (h : Serves R cs s b) : s.Announced R := by
  intro hne
  rw [h.represents.unread] at hne
  rcases h.sound.announced hne with hflag | hserving
  · have hcount := h.represents.binary.run_uxSemaphoreGetCount
    rw [hflag] at hcount
    exact .inl hcount
  · rw [h.represents.serving] at hserving
    exact .inr (of_decide_eq_true hserving)

/-! ## Delivery -/

theorem owed_notify_merge (w : List Changes) :
    owed (some (.notify (merge w).pressed (merge w).released)) = answers w := by
  rw [answers, ← emitFlags_merge, ← emitFlags_merge]
  rfl

theorem flatMap_due (events : List ButtonEvent) : events.flatMap ButtonEvent.due =
    ((events.flatMap ButtonEvent.mail).flatMap Mail.contents).flatMap
      fun c => .read c :: owed (some (.notify c.pressed c.released)) := by
  induction events with
  | nil => rfl
  | cons e events ih =>
    rw [List.flatMap_cons, ih, List.flatMap_cons, List.flatMap_append, List.flatMap_append]
    cases e <;> simp [ButtonEvent.due, ButtonEvent.mail, Mail.contents]

/-- When nothing is owed, the reports are those that the changes call for. -/
theorem Serves.flatMap_report (h : Serves R cs s b) (howed : owed s.service = []) :
    s.memory.events.flatMap ButtonEvent.report =
      (changeWindows s.memory.events).closed.flatMap fun w => .read (merge w) :: answers w := by
  have hreports := h.reports
  rw [howed, List.append_nil, flatMap_due, h.sound.collected, List.flatMap_map] at hreports
  rw [hreports, changeWindows]
  simp only [owed_notify_merge]

theorem exists_flag {w : List Changes} {c : Changes} (hc : c ∈ w) {state : ButtonState}
    {button : UInt16 × ButtonFlag} (hb : button ∈ serviceButtons)
    (hbits : c.bits state &&& button.1 ≠ 0) : flagsTo state w &&& button.2 ≠ 0 := by
  have hw : ∃ c ∈ w, c.bits state &&& button.1 ≠ 0 := ⟨c, hc, hbits⟩
  rcases List.mem_pair.mp hb with rfl | rfl
  · rw [flagsTo, if_pos hw]
    split <;> decide
  · rw [flagsTo, if_pos hw]
    split <;> decide

def ButtonReport.isRead : ButtonReport → Bool
  | .read _ => true
  | .callback .. => false

theorem countP_isRead_report (events : List ButtonEvent) :
    (events.flatMap ButtonEvent.report).countP ButtonReport.isRead =
      (changeWindows events).closed.length := by
  rw [changeWindows, length_closed_windows]
  induction events with
  | nil => rfl
  | cons e events ih =>
    rw [List.flatMap_cons, List.countP_append, ih, List.flatMap_cons, List.flatMap_append,
      List.length_append]
    cases e <;> rfl

theorem countP_isRead_told (flags : ButtonFlag) (state : ButtonState) :
    (told flags state).countP ButtonReport.isRead = 0 := by
  unfold told
  split <;> rfl

theorem answers_countP (w : List Changes) :
    (ButtonReport.read (merge w) :: answers w).countP ButtonReport.isRead = 1 := by
  rw [List.countP_cons_of_pos rfl, answers, List.countP_append, countP_isRead_told,
    countP_isRead_told]

/-- The callbacks that a change calls for come after it. -/
theorem mem_report_after {before after : List ButtonEvent} {c : Changes}
    (hc : c ∉ (changeWindows (before ++ .change c :: after)).current)
    (hreports : (before ++ .change c :: after).flatMap ButtonEvent.report =
      (changeWindows (before ++ .change c :: after)).closed.flatMap
        fun w => .read (merge w) :: answers w) :
    ∃ w, c ∈ w ∧ ∀ y ∈ answers w, y ∈ after.flatMap ButtonEvent.report := by
  have hmail : changeWindows (before ++ .change c :: after) =
      windows (before.flatMap ButtonEvent.mail ++ .posted c :: after.flatMap ButtonEvent.mail) := by
    rw [changeWindows, List.flatMap_append, List.flatMap_cons]
    rfl
  rw [hmail] at hc hreports
  obtain ⟨later, hclosed, w, hw, hcw⟩ := exists_window_after hc
  rw [hclosed, List.flatMap_append, List.flatMap_append, List.flatMap_cons] at hreports
  refine ⟨w, hcw, fun y hy => ?_⟩
  exact mem_of_append_eq (fun w => ⟨_, _, rfl, rfl⟩) answers_countP hreports
    (countP_isRead_report before) hw (List.mem_cons_of_mem _ hy)

theorem mem_answers {w : List Changes} {state : ButtonState} (h : flagsTo state w ≠ 0) :
    .callback (flagsTo state w) state ∈ answers w := by
  cases state with
  | BUTTON_PRESSED => simp [answers, told, h]
  | BUTTON_RELEASED => simp [answers, told, h]

theorem exists_callback_of_mem_report {events : List ButtonEvent} {flags : ButtonFlag}
    {state : ButtonState} (h : .callback flags state ∈ events.flatMap ButtonEvent.report) :
    ∃ callback context, .callback callback flags state context ∈ events := by
  obtain ⟨e, he, hmem⟩ := List.mem_flatMap.mp h
  cases e with
  | change => cases hmem
  | read => simp [ButtonEvent.report] at hmem
  | callback callback flags' state' context =>
    obtain ⟨rfl, rfl⟩ : flags = flags' ∧ state = state' := by simpa [ButtonEvent.report] using hmem
    exact ⟨callback, context, he⟩

/-- **A service that finds no token has delivered every change.** -/
theorem Serves.allDelivered (h : Serves R cs s b) (howed : owed s.service = [])
    (hflag : b.flag = false) (hserving : b.serving = false) : AllDelivered cs s.memory.events := by
  have hnone : ∀ c ∈ (changeWindows s.memory.events).current, c = ⊥ :=
    h.sound.asleep hflag hserving
  have hreports := h.flatMap_report howed
  refine ⟨(flatten_windows _).trans h.changes, hnone, hreports, ?_⟩
  intro before c after he button hb state hbits
  rw [he] at hnone hreports
  have hc : c ∉ (changeWindows (before ++ .change c :: after)).current := by
    intro hmem
    rw [hnone c hmem] at hbits
    cases state <;> simp [Changes.bits] at hbits
  obtain ⟨w, hcw, hafter⟩ := mem_report_after hc hreports
  have hflags := exists_flag hcw hb hbits
  have hne : flagsTo state w ≠ 0 := fun hz => hflags (by rw [hz, UInt32.zero_and])
  obtain ⟨callback, context, hmem⟩ := exists_callback_of_mem_report (hafter _ (mem_answers hne))
  exact ⟨callback, _, context, hmem, hflags⟩

/-! ## Setup -/

/-- After the setup the service waits for the first change. -/
theorem exists_setup (R : ButtonReader D) {w : World T} {sema : Handle} (hu : w.lib.Unused sema)
    (d : D) (isr : Option ButtonReaderIsrCallback) {callback : UInt64} (hc : callback ≠ 0)
    (context : UInt64) :
    ∃ m, EStateM.run (buttonServiceTestsSetup R sema callback context) ⟨w, {}, d, isr, []⟩ =
        .ok () m ∧ Serves R [] ⟨m, none⟩ ⟨⊥, false, false⟩ := by
  obtain ⟨lib, hcreate, hbin⟩ := hu.isBinary
  have hrun := run_withWorld_of_ok (m := ⟨w, {}, d, isr, []⟩) hcreate
  refine ⟨⟨{ w with lib }, { s_eventSema := sema, s_callback := callback, s_context := context },
    R.init d, some .ButtonService_IsrCallback, []⟩, ?_, ⟨hbin, R.unread_init d, rfl, rfl, hc⟩,
    rfl, Mailbox.sound_nil false false, rfl⟩
  simp [buttonServiceTestsSetup, buttonServiceInit, buttonServiceStart, buttonServiceInitialize,
    buttonServiceRegisterButtonChangeCallback, buttonReaderInit, buttonReaderRegisterIsrCallback,
    hrun, hu.fresh.1]

end ButtonSystem

open ButtonSystem in
/-- **The button service loses no change.** Whatever the driver, as long as it behaves as its header
says, and however the changes of the buttons, with their interrupts, are interleaved with the steps
of the service and with the rest of the program: a change that was not read is announced, and when
`ButtonService_ProcessOneEvent` returns false, every change has been delivered. -/
theorem buttonService_losesNoChange (R : ButtonReader D) {w : World T} {sema : Handle}
    (hu : w.lib.Unused sema) (d : D) (isr : Option ButtonReaderIsrCallback) {callback : UInt64}
    (hc : callback ≠ 0) (context : UInt64) :
    ∃ m, EStateM.run (buttonServiceTestsSetup R sema callback context) ⟨w, {}, d, isr, []⟩ =
        .ok () m ∧
      ∀ tr s, Run (ButtonSystem.Step R) ⟨m, none⟩ tr s → s.Announced R ∧
        ∀ a s', ButtonSystem.Step R s a (some false) s' →
          AllDelivered (changesOf tr) s'.memory.events := by
  obtain ⟨m, hsetup, hm⟩ := exists_setup R hu d isr hc context
  refine ⟨m, hsetup, fun tr s hrun => ?_⟩
  obtain ⟨b, hb⟩ := hm.run hrun
  refine ⟨hb.announced, fun a s' hs => ?_⟩
  obtain ⟨b', hb', hasleep⟩ := hb.step hs
  obtain ⟨hflag, hserving⟩ := hasleep rfl
  obtain ⟨rfl, hservice⟩ := hs.of_returned
  change Serves R (changesOf tr ++ []) s' b' at hb'
  rw [List.append_nil] at hb'
  exact hb'.allDelivered (by rw [hservice]; rfl) hflag hserving

/-- A driver that is a register of the unread changes. -/
def ButtonReader.register : ButtonReader Changes where
  init _ := ⊥
  change c d := d ⊔ c
  read d := ((true, d.pressed, d.released), ⊥)
  unread d := d
  unread_init _ := rfl
  unread_change _ _ := rfl
  read_answer _ := rfl
  unread_read _ := rfl

/-- On/off is pressed; when the service has looked at the semaphore, function A and another button
are released, whose interrupt finds the token still there. One read returns all of it. -/
theorem buttonService_losesNoChange_two : ∃ m s s',
    EStateM.run (buttonServiceTestsSetup ButtonReader.register 1 7 9)
      (⟨⟨Lib.init, none, 0, false⟩, {}, ⊥, none, []⟩ : ButtonMemory Changes Unit) = .ok () m ∧
    Run (ButtonSystem.Step ButtonReader.register) ⟨m, none⟩
      [(.change ⟨ON_OFF_BIT, 0⟩, none), (.call .EXECUTION_OPTION_UNIT_TEST, none),
        (.proceed, none), (.change ⟨0, FUNC_A_BIT ||| 1⟩, none), (.proceed, none),
        (.proceed, none), (.proceed, none), (.proceed, none), (.proceed, some true),
        (.call .EXECUTION_OPTION_UNIT_TEST, none)] s ∧
    ButtonSystem.Step ButtonReader.register s .proceed (some false) s' ∧
    s'.memory.events = [.change ⟨ON_OFF_BIT, 0⟩, .change ⟨0, FUNC_A_BIT ||| 1⟩,
      .read ⟨ON_OFF_BIT, FUNC_A_BIT ||| 1⟩, .callback 7 BUTTON_ON_OFF .BUTTON_PRESSED 9,
      .callback 7 BUTTON_FUNC_A .BUTTON_RELEASED 9] ∧
    AllDelivered [⟨ON_OFF_BIT, 0⟩, ⟨0, FUNC_A_BIT ||| 1⟩] s'.memory.events := by
  have hu : Lib.init.Unused 1 := Lib.legal_init.unused (by simp [Lib.Fresh, nullptr])
  obtain ⟨m, hsetup, hall⟩ := buttonService_losesNoChange ButtonReader.register
    (w := (⟨Lib.init, none, 0, false⟩ : World Unit)) hu ⊥ none (by decide : (7 : UInt64) ≠ 0) 9
  let mem (token : Bool) (unread : Changes) (events : List ButtonEvent) :
      ButtonMemory Changes Unit :=
    ⟨⟨Lib.init.write 1 (binarySemaphore token), none, 0, false⟩,
      { s_eventSema := 1, s_callback := 7, s_context := 9 }, unread,
      some .ButtonService_IsrCallback, events⟩
  have hm : EStateM.run (buttonServiceTestsSetup ButtonReader.register 1 7 9)
      (⟨⟨Lib.init, none, 0, false⟩, {}, ⊥, none, []⟩ : ButtonMemory Changes Unit) =
      .ok () (mem false ⊥ []) := by
    decide +kernel
  cases hm.symm.trans hsetup
  let all : Changes := ⟨ON_OFF_BIT, FUNC_A_BIT ||| 1⟩
  let first : List ButtonEvent := [.change ⟨ON_OFF_BIT, 0⟩]
  let both : List ButtonEvent := first ++ [.change ⟨0, FUNC_A_BIT ||| 1⟩]
  let read : List ButtonEvent := both ++ [.read all]
  let pressed : List ButtonEvent := read ++ [.callback 7 BUTTON_ON_OFF .BUTTON_PRESSED 9]
  let released : List ButtonEvent := pressed ++ [.callback 7 BUTTON_FUNC_A .BUTTON_RELEASED 9]
  have hchange₁ : EStateM.run (buttonChange ButtonReader.register ⟨ON_OFF_BIT, 0⟩)
      (mem false ⊥ []) = .ok () (mem true ⟨ON_OFF_BIT, 0⟩ first) := by decide +kernel
  have hcheck : EStateM.run (Point.next ButtonReader.register (.check .EXECUTION_OPTION_UNIT_TEST))
      (mem true ⟨ON_OFF_BIT, 0⟩ first) = .ok (.inl .take) (mem true ⟨ON_OFF_BIT, 0⟩ first) := by
    decide +kernel
  have hchange₂ : EStateM.run (buttonChange ButtonReader.register ⟨0, FUNC_A_BIT ||| 1⟩)
      (mem true ⟨ON_OFF_BIT, 0⟩ first) = .ok () (mem true all both) := by decide +kernel
  have htake : EStateM.run (Point.next ButtonReader.register .take) (mem true all both) =
      .ok (.inl .read) (mem false all both) := by decide +kernel
  have hread : EStateM.run (Point.next ButtonReader.register .read) (mem false all both) =
      .ok (.inl (.notify all.pressed all.released)) (mem false ⊥ read) := by decide +kernel
  have hnotify : EStateM.run
      (Point.next ButtonReader.register (.notify all.pressed all.released)) (mem false ⊥ read) =
      .ok (.inl (.emitPressed all.pressed all.released)) (mem false ⊥ read) := by decide +kernel
  have hpressed : EStateM.run
      (Point.next ButtonReader.register (.emitPressed all.pressed all.released))
      (mem false ⊥ read) = .ok (.inl (.emitReleased all.released)) (mem false ⊥ pressed) := by
    decide +kernel
  have hreleased : EStateM.run (Point.next ButtonReader.register (.emitReleased all.released))
      (mem false ⊥ pressed) = .ok (.inr true) (mem false ⊥ released) := by decide +kernel
  have hcheck' : EStateM.run (Point.next ButtonReader.register (.check .EXECUTION_OPTION_UNIT_TEST))
      (mem false ⊥ released) = .ok (.inr false) (mem false ⊥ released) := by decide +kernel
  have hcall : ButtonSystem.Step ButtonReader.register ⟨mem false ⊥ released, none⟩
      (.call .EXECUTION_OPTION_UNIT_TEST) none
      ⟨mem false ⊥ released, some (.check .EXECUTION_OPTION_UNIT_TEST)⟩ := .call
  have hrun := Run.cons (ButtonSystem.Step.change hchange₁) <| .cons ButtonSystem.Step.call <|
    .cons (ButtonSystem.Step.proceed hcheck) <| .cons (ButtonSystem.Step.change hchange₂) <|
    .cons (ButtonSystem.Step.proceed htake) <| .cons (ButtonSystem.Step.proceed hread) <|
    .cons (ButtonSystem.Step.proceed hnotify) <| .cons (ButtonSystem.Step.proceed hpressed) <|
    .cons (ButtonSystem.Step.proceed hreleased) <| .cons hcall <| .nil _
  have hlast := ButtonSystem.Step.proceed hcheck'
  exact ⟨_, _, _, hm, hrun, hlast, rfl, (hall _ _ hrun).2 _ _ hlast⟩

end FakeFreeRtos
