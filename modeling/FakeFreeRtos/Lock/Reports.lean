import FakeFreeRtos.Lock.Controller

/-!
# What the lock service reports

Read off the controller, for every run, with full event queues and currents that are too high:

* every self test that was accepted is made exactly once, and reported with the verdict on what the
  driver answers in the call that makes it (`selfTests_answered`);
* the state that is reported is where the last command sent the lock, after a self test the lock is
  commanded back to the position that was left, and otherwise no position is commanded twice in a
  row (`commands_ordered`);
* a client that remembers the last state it was told knows the state of the service
  (`reports_followed`);
* a tripped assertion costs no more than the request that tripped it: the service still does what
  the latest accepted request asks for (`requests_obeyed_always`).
-/

namespace FakeFreeRtos

open Foundations Hlcs DetourMode

variable {T : Type} (P : Platform T)

/-! ## The books of the controller -/

/-- The events that were accepted, in order. -/
def accepted (tr : List (HlcsCall × Reply)) : List (DetourEvent LockPosition) :=
  tr.filterMap fun cr => if cr.2 = .returned .unit then cr.1.posted? else none

/-- Where the latest accepted request sends the lock; a service starts locked. -/
def latestAccepted (tr : List (HlcsCall × Reply)) : LockPosition :=
  (accepted tr).foldl DetourMachine.headed .locked

/-- What an action shows of the machine. -/
def LockAction.travel? : LockAction → Option (Travel LockPosition)
  | enter p _ => some (.arrived p)
  | selfTest left .. => some (.departed left)
  | readCurrent => none

def LockAction.isSelfTest : LockAction → Bool
  | selfTest .. => true
  | _ => false

/-- The outputs of a self test: the driver is asked, and a callback is told. -/
def Output.ofSelfTest : Output → Bool
  | .HwLockCtrlSelfTest | .selfTestResultCallback .. => true
  | _ => false

/-- What a self test of the driver does while `callback` is registered. -/
def selfTestMade (callback : UInt64) (hw : HwLockCtrl) : List Output :=
  .HwLockCtrlSelfTest ::
    reported callback (.selfTestResultCallback callback (selfTestVerdict hw.selfTest))

/-- The positions that are entered and left for a self test, in order. -/
def itinerary (actions : List LockAction) : List (Travel LockPosition) :=
  actions.filterMap LockAction.travel?

theorem countP_isDeparture_itinerary (actions : List LockAction) :
    (itinerary actions).countP Travel.isDeparture = actions.countP LockAction.isSelfTest := by
  induction actions with
  | nil => rfl
  | cons a actions ih =>
    cases a with
    | readCurrent => exact ih
    | enter p callback =>
      have hcons : itinerary (.enter p callback :: actions) = .arrived p :: itinerary actions := rfl
      rw [hcons, List.countP_cons_of_neg Bool.false_ne_true,
        List.countP_cons_of_neg Bool.false_ne_true, ih]
    | selfTest left answer callback =>
      have hcons : itinerary (.selfTest left answer callback :: actions) =
          .departed left :: itinerary actions := rfl
      rw [hcons, List.countP_cons_of_pos rfl, List.countP_cons_of_pos rfl, ih]

/-- The driver is asked once in each self test. -/
theorem count_selfTest_outputs (actions : List LockAction) :
    (actions.flatMap LockAction.outputs).count .HwLockCtrlSelfTest =
      actions.countP LockAction.isSelfTest := by
  have hreported : ∀ (callback : UInt64) (o : Output), o ≠ .HwLockCtrlSelfTest →
      (reported callback o).count .HwLockCtrlSelfTest = 0 := by
    intro callback o ho
    rw [reported]
    split
    · rw [List.count_singleton, if_neg (by simpa using ho)]
    · rfl
  induction actions with
  | nil => rfl
  | cons a actions ih =>
    rw [List.flatMap_cons, List.count_append, ih]
    cases a with
    | readCurrent =>
      rw [List.countP_cons_of_neg Bool.false_ne_true]
      exact Nat.zero_add _
    | enter p callback =>
      have hcommand : p.command ≠ .HwLockCtrlSelfTest := by cases p <;> decide
      rw [List.countP_cons_of_neg Bool.false_ne_true, LockAction.outputs,
        List.count_cons_of_ne hcommand, hreported callback _ (by simp), Nat.zero_add]
    | selfTest left answer callback =>
      rw [List.countP_cons_of_pos rfl, LockAction.outputs, List.count_cons_self,
        hreported callback _ (by simp), Nat.add_comm]

namespace LockController

theorem itinerary_acts (k : LockController) (hw : HwLockCtrl) (mode : DetourMode LockPosition)
    (e : DetourEvent LockPosition) : itinerary (k.acts hw mode e) = travels mode e := by
  cases mode with
  | here p =>
    cases e with
    | goto q => by_cases hq : q = p <;> simp [acts, travels, hq, itinerary, LockAction.travel?]
    | detour => rfl
    | other => rfl
  | away p => cases e <;> rfl

/-- An event makes a self test of the driver as it is in the call, or none. -/
theorem outputs_acts (k : LockController) (hw : HwLockCtrl) (mode : DetourMode LockPosition)
    (e : DetourEvent LockPosition) :
    ((k.acts hw mode e).flatMap LockAction.outputs).filter Output.ofSelfTest = [] ∨
      (k.acts hw mode e).flatMap LockAction.outputs = selfTestMade k.result hw := by
  have henter : ∀ q, (LockAction.enter q k.changed).outputs.filter Output.ofSelfTest = [] := by
    intro q
    rw [LockAction.outputs, reported]
    split <;> cases q <;> rfl
  cases mode with
  | here p =>
    cases e with
    | goto q =>
      refine .inl ?_
      by_cases hq : q = p
      · rw [acts, if_pos hq]
        rfl
      · rw [acts, if_neg hq, List.flatMap_singleton]
        exact henter q
    | detour => exact .inr (List.flatMap_singleton ..)
    | other => exact .inl rfl
  | away p =>
    cases e with
    | goto q =>
      rw [acts, List.flatMap_singleton]
      exact .inl (henter q)
    | detour => exact .inl rfl
    | other => exact .inl rfl

theorem actions_post (k : LockController) (e : DetourEvent LockPosition) :
    (k.post e).2.actions = k.actions := by
  rw [LockController.post]
  split <;> rfl

/-- Nothing is done to the lock outside the processing of events. -/
theorem actions_answer {k : LockController} {c : HlcsCall}
    (hc : ∀ option hw, c ≠ .processOneEvent option hw) : (k.answer c).2.actions = k.actions := by
  cases c with
  | start => rfl
  | requestLocked => exact actions_post k _
  | requestUnlocked => exact actions_post k _
  | requestSelfTest => exact actions_post k _
  | checkCurrentTimer => exact actions_post k _
  | processOneEvent option hw => exact absurd rfl (hc option hw)
  | registerChangeState => rfl
  | registerSelfTestResult => rfl
  | moveTimeForward => rfl

theorem outputs_process (k : LockController) (hw : HwLockCtrl) :
    ∃ acts, (k.process hw).2.actions = k.actions ++ acts ∧
      ((acts.flatMap LockAction.outputs).filter Output.ofSelfTest = [] ∨
        acts.flatMap LockAction.outputs = selfTestMade k.result hw) := by
  cases hqueue : k.machine.queue with
  | nil =>
    rw [process_nil hqueue]
    exact ⟨[], (List.append_nil _).symm, .inl rfl⟩
  | cons e rest =>
    rw [process_cons hqueue]
    exact ⟨_, rfl, outputs_acts k hw _ e⟩

/-- A call that makes a self test processes an event. -/
theorem outputs_step {k k' : LockController} {c : HlcsCall} {r : Reply} (hstep : k.Step c r k') :
    ∃ acts, k'.actions = k.actions ++ acts ∧
      ((acts.flatMap LockAction.outputs).filter Output.ofSelfTest = [] ∨
        ∃ option hw, c = .processOneEvent option hw ∧
          acts.flatMap LockAction.outputs = selfTestMade k.result hw) := by
  obtain rfl : k' = (k.answer c).2 := by rw [show k.answer c = (r, k') from hstep]
  by_cases hc : ∃ option hw, c = .processOneEvent option hw
  · obtain ⟨option, hw, rfl⟩ := hc
    obtain ⟨acts, hacts, hmade⟩ := outputs_process k hw
    exact ⟨acts, hacts, hmade.imp_right fun h => ⟨option, hw, rfl, h⟩⟩
  · push Not at hc
    exact ⟨[], (actions_answer hc).trans (List.append_nil _).symm, .inl rfl⟩

/-- The calls so far account for the controller. -/
structure Accounts (tr : List (HlcsCall × Reply)) (k : LockController) : Prop where
  homed : k.machine.Homed
  heading : k.machine.heading = latestAccepted tr
  itinerary : Itinerary (here .locked) (itinerary k.actions) k.machine.mode
  selfTests : k.actions.countP LockAction.isSelfTest + k.machine.detours =
    (accepted tr).countP DetourEvent.isDetour

variable {tr : List (HlcsCall × Reply)} {k k' : LockController} {c : HlcsCall} {r : Reply}

theorem accepted_snoc (tr : List (HlcsCall × Reply)) (c : HlcsCall) (r : Reply) :
    accepted (tr ++ [(c, r)]) =
      accepted tr ++ (if r = .returned .unit then c.posted? else none).toList := by
  rw [accepted, List.filterMap_append]
  cases h : if r = .returned .unit then c.posted? else none <;> simp [h, accepted]

theorem Accounts.of_accepted_nil (h : Accounts tr k)
    (hc : (if r = .returned .unit then c.posted? else none) = none)
    (hmachine : k'.machine = k.machine) (hactions : k'.actions = k.actions) :
    Accounts (tr ++ [(c, r)]) k' := by
  have haccepted : accepted (tr ++ [(c, r)]) = accepted tr := by
    rw [accepted_snoc, hc, Option.toList_none, List.append_nil]
  constructor
  · rw [hmachine]
    exact h.homed
  · rw [hmachine, latestAccepted, haccepted]
    exact h.heading
  · rw [hmachine, hactions]
    exact h.itinerary
  · rw [hmachine, hactions, haccepted]
    exact h.selfTests

/-- An event that finds no room is not accepted. -/
theorem Accounts.post (h : Accounts tr k) {e : DetourEvent LockPosition}
    (hc : c.posted? = some e) : Accounts (tr ++ [(c, (k.post e).1)]) (k.post e).2 := by
  rw [LockController.post]
  by_cases hroom : k.machine.queue.length < hlcsQueueDepth
  · rw [if_pos hroom]
    have haccepted : accepted (tr ++ [(c, .returned .unit)]) = accepted tr ++ [e] := by
      rw [accepted_snoc, if_pos rfl, hc, Option.toList_some]
    constructor
    · exact h.homed.post e
    · rw [latestAccepted, haccepted, List.foldl_append, List.foldl_cons, List.foldl_nil,
        DetourMachine.heading_post, h.heading, latestAccepted]
    · exact h.itinerary
    · rw [haccepted, List.countP_append, List.countP_singleton, ← h.selfTests,
        DetourMachine.detours_post, Nat.add_assoc]
  · rw [if_neg hroom]
    exact h.of_accepted_nil rfl rfl rfl

/-- Processing an event makes what was asked for. -/
theorem Accounts.process (h : Accounts tr k) (option : ExecutionOption) (hw : HwLockCtrl) :
    Accounts (tr ++ [(.processOneEvent option hw, (k.process hw).1)]) (k.process hw).2 := by
  have haccepted : ∀ r, accepted (tr ++ [(.processOneEvent option hw, r)]) = accepted tr := by
    intro r
    have hposted : (HlcsCall.processOneEvent option hw).posted? = none := rfl
    rw [accepted_snoc, hposted, ite_self, Option.toList_none, List.append_nil]
  cases hqueue : k.machine.queue with
  | nil =>
    rw [process_nil hqueue]
    exact h.of_accepted_nil (ite_self _) rfl rfl
  | cons e rest =>
    rw [process_cons hqueue]
    have hstep : k.machine.step? = some (DetourMachine.handle rest k.machine.mode e) :=
      DetourMachine.step?_eq_some_iff.mpr ⟨e, rest, hqueue, rfl⟩
    have hdepartures := departures_step h.homed hqueue rfl
    rw [← itinerary_acts k hw, countP_isDeparture_itinerary] at hdepartures
    constructor
    · exact h.homed.step hstep
    · rw [latestAccepted, haccepted, ← latestAccepted, ← h.heading]
      exact DetourMachine.heading_step hstep
    · have hit := h.itinerary.step h.homed hqueue rfl
      rw [← itinerary_acts k hw] at hit
      rwa [FakeFreeRtos.itinerary, List.filterMap_append]
    · rw [haccepted, List.countP_append, ← h.selfTests, Nat.add_assoc, hdepartures]

/-- **Each call keeps the books.** -/
theorem Accounts.step (h : Accounts tr k) (hstep : k.Step c r k') :
    Accounts (tr ++ [(c, r)]) k' := by
  obtain ⟨rfl, rfl⟩ : r = (k.answer c).1 ∧ k' = (k.answer c).2 := by
    rw [show k.answer c = (r, k') from hstep]
    exact ⟨rfl, rfl⟩
  cases c with
  | start => exact h.of_accepted_nil rfl rfl rfl
  | requestLocked => exact h.post rfl
  | requestUnlocked => exact h.post rfl
  | requestSelfTest => exact h.post rfl
  | checkCurrentTimer => exact h.post rfl
  | processOneEvent option hw => exact h.process option hw
  | registerChangeState => exact h.of_accepted_nil rfl rfl rfl
  | registerSelfTestResult => exact h.of_accepted_nil rfl rfl rfl
  | moveTimeForward => exact h.of_accepted_nil rfl rfl rfl

theorem Accounts.start (v : HlcsVars) : Accounts [] (.start v) :=
  ⟨nofun, rfl, .start _, rfl⟩

theorem Accounts.run {v : HlcsVars} (h : Run Step (.start v) tr k) : Accounts tr k :=
  h.history (fun _ _ _ _ _ hs hstep => hs.step hstep) (.start v)

end LockController

/-! ## The runs of the service -/

namespace Hlcs

/-- The requests for a self test that wait in the event queue. -/
def pendingSelfTests (s : Hlcs T) : ℕ :=
  (s.world.lib.messagesAt s.vars.s_eventQueue).countP fun bytes =>
    decide (signalOfBytes bytes = some .SIG_REQUEST_SELF_TEST)

theorem Represents.pendingSelfTests_eq {s : Hlcs T} {addr : Handle}
    {m : DetourMachine LockPosition} (h : s.Represents addr m) :
    s.pendingSelfTests = m.detours := by
  rw [pendingSelfTests, h.queued.messagesAt, List.countP_map, DetourMachine.detours]
  refine congrArg (List.countP · m.queue) (funext fun e => ?_)
  rw [Function.comp_apply, signalOfBytes_bytes]
  cases e with
  | goto q => cases q <;> rfl
  | detour => rfl
  | other => rfl

variable {s₀ s : Hlcs T} {tr : List (LockCall × Reply)}

/-- A service that has run is a controller whose books are kept. -/
theorem Started.accounts (h₀ : s₀.Started P) (hno : s₀.world.lib.NoMember s₀.vars.s_eventQueue)
    (hrun : Run (ProgramStep P) s₀ tr s) : ∃ addr k, s.Mirrors s₀.outputs addr k ∧
      LockController.Accounts (serviceCalls tr) k := by
  obtain ⟨addr, hm₀⟩ := h₀.mirrors P hno
  obtain ⟨k, hk, hm⟩ := hm₀.run hrun
  exact ⟨addr, k, hm, .run hk⟩

end Hlcs

variable {s₀ s : Hlcs T} {tr : List (LockCall × Reply)}

/-- **Every self test is made once**: the self tests made and those still pending are the ones that
were accepted. Whatever is called next makes none, or processes an event and makes one self test of
the driver of this call, whose verdict goes to the callback that is registered then. -/
theorem selfTests_answered (h₀ : s₀.Started P)
    (hno : s₀.world.lib.NoMember s₀.vars.s_eventQueue) (hrun : Run (ProgramStep P) s₀ tr s) :
    s.outputs.count .HwLockCtrlSelfTest + s.pendingSelfTests =
        s₀.outputs.count .HwLockCtrlSelfTest +
          (accepted (serviceCalls tr)).countP DetourEvent.isDetour ∧
      ∀ c r s', ProgramStep P s c r s' → ∃ made, s'.outputs = s.outputs ++ made ∧
        (made.filter Output.ofSelfTest = [] ∨
          ∃ option hw, c = .service (.processOneEvent option hw) ∧
            made = selfTestMade s.vars.s_selfTestResultCallback hw) := by
  obtain ⟨addr, k, hm, hk⟩ := h₀.accounts P hno hrun
  constructor
  · rw [hm.outputs, List.count_append, count_selfTest_outputs,
      hm.represents.pendingSelfTests_eq, Nat.add_assoc, hk.selfTests]
  · rintro _ _ _ (hstep | ⟨hstep, hd, hh⟩)
    · obtain ⟨k', hk', hm'⟩ := hm.step hstep
      obtain ⟨acts, hacts, hmade⟩ := LockController.outputs_step hk'
      refine ⟨acts.flatMap LockAction.outputs, ?_, hmade.imp_right ?_⟩
      · rw [hm'.outputs, hm.outputs, hacts, List.flatMap_append, List.append_assoc]
      · rintro ⟨option, hw, rfl, htest⟩
        exact ⟨option, hw, rfl, by rw [hm.result, htest]⟩
    · exact ⟨[], (List.append_nil _).symm, .inl rfl⟩

theorem selfTests_answered_brokenMotor : ∃ s,
    Run (ProgramStep Platform.listed) Hlcs.readyReporting brokenMotor s ∧
    s.outputs.count .HwLockCtrlSelfTest + s.pendingSelfTests =
        Hlcs.readyReporting.outputs.count .HwLockCtrlSelfTest +
          (accepted (serviceCalls brokenMotor)).countP DetourEvent.isDetour ∧
      ∀ c r s', ProgramStep Platform.listed s c r s' → ∃ made, s'.outputs = s.outputs ++ made ∧
        (made.filter Output.ofSelfTest = [] ∨
          ∃ option hw, c = .service (.processOneEvent option hw) ∧
            made = selfTestMade s.vars.s_selfTestResultCallback hw) := by
  obtain ⟨s, hrun⟩ := brokenMotor_run
  exact ⟨s, hrun, selfTests_answered _ Hlcs.readyReporting_started Hlcs.readyReporting_noMember
    hrun⟩

/-- **The commands are in order**, from the start in the locked position: after a self test the lock
is commanded back to the position that was left, otherwise never to the position it is in; the state
of the service is the position that was commanded last. -/
theorem commands_ordered (h₀ : s₀.Started P)
    (hno : s₀.world.lib.NoMember s₀.vars.s_eventQueue) (hrun : Run (ProgramStep P) s₀ tr s) :
    ∃ actions : List LockAction, s.outputs = s₀.outputs ++ actions.flatMap LockAction.outputs ∧
      (∀ before left next after,
        .arrived .locked :: itinerary actions = before ++ .departed left :: next :: after →
        next = .arrived left) ∧
      (∀ before p next after,
        .arrived .locked :: itinerary actions = before ++ .arrived p :: next :: after →
        next = .departed p ∨ ∃ q, next = .arrived q ∧ q ≠ p) ∧
      EStateM.run hlcsGetState s = .ok
        (((itinerary actions).getLast?.map Travel.place).getD LockPosition.locked).lockState s := by
  obtain ⟨addr, k, hm, hk⟩ := h₀.accounts P hno hrun
  have hwalk := hk.itinerary.arrived
  refine ⟨k.actions, hm.outputs, fun before left next after he => ?_,
    fun before p next after he => ?_, ?_⟩
  · exact (he ▸ hwalk).after_departed
  · exact (he ▸ hwalk).after_arrived
  · rw [← hk.itinerary.place_eq]
    exact congrArg (EStateM.Result.ok · s) hm.represents.lockState

theorem commands_ordered_brokenMotor : ∃ s,
    Run (ProgramStep Platform.listed) Hlcs.readyReporting brokenMotor s ∧
    ∃ actions : List LockAction,
      s.outputs = Hlcs.readyReporting.outputs ++ actions.flatMap LockAction.outputs ∧
      (∀ before left next after,
        .arrived .locked :: itinerary actions = before ++ .departed left :: next :: after →
        next = .arrived left) ∧
      (∀ before p next after,
        .arrived .locked :: itinerary actions = before ++ .arrived p :: next :: after →
        next = .departed p ∨ ∃ q, next = .arrived q ∧ q ≠ p) ∧
      EStateM.run hlcsGetState s = .ok
        (((itinerary actions).getLast?.map Travel.place).getD LockPosition.locked).lockState s := by
  obtain ⟨s, hrun⟩ := brokenMotor_run
  exact ⟨s, hrun, commands_ordered _ Hlcs.readyReporting_started Hlcs.readyReporting_noMember hrun⟩

/-- What a client takes for the state of the lock that remembers the last state it was told, as the
demo application does. -/
def Output.tell (last : HlcsLockState) : Output → HlcsLockState
  | .stateChangedCallback _ state => state
  | _ => last

def lastTold (outputs : List Output) : HlcsLockState :=
  outputs.foldl Output.tell .HLCS_LOCK_STATE_UNKNOWN

theorem lastTold_append (os os' : List Output) :
    lastTold (os ++ os') = os'.foldl Output.tell (lastTold os) := List.foldl_append

/-- A report that is made tells the state, whatever was told before. -/
theorem foldl_tell_enter {callback : UInt64} (h : callback ≠ 0) (p : LockPosition)
    (last : HlcsLockState) :
    (LockAction.enter p callback).outputs.foldl Output.tell last = p.lockState := by
  rw [LockAction.outputs, reported, if_pos h]
  rfl

/-- Self tests tell nothing about the state. -/
theorem foldl_tell_selfTest (left : LockPosition) (answer : Bool × HwLockCtrlSelfTestResult)
    (callback : UInt64) (last : HlcsLockState) :
    (LockAction.selfTest left answer callback).outputs.foldl Output.tell last = last := by
  rw [LockAction.outputs, reported]
  split <;> rfl

namespace LockController

/-- A callback is registered, and was told where the machine is. -/
structure Tells (before : List Output) (k : LockController) : Prop where
  registered : k.changed ≠ 0
  told : lastTold (before ++ k.actions.flatMap LockAction.outputs) =
    k.machine.mode.place.lockState

variable {before : List Output} {k k' : LockController} {c : HlcsCall} {r : Reply}

/-- What an event makes the service tell. -/
theorem foldl_tell_acts (hk : k.changed ≠ 0) (hw : HwLockCtrl) (mode : DetourMode LockPosition)
    (e : DetourEvent LockPosition) (rest : List (DetourEvent LockPosition)) :
    ((k.acts hw mode e).flatMap LockAction.outputs).foldl Output.tell mode.place.lockState =
      (DetourMachine.handle rest mode e).mode.place.lockState := by
  cases mode with
  | here p =>
    cases e with
    | goto q =>
      by_cases hq : q = p
      · rw [acts, if_pos hq, hq]
        rfl
      · rw [acts, if_neg hq, List.flatMap_singleton, foldl_tell_enter hk]
        rfl
    | detour =>
      rw [acts, List.flatMap_singleton, foldl_tell_selfTest]
      rfl
    | other => rfl
  | away p =>
    cases e with
    | goto q =>
      rw [acts, List.flatMap_singleton, foldl_tell_enter hk]
      rfl
    | detour => rfl
    | other => rfl

theorem Tells.post (h : k.Tells before) (e : DetourEvent LockPosition) :
    (k.post e).2.Tells before := by
  rw [LockController.post]
  split
  · exact ⟨h.registered, h.told⟩
  · exact h

/-- **Each call tells what it changes**, as long as a callback stays registered. -/
theorem Tells.step (h : k.Tells before) (hc : c ≠ .registerChangeState 0)
    (hstep : k.Step c r k') : k'.Tells before := by
  obtain rfl : k' = (k.answer c).2 := by rw [show k.answer c = (r, k') from hstep]
  cases c with
  | start => exact h
  | requestLocked => exact h.post _
  | requestUnlocked => exact h.post _
  | requestSelfTest => exact h.post _
  | checkCurrentTimer => exact h.post _
  | processOneEvent option hw =>
    rw [answer]
    cases hqueue : k.machine.queue with
    | nil => rwa [process_nil hqueue]
    | cons e rest =>
      rw [process_cons hqueue]
      refine ⟨h.registered, ?_⟩
      rw [List.flatMap_append, ← List.append_assoc, lastTold_append, h.told]
      exact foldl_tell_acts h.registered hw _ e rest
  | registerChangeState callback =>
    exact ⟨fun he => hc (congrArg HlcsCall.registerChangeState he), h.told⟩
  | registerSelfTestResult => exact ⟨h.registered, h.told⟩
  | moveTimeForward => exact h

end LockController

namespace Hlcs

/-- Starting the machine commands and reports the locked position. -/
theorem emits_hlcsSmInitialize {s s' : Hlcs T} {hw : HwLockCtrl} {u : Unit}
    (h : EStateM.run (hlcsSmInitialize hw) s = .ok u s') :
    s.Emits (.HwLockCtrlInit :: (LockAction.enter .locked s.vars.s_stateChangedCallback).outputs)
      s' := by
  rw [hlcsSmInitialize] at h
  obtain ⟨_, _, hassign, h⟩ := run_bind_eq_ok.mp h
  cases hassign
  obtain ⟨_, _, hinitial, h⟩ := run_bind_eq_ok.mp h
  cases hinitial
  obtain ⟨_, _, hassign, h⟩ := run_bind_eq_ok.mp h
  cases hassign
  obtain ⟨_, _, henter, h⟩ := run_bind_eq_ok.mp h
  cases h
  have hemits := emits_enter .locked rfl henter
  exact Emits.of_assign (s := s) ((Emits.output _ .HwLockCtrlInit).trans
    (Emits.of_assign hemits rfl rfl)) rfl rfl

/-- A service that has started has told that it is locked. -/
theorem Started.tells (h : s₀.Started P) (hcb : s₀.vars.s_stateChangedCallback ≠ 0) :
    (LockController.start s₀.vars).Tells s₀.outputs := by
  obtain ⟨_, _, s₂, _, _, _, hw, -, -, hstart⟩ := h
  obtain ⟨⟨⟩, hok, -⟩ := hstart.returned
  obtain ⟨-, -, s₁, _, _, w₂, hinit, -, -, rfl⟩ := (run_hlcsStart_eq_ok P).mp hok
  have hemits := emits_hlcsSmInitialize hinit
  have hcb₂ : s₂.vars.s_stateChangedCallback ≠ 0 := hemits.changed ▸ hcb
  refine ⟨hcb, ?_⟩
  have hlast : lastTold s₁.outputs = .HLCS_LOCK_STATE_LOCKED := by
    rw [hemits.outputs, lastTold_append]
    exact foldl_tell_enter hcb₂ .locked _
  rw [LockController.start, List.flatMap_nil, List.append_nil]
  exact hlast

end Hlcs

/-- **Whoever remembers the last report knows the state of the service**, in every run in which a
callback stays registered. -/
theorem reports_followed (h₀ : s₀.Started P)
    (hno : s₀.world.lib.NoMember s₀.vars.s_eventQueue)
    (hcb : s₀.vars.s_stateChangedCallback ≠ 0) (hrun : Run (ProgramStep P) s₀ tr s)
    (hreg : ∀ r, (.service (.registerChangeState 0), r) ∉ tr) :
    EStateM.run hlcsGetState s = .ok (lastTold s.outputs) s := by
  obtain ⟨addr, hm₀⟩ := h₀.mirrors P hno
  obtain ⟨k, hk, hm⟩ := hm₀.run hrun
  have htells : (∀ r, (HlcsCall.registerChangeState 0, r) ∉ serviceCalls tr) →
      k.Tells s₀.outputs := by
    refine hk.history (I := fun tr k => (∀ r, (HlcsCall.registerChangeState 0, r) ∉ tr) →
      k.Tells s₀.outputs) ?_ fun _ => h₀.tells P hcb
    intro tr k c r k' hk hstep hreg
    refine (hk fun r hr => hreg r (List.mem_append_left _ hr)).step ?_ hstep
    rintro rfl
    exact hreg r (List.mem_append_right _ List.mem_cons_self)
  have htold := (htells fun r hr => ?_).told
  · rw [← hm.outputs] at htold
    rw [htold, ← hm.represents.lockState]
    rfl
  · obtain ⟨c, hc, hmem⟩ := mem_project hr
    cases c with
    | service c =>
      cases hc
      exact hreg _ hmem
    | other => cases hc

theorem reports_followed_brokenMotor : ∃ s,
    Run (ProgramStep Platform.listed) Hlcs.readyReporting brokenMotor s ∧
    EStateM.run hlcsGetState s = .ok (lastTold s.outputs) s := by
  obtain ⟨s, hrun⟩ := brokenMotor_run
  exact ⟨s, hrun, reports_followed _ Hlcs.readyReporting_started Hlcs.readyReporting_noMember
    (by decide +kernel) hrun (by simp [brokenMotor])⟩

/-- **The service does what the latest accepted request asks for**, also after assertions have
tripped. -/
theorem requests_obeyed_always (h₀ : s₀.Started P)
    (hno : s₀.world.lib.NoMember s₀.vars.s_eventQueue) (hrun : Run (ProgramStep P) s₀ tr s) :
    s.Serves P (latestAccepted (serviceCalls tr)) := by
  obtain ⟨addr, k, hm, hk⟩ := h₀.accounts P hno hrun
  exact Follows.serves P ⟨hm.represents, hm.homed, hk.heading, hm.bounded⟩

theorem requests_obeyed_always_brokenMotor : ∃ s,
    Run (ProgramStep Platform.listed) Hlcs.readyReporting brokenMotor s ∧
    s.Serves Platform.listed .unlocked := by
  obtain ⟨s, hrun⟩ := brokenMotor_run
  exact ⟨s, hrun, requests_obeyed_always _ Hlcs.readyReporting_started
    Hlcs.readyReporting_noMember hrun⟩

end FakeFreeRtos
