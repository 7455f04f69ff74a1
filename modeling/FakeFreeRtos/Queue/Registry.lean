import FakeFreeRtos.Queue.Tasks

/-!
# The queue registry

The names of the queues are kept in the queue objects themselves. They are a table of their own
all the same: leaving the calls on names out of a program changes nothing that its other calls
answer (`registry_transparent`), and what `pcQueueGetName` answers depends on the calls on names,
and on creating, only (`registry_names`).
-/

namespace FakeFreeRtos

open Foundations

/-! ## Programs with names -/

/-- A call of a program that names its queues. -/
inductive RegistryCall
  | lib (c : Call)
  | addToRegistry (queue : Handle) (queueName : Option String)
  | unregister (queue : Handle)
  | getName (queue : Handle)
  deriving DecidableEq

inductive RegistryValue
  | value (v : Value)
  | name (n : Option String)
  deriving DecidableEq

def RegistryCall.exec : RegistryCall → Api RegistryValue
  | .lib c => .value <$> c.exec
  | .addToRegistry queue queueName =>
    (fun _ => .value .unit) <$> vQueueAddToRegistry queue queueName
  | .unregister queue => (fun _ => .value .unit) <$> vQueueUnregisterQueue queue
  | .getName queue => .name <$> pcQueueGetName queue

/-- How a call ends, and in which memory. -/
def ending : EStateM.Result Exit Lib RegistryValue → Except Exit RegistryValue × Lib
  | .ok v s => (.ok v, s)
  | .error e s => (.error e, s)

/-- The effect of one call. -/
def Lib.RegistryStep (s : Lib) (c : RegistryCall) (r : Except Exit RegistryValue) (s' : Lib) :
    Prop :=
  ending (EStateM.run c.exec s) = (r, s')

def Reply.withName : Reply → Except Exit RegistryValue
  | .returned v => .ok (.value v)
  | .left e => .error e

/-- The program without its calls on names. -/
def withoutRegistry : List (RegistryCall × Except Exit RegistryValue) →
    List (RegistryCall × Except Exit RegistryValue) :=
  project fun c => match c with
    | .lib c => some (.lib c)
    | _ => none

/-! ## What the calls on names do -/

section Names

variable {s s' : Lib} {c : Call} {r : Except Exit RegistryValue}

/-- The library's own calls do what they do without names. -/
theorem Lib.registryStep_lib :
    s.RegistryStep (.lib c) r s' ↔ ∃ r₀ : Reply, r₀.withName = r ∧ s.Step c r₀ s' := by
  rw [Lib.RegistryStep, RegistryCall.exec, run_map]
  cases hrun : EStateM.run c.exec s with
  | ok v s₁ =>
    constructor
    · rintro ⟨⟩
      exact ⟨.returned v, rfl, Lib.step_returned_iff.mpr hrun⟩
    · rintro ⟨r₀, rfl, hstep⟩
      obtain ⟨rfl, rfl⟩ := hstep.deterministic (Lib.step_returned_iff.mpr hrun)
      rfl
  | error e s₁ =>
    constructor
    · rintro ⟨⟩
      exact ⟨.left e, rfl, Lib.step_left_iff.mpr hrun⟩
    · rintro ⟨r₀, rfl, hstep⟩
      obtain ⟨rfl, rfl⟩ := hstep.deterministic (Lib.step_left_iff.mpr hrun)
      rfl

/-- What a call on names does: nothing, leaving early or not, or it names a queue. -/
inductive Names (s : Lib) : RegistryCall → Except Exit RegistryValue → Lib → Prop
  | refused {c : RegistryCall} (e : Exit) : Names s c (.error e) s
  | read {queue : Handle} {q : FakeQueue} (hn : queue ≠ nullptr) (hq : s.lookup queue = some q) :
      Names s (.getName queue) (.ok (.name q.registryName)) s
  | add {queue : Handle} {q : FakeQueue} {queueName : Option String} (hn : queue ≠ nullptr)
      (hq : s.lookup queue = some q) :
      Names s (.addToRegistry queue queueName) (.ok (.value .unit))
        (s.write queue { q with registryName := queueName })
  | remove {queue : Handle} {q : FakeQueue} (hn : queue ≠ nullptr) (hq : s.lookup queue = some q) :
      Names s (.unregister queue) (.ok (.value .unit))
        (s.write queue { q with registryName := none })

/-- A call on a queue is refused, or reads the queue first. -/
theorem run_deref_cases {α : Type} (queue : Handle) (k : FakeQueue → Api α) (s : Lib) :
    (∃ e, EStateM.run (do configASSERT (queue ≠ nullptr); k (← deref queue)) s = .error e s) ∨
    ∃ q, queue ≠ nullptr ∧ s.lookup queue = some q ∧
      EStateM.run (do configASSERT (queue ≠ nullptr); k (← deref queue)) s =
        EStateM.run (k q) s := by
  by_cases hn : queue = nullptr
  · exact .inl ⟨.assertFailed, by simp [hn]⟩
  cases hq : s.lookup queue with
  | none => exact .inl ⟨.undefined, by simp [hn, run_deref_none hq]⟩
  | some q => exact .inr ⟨q, hn, rfl, by simp [hn, hq]⟩

theorem Lib.RegistryStep.names {c : RegistryCall} (hstep : s.RegistryStep c r s')
    (hc : ∀ c₀, c ≠ .lib c₀) : Names s c r s' := by
  unfold RegistryStep at hstep
  cases c with
  | lib c₀ => exact absurd rfl (hc c₀)
  | addToRegistry queue queueName =>
    cases queueName with
    | none =>
      have hrun : EStateM.run (vQueueAddToRegistry queue none) s = .error .assertFailed s := by
        by_cases hn : queue = nullptr <;> simp [vQueueAddToRegistry, hn]
      rw [RegistryCall.exec, run_map, hrun] at hstep
      cases hstep
      exact .refused _
    | some n =>
      have hname : vQueueAddToRegistry queue (some n) = (do
          configASSERT (queue ≠ nullptr)
          let q ← deref queue
          assign queue { q with registryName := some n }) := by
        simp [vQueueAddToRegistry, configASSERT]
      rw [RegistryCall.exec, run_map, hname] at hstep
      rcases run_deref_cases queue (fun q => assign queue { q with registryName := some n }) s with
        ⟨e, hrun⟩ | ⟨q, hn, hq, hrun⟩
      · rw [hrun] at hstep
        cases hstep
        exact .refused _
      · rw [hrun] at hstep
        cases hstep
        exact .add hn hq
  | unregister queue =>
    rw [RegistryCall.exec, run_map, vQueueUnregisterQueue] at hstep
    rcases run_deref_cases queue (fun q => assign queue { q with registryName := none }) s with
      ⟨e, hrun⟩ | ⟨q, hn, hq, hrun⟩
    · rw [hrun] at hstep
      cases hstep
      exact .refused _
    · rw [hrun] at hstep
      cases hstep
      exact .remove hn hq
  | getName queue =>
    rw [RegistryCall.exec, run_map, pcQueueGetName] at hstep
    rcases run_deref_cases queue (fun q => pure q.registryName) s with
      ⟨e, hrun⟩ | ⟨q, hn, hq, hrun⟩
    · rw [hrun] at hstep
      cases hstep
      exact .refused _
    · rw [hrun] at hstep
      cases hstep
      exact .read hn hq

end Names

/-! ## Names do not matter to the library -/

/-- All queues are seen, and the mutexes that are tracked, but no names. -/
def View.nameless : View where
  sees h := h ≠ nullptr
  name _ := none
  tracking := True
  not_null h := h rfl

/-- The queue without its name. -/
def FakeQueue.unnamed (q : FakeQueue) : FakeQueue := { q with registryName := none }

/-- The memories differ in the names of the queues at most. -/
structure Lib.SameButNames (s t : Lib) : Prop where
  lookup : ∀ h, h ≠ nullptr →
    (t.lookup h).map FakeQueue.unnamed = (s.lookup h).map FakeQueue.unnamed
  s_mutexes : t.s_mutexes = s.s_mutexes

section Nameless

variable {before s s' t : Lib}

theorem View.knows_nameless (h : Handle) : nameless.Knows h := Classical.em _

theorem View.admits_nameless (c : Call) : nameless.Admits c :=
  ⟨fun h _ => knows_nameless h, fun _ => trivial⟩

theorem View.sameQueue_nameless {q q' : FakeQueue} :
    nameless.SameQueue q q' ↔ q'.unnamed = q.unnamed := by
  constructor
  · rintro ⟨n, rfl, -⟩
    rfl
  · intro he
    obtain ⟨l, i, ty, qu, rc, n, c⟩ := q'
    obtain ⟨l', i', ty', qu', rc', n', c'⟩ := q
    simp only [FakeQueue.unnamed, FakeQueue.mk.injEq, true_and] at he
    obtain ⟨rfl, rfl, rfl, rfl, rfl, rfl⟩ := he
    exact ⟨n, rfl, rfl⟩

theorem Lib.SameButNames.tied (h : s.SameButNames t) : View.nameless.Tied s s t where
  queues x hx := by
    have hlookup := h.lookup x hx
    cases hs : s.lookup x <;> cases ht : t.lookup x <;> simp [hs, ht] at hlookup ⊢
    exact View.sameQueue_nameless.mpr hlookup
  containers _ q _ _ := View.knows_nameless q.queueSetContainer
  unseen _ _ := rfl
  mutexes _ := h.s_mutexes.symm
  tracked _ _ _ x _ := View.knows_nameless x

theorem View.Tied.sameButNames (h : nameless.Tied before s t) : s.SameButNames t where
  lookup x hx := by
    have hrel := h.queues x hx
    cases hs : s.lookup x <;> cases ht : t.lookup x <;> rw [hs, ht] at hrel <;> cases hrel
    rename_i hq
    rw [Option.map_some, Option.map_some, sameQueue_nameless.mp hq]
  s_mutexes := (h.mutexes trivial).symm

/-- A queue is named. -/
theorem Lib.SameButNames.rename (h : s.SameButNames t) {queue : Handle} {q : FakeQueue}
    (hq : s.lookup queue = some q) (n : Option String) :
    (s.write queue { q with registryName := n }).SameButNames t where
  lookup x hx := by
    by_cases he : x = queue
    · subst he
      rw [h.lookup x hx, lookup_write_self, hq]
      rfl
    · rw [lookup_write_of_ne _ _ he, h.lookup x hx]
  s_mutexes := h.s_mutexes

theorem Lib.SameButNames.names {c : RegistryCall} {r : Except Exit RegistryValue}
    (h : s.SameButNames t) (hs : Names s c r s') : s'.SameButNames t := by
  cases hs with
  | refused => exact h
  | read => exact h
  | add _ hq => exact h.rename hq _
  | remove _ hq => exact h.rename hq _

end Nameless

/-- **Names are transparent.** Leaving the calls on names out of a program leaves a run of the
program: all its other calls answer the same, and the memory ends up the same but for the names. -/
theorem registry_transparent {s s' : Lib} {tr : List (RegistryCall × Except Exit RegistryValue)}
    (hrun : Run Lib.RegistryStep s tr s') :
    ∃ t', Run Lib.RegistryStep s (withoutRegistry tr) t' ∧ s'.SameButNames t' := by
  refine hrun.unwind ?_ ?_ ⟨fun _ _ => rfl, rfl⟩
  · intro s t c c' r s' hsee hst hstep
    cases c with
    | lib c =>
      obtain rfl : RegistryCall.lib c = c' := by simpa using hsee
      obtain ⟨r₀, hr, hs⟩ := Lib.registryStep_lib.mp hstep
      obtain ⟨t', ht, htied⟩ := hst.tied.step (View.admits_nameless c) hs
      exact ⟨t', Lib.registryStep_lib.mpr ⟨r₀, hr, ht⟩, htied.sameButNames⟩
    | addToRegistry => cases hsee
    | unregister => cases hsee
    | getName => cases hsee
  · intro s t c r s' hsee hst hstep
    refine hst.names (hstep.names ?_)
    rintro c rfl
    cases hsee

/-! ## The library keeps the names -/

theorem Lib.Shuffles.retains_name {s s' : Lib} (h : s.Shuffles s') :
    s.Retains FakeQueue.registryName s' := by
  refine ⟨fun x => ?_, h.1.s_mutexes, h.2⟩
  have hname : FakeQueue.registryName ∘ FakeQueue.shape = FakeQueue.registryName := rfl
  have := congrArg (Option.map FakeQueue.registryName) (h.1.lookup x)
  simpa only [Option.map_map, hname] using this

theorem retains_name_of_shuffles {α : Type} {x : Api α} (h : Ensures Lib.Shuffles x) :
    Ensures (Lib.Retains FakeQueue.registryName) x := h.mono fun _ _ hs => hs.retains_name

theorem retains_name_xQueueAddToSet (item set : Handle) :
    Ensures (Lib.Retains FakeQueue.registryName) (xQueueAddToSet item set) := by
  intro s
  rcases run_xQueueAddToSet_cases s item set with
    hrun | ⟨-, -, hrun⟩ | hrun | ⟨q, hn, -, hq, -, -, hrun⟩ <;> rw [hrun]
  · exact refl_of _ s
  · exact refl_of _ s
  · exact refl_of _ s
  · exact .write hn hq rfl rfl rfl

theorem retains_name_xQueueRemoveFromSet (item set : Handle) :
    Ensures (Lib.Retains FakeQueue.registryName) (xQueueRemoveFromSet item set) := by
  intro s
  rcases run_xQueueRemoveFromSet_cases s item set with
    hrun | ⟨-, -, hrun⟩ | hrun | ⟨q, hn, -, hq, -, -, hrun⟩ <;> rw [hrun]
  · exact refl_of _ s
  · exact refl_of _ s
  · exact refl_of _ s
  · exact .write hn hq rfl rfl rfl

theorem retains_name_xQueueTakeMutexRecursive (mutex : Handle) :
    Ensures (Lib.Retains FakeQueue.registryName) (xQueueTakeMutexRecursive mutex) := by
  by_cases hn : mutex = nullptr
  · exact .of_reads fun s => by simp [xQueueTakeMutexRecursive, hn]
  refine (ensures_configASSERT _).bind fun _ => ensures_deref_bind fun s q hq => ?_
  refine Ensures.bind_reads (finalState_configASSERT _ s) fun _ _ => ?_
  refine Ensures.bind_reads (ensures_uxQueueMessagesWaiting (R := Eq) mutex s).symm
    fun count _ => ?_
  split
  · have htake := retains_name_of_shuffles (ensures_internalQueueReceiveDummy mutex)
    refine htake.bind (fun rtn => ?_) s
    refine .ite (fun _ => .pure _) fun _ => ensures_deref_bind fun s q hq => ?_
    exact .write hn hq rfl rfl rfl
  · exact .write hn hq rfl rfl rfl

theorem retains_name_xQueueGiveMutexRecursive (mutex : Handle) :
    Ensures (Lib.Retains FakeQueue.registryName) (xQueueGiveMutexRecursive mutex) := by
  by_cases hn : mutex = nullptr
  · exact .of_reads fun s => by simp [xQueueGiveMutexRecursive, hn]
  refine (ensures_configASSERT _).bind fun _ => ensures_deref_bind fun s q hq => ?_
  refine Ensures.bind_reads (finalState_configASSERT _ s) fun _ _ => ?_
  refine Ensures.bind_reads (ensures_uxQueueMessagesWaiting (R := Eq) mutex s).symm
    fun count _ => ?_
  split
  · have hgive : Ensures (Lib.Retains FakeQueue.registryName)
        (if q.recursiveCallCount - 1 = 0 then xSemaphoreGive mutex else pure pdTRUE) :=
      .ite (fun _ => retains_name_of_shuffles (ensures_xQueueGenericSend _ _ _)) fun _ => .pure _
    have hwr : s.Retains FakeQueue.registryName
        (s.write mutex { q with recursiveCallCount := q.recursiveCallCount - 1 }) :=
      .write hn hq rfl rfl rfl
    exact trans_of (Lib.Retains FakeQueue.registryName) hwr (hgive _)
  · exact refl_of _ s

theorem Lib.Step.retains_name {s s' : Lib} {c : Call} {r : Reply} (h : s.Step c r s')
    (hc : c.Evolving) : s.Retains FakeQueue.registryName s' := by
  have hall : Ensures (Lib.Retains FakeQueue.registryName) c.exec := by
    cases c with
    | create => exact absurd hc id
    | createSet => exact absurd hc id
    | createCountingSemaphore => exact absurd hc id
    | createMutex => exact absurd hc id
    | delete => exact absurd hc id
    | trackingInit => exact absurd hc id
    | trackingTeardown => exact absurd hc id
    | messagesWaiting => exact .map _ (ensures_uxQueueMessagesWaiting _)
    | spacesAvailable => exact .map _ (ensures_uxQueueSpacesAvailable _)
    | peek => exact .map _ (ensures_xQueuePeek _ _)
    | isAnyMutexLocked => exact .map _ ensures_isAnyMutexLocked
    | send => exact .map _ (retains_name_of_shuffles (ensures_xQueueGenericSend _ _ _))
    | receive => exact .map _ (retains_name_of_shuffles (ensures_xQueueReceive _ _))
    | selectFromSet => exact .map _ (retains_name_of_shuffles (ensures_xQueueSelectFromSet _))
    | semaphoreTake => exact .map _ (retains_name_of_shuffles (ensures_xQueueSemaphoreTake _))
    | giveFromISR => exact .map _ (retains_name_of_shuffles (ensures_xQueueGiveFromISR _))
    | addToSet => exact .map _ (retains_name_xQueueAddToSet _ _)
    | removeFromSet => exact .map _ (retains_name_xQueueRemoveFromSet _ _)
    | takeMutexRecursive => exact .map _ (retains_name_xQueueTakeMutexRecursive _)
    | giveMutexRecursive => exact .map _ (retains_name_xQueueGiveMutexRecursive _)
  exact h.finalState_eq ▸ hall s

/-! ## The table of names -/

/-- The name of `h` after a call. -/
def renamed (h : Handle) (n : Option String) :
    RegistryCall × Except Exit RegistryValue → Option String
  | (.addToRegistry queue queueName, .ok _) => if queue = h then queueName else n
  | (.unregister queue, .ok _) => if queue = h then none else n
  | (.lib (.delete queue), _) => if queue = h then none else n
  | _ => n

/-- The name in the memory, if there is a queue. -/
def Lib.nameAt (s : Lib) (h : Handle) : Option String := (s.lookup h).bind FakeQueue.registryName

/-- The names are those of the table. -/
def Lib.Named (s : Lib) (table : Handle → Option String) : Prop :=
  ∀ h, h ≠ nullptr → s.nameAt h = table h

section Table

variable {s s' : Lib} {table : Handle → Option String}

theorem Lib.nameAt_write (s : Lib) (queue : Handle) (q : FakeQueue) (h : Handle) :
    (s.write queue q).nameAt h = if queue = h then q.registryName else s.nameAt h := by
  by_cases he : queue = h
  · subst he
    simp [nameAt]
  · simp [nameAt, he, lookup_write_of_ne _ _ (Ne.symm he)]

theorem Lib.nameAt_free (s : Lib) (queue h : Handle) :
    (s.free queue).nameAt h = if queue = h then none else s.nameAt h := by
  by_cases he : queue = h
  · subst he
    simp [nameAt]
  · simp [nameAt, he, lookup_free_of_ne _ (Ne.symm he)]

theorem Lib.Retains.nameAt_eq (h : s.Retains FakeQueue.registryName s') (x : Handle) :
    s'.nameAt x = s.nameAt x := by
  have hx := h.lookup x
  cases hs : s.lookup x <;> cases hs' : s'.lookup x <;> simp_all [nameAt]

/-- A new queue has no name, as its address had none before. -/
theorem Lib.nameAt_create {addr : Handle} (hf : s.Fresh addr) {q : FakeQueue}
    (hq : q.registryName = none) (x : Handle) : (s.write addr q).nameAt x = s.nameAt x := by
  rw [nameAt_write]
  split
  · subst_vars
    rw [hq, nameAt, hf.2, Option.bind_none]
  · rfl

theorem Call.Creates.registryName {c : Call} {addr : Handle} {q : FakeQueue}
    (hc : c.Creates addr q) : q.registryName = none := by
  cases c with
  | create => exact hc.2 ▸ rfl
  | createSet => exact hc.2 ▸ rfl
  | createCountingSemaphore => exact hc.2 ▸ rfl
  | createMutex => exact hc.2.2 ▸ rfl
  | _ => exact absurd hc id

/-- A call of the library that deletes no queue keeps all names. -/
theorem Lib.Step.nameAt_eq {c : Call} {r : Reply} (hstep : s.Step c r s') (hd : r.Defined)
    (hc : ∀ queue, c ≠ .delete queue) (x : Handle) : s'.nameAt x = s.nameAt x := by
  cases hstep.effect hd with
  | evolves hc => exact (hstep.retains_name hc).nameAt_eq x
  | unchanged => rfl
  | creates hcr hf => exact nameAt_create hf hcr.registryName x
  | createsMutex ht hf => exact nameAt_create hf rfl x
  | deletes => exact absurd rfl (hc _)
  | tracksOn => rfl
  | tracksOff => rfl

theorem Lib.Step.nameAt_delete {queue : Handle} {r : Reply} (hstep : s.Step (.delete queue) r s')
    (hd : r.Defined) {x : Handle} (hx : x ≠ nullptr) :
    s'.nameAt x = if queue = x then none else s.nameAt x := by
  by_cases hn : queue = nullptr
  · have hrun : EStateM.run (vQueueDelete queue) s = .error .assertFailed s := by
      simp [vQueueDelete, hn]
    obtain ⟨-, rfl⟩ := hstep.deterministic (Lib.step_of_error rfl hrun)
    rw [if_neg (hn.trans_ne hx.symm)]
  cases hq : s.lookup queue with
  | none => exact absurd hd (hstep.not_defined rfl (run_vQueueDelete_of_none hn hq))
  | some q =>
    obtain ⟨-, rfl⟩ := hstep.deterministic (Lib.step_of_ok rfl (run_vQueueDelete hn hq))
    rw [nameAt_free]
    split
    · rfl
    · split <;> rfl

theorem Lib.Named.step (hs : s.Named table) {c : RegistryCall} {r : Except Exit RegistryValue}
    (hstep : s.RegistryStep c r s') (hd : r ≠ .error .undefined) :
    s'.Named fun h => renamed h (table h) (c, r) := by
  intro x hx
  by_cases hc : ∃ c₀, c = .lib c₀
  · obtain ⟨c, rfl⟩ := hc
    obtain ⟨r₀, rfl, hs₀⟩ := registryStep_lib.mp hstep
    have hd₀ : r₀.Defined := by
      refine ⟨?_, hs₀.ne_outOfFuel⟩
      rintro rfl
      exact hd rfl
    by_cases hdel : ∃ queue, c = .delete queue
    · obtain ⟨queue, rfl⟩ := hdel
      rw [hs₀.nameAt_delete hd₀ hx, hs x hx]
      rfl
    · rw [hs₀.nameAt_eq hd₀ (fun queue he => hdel ⟨queue, he⟩) x, hs x hx]
      cases c <;> first | rfl | exact absurd ⟨_, rfl⟩ hdel
  · cases hstep.names fun c₀ he => hc ⟨c₀, he⟩ with
    | refused e =>
      rw [hs x hx]
      cases c <;> first | rfl | exact absurd ⟨_, rfl⟩ hc
    | read => exact hs x hx
    | add hn hq =>
      rw [nameAt_write, hs x hx]
      rfl
    | remove hn hq =>
      rw [nameAt_write, hs x hx]
      rfl

end Table

/-- **The registry is a table of names**: after every run, `pcQueueGetName` answers for every live
queue what was registered for it last, and nothing if the queue was unregistered since, or its
address deleted. -/
theorem registry_names {s s' : Lib} {tr : List (RegistryCall × Except Exit RegistryValue)}
    (hrun : Run (fun s c r s' => s.RegistryStep c r s' ∧ r ≠ .error .undefined) s tr s')
    {h : Handle} {q : FakeQueue} (hn : h ≠ nullptr) (hq : s'.lookup h = some q) :
    EStateM.run (pcQueueGetName h) s' = .ok (tr.foldl (renamed h) (s.nameAt h)) s' := by
  have hnamed : s'.Named fun h => tr.foldl (renamed h) (s.nameAt h) := by
    refine hrun.history (I := fun tr u => u.Named fun h => tr.foldl (renamed h) (s.nameAt h)) ?_
      fun _ _ => rfl
    intro tr u c r u' hu hstep
    simpa only [List.foldl_append, List.foldl_cons, List.foldl_nil] using hu.step hstep.1 hstep.2
  have hname := hnamed h hn
  rw [Lib.nameAt, hq] at hname
  simp [pcQueueGetName, hn, hq, ← hname]

/-- A named queue in a set is used, and then unregistered. -/
def namedQueue : List (RegistryCall × Except Exit RegistryValue) :=
  [(.lib (.create 1 2 1 queueQUEUE_TYPE_BASE), .ok (.value (.handle 1))),
    (.addToRegistry 1 (some "events"), .ok (.value .unit)),
    (.lib (.createSet 2 2), .ok (.value (.handle 2))),
    (.lib (.addToSet 1 2), .ok (.value (.code pdPASS))),
    (.addToRegistry 2 none, .error .assertFailed),
    (.lib (.send 1 (some [7]) queueSEND_TO_BACK), .ok (.value (.code pdTRUE))),
    (.getName 1, .ok (.name (some "events"))),
    (.unregister 1, .ok (.value .unit)),
    (.addToRegistry 2 (some "set"), .ok (.value .unit)),
    (.lib (.selectFromSet 2), .ok (.value (.handle 1)))]

theorem Lib.registryStep_of_ending {s : Lib} {c : RegistryCall} {r : Except Exit RegistryValue}
    (hr : (ending (EStateM.run c.exec s)).1 = r) :
    s.RegistryStep c r (ending (EStateM.run c.exec s)).2 := by
  rw [RegistryStep, ← hr]

theorem namedQueue_run :
    ∃ s', Run (fun s c r s' => s.RegistryStep c r s' ∧ r ≠ .error .undefined) Lib.init
      namedQueue s' ∧ s'.lookup 2 = some { freshQueue 2 8 0 with registryName := some "set" } :=
  ⟨_, .cons ⟨Lib.registryStep_of_ending (by decide +kernel), by decide⟩
    (.cons ⟨Lib.registryStep_of_ending (by decide +kernel), by decide⟩
    (.cons ⟨Lib.registryStep_of_ending (by decide +kernel), by decide⟩
    (.cons ⟨Lib.registryStep_of_ending (by decide +kernel), by decide⟩
    (.cons ⟨Lib.registryStep_of_ending (by decide +kernel), by decide⟩
    (.cons ⟨Lib.registryStep_of_ending (by decide +kernel), by decide⟩
    (.cons ⟨Lib.registryStep_of_ending (by decide +kernel), by decide⟩
    (.cons ⟨Lib.registryStep_of_ending (by decide +kernel), by decide⟩
    (.cons ⟨Lib.registryStep_of_ending (by decide +kernel), by decide⟩
    (.cons ⟨Lib.registryStep_of_ending (by decide +kernel), by decide⟩
    (.nil _)))))))))), by decide +kernel⟩

theorem registry_transparent_namedQueue : ∃ s', Run Lib.RegistryStep Lib.init namedQueue s' ∧
    ∃ t', Run Lib.RegistryStep Lib.init (withoutRegistry namedQueue) t' ∧ s'.SameButNames t' := by
  obtain ⟨s', hrun, -⟩ := namedQueue_run
  have hrun' : Run Lib.RegistryStep Lib.init namedQueue s' := hrun.mono fun _ _ _ _ h => h.1
  exact ⟨s', hrun', registry_transparent hrun'⟩

theorem registry_names_namedQueue : ∃ s',
    Run (fun s c r s' => s.RegistryStep c r s' ∧ r ≠ .error .undefined) Lib.init namedQueue s' ∧
    EStateM.run (pcQueueGetName 2) s' =
      .ok (namedQueue.foldl (renamed 2) (Lib.init.nameAt 2)) s' := by
  obtain ⟨s', hrun, hq⟩ := namedQueue_run
  exact ⟨s', hrun, registry_names hrun (by decide) hq⟩

end FakeFreeRtos
