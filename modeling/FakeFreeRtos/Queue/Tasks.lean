import FakeFreeRtos.Queue.Views

/-!
# Tasks on queues of their own

The fake runs the code of all tasks in one thread, and all their queues live in one memory. An
address belongs to the task that got it from the allocator last (`TaskMemory.Step`), so that what
one task deletes may become the queue of another. When every task passes handles of its own only,
and the allocator answers addresses to which no queue refers as its set, whatever is interleaved
with the calls of one task can neither change what they answer nor what becomes of its queues: its
calls are a run of the task alone (`tasks_isolated`).
-/

namespace FakeFreeRtos

open Foundations

variable {ι : Type} {owner : Handle → ι}

/-- What the task `i` owns. -/
def View.owned (owner : Handle → ι) (i : ι) : View where
  sees h := h ≠ nullptr ∧ owner h = i
  name := id
  tracking := False
  not_null hh := hh.1 rfl

/-- The memory that the tasks share, and whose each address is. -/
structure TaskMemory (ι : Type) where
  owner : Handle → ι
  lib : Lib

namespace TaskMemory

/-- The queues that are in a set are owned by the owner of the set. -/
def Partitioned (m : TaskMemory ι) : Prop :=
  ∀ h q, m.lib.lookup h = some q → q.queueSetContainer ≠ nullptr →
    h ≠ nullptr ∧ m.owner q.queueSetContainer = m.owner h

/-- The memory `t` holds the queues of the task `i`, and no others. -/
structure AloneFor (i : ι) (m : TaskMemory ι) (t : Lib) : Prop where
  own : ∀ h, h ≠ nullptr → m.owner h = i → t.lookup h = m.lib.lookup h
  others : ∀ h, h ≠ nullptr → m.owner h ≠ i → t.lookup h = none

end TaskMemory

/-- The address that the allocator answers a call. -/
def Call.allocates? : Call → Option Handle
  | .create addr .. | .createSet addr _ | .createCountingSemaphore addr .. | .createMutex addr _ =>
    some addr
  | _ => none

namespace TaskMemory

/-- Whose an address is once the allocator has answered the call `c.2` of the task `c.1`. -/
def granted (m : TaskMemory ι) (c : ι × Call) (h : Handle) : ι :=
  if c.2.allocates? = some h then c.1 else m.owner h

/-- The call `c.2` of the task `c.1`. The allocator answers addresses that are not in use, whoever
owned them before; the task passes handles of its own only. The tracking of mutexes is left to the
test around the tasks. -/
structure Step (m : TaskMemory ι) (c : ι × Call) (r : Reply) (m' : TaskMemory ι) : Prop where
  unused : ∀ addr, c.2.allocates? = some addr → m.lib.Unused addr
  owner_eq : m'.owner = m.granted c
  own : ∀ h ∈ c.2.handles, h = nullptr ∨ m'.owner h = c.1
  noTracking : ¬ c.2.IsTracking
  step : m.lib.Step c.2 r m'.lib
  defined : r.Defined

end TaskMemory

/-- The calls of the task `i`. -/
def callsOf [DecidableEq ι] (i : ι) : List ((ι × Call) × Reply) → List (Call × Reply) :=
  project fun c => if c.1 = i then some c.2 else none

namespace View

variable {V : View} {before s s' t : Lib}

/-- Where the view goes on seeing the same, the memories stay tied. -/
theorem Tied.of_seen (hst : V.Tied before s t) (hlookup : ∀ h, V.sees h → s'.lookup h = s.lookup h)
    (hmutexes : V.tracking → s'.s_mutexes = s.s_mutexes) : V.Tied s' s' t where
  queues h hh := hlookup h hh ▸ hst.queues h hh
  containers h q hh hq := hst.containers h q hh (hlookup h hh ▸ hq)
  unseen _ _ := rfl
  mutexes ht := (hmutexes ht).trans (hst.mutexes ht)
  tracked ht l hl := hst.tracked ht l ((hmutexes ht).symm.trans hl)

/-- A view that is shown the names sees the same queue in tied memories. -/
theorem Tied.lookup_eq (hst : V.Tied before s t) (hname : V.name = id) {h : Handle}
    (hh : V.sees h) : t.lookup h = s.lookup h := by
  have hrel := hst.queues h hh
  cases hs : s.lookup h with
  | none => exact (hst.lookup_eq_none hh).mp hs
  | some q =>
    rw [hs] at hrel
    generalize t.lookup h = o at hrel
    cases hrel with
    | some hq =>
      obtain ⟨n, rfl, hn⟩ := hq
      rw [hname, id, id] at hn
      rw [hn]

theorem Tied.rebase (hst : V.Tied before s t) : V.Tied s s t := hst.of_seen (fun _ _ => rfl)
  fun _ => rfl

theorem admits_owned {i : ι} {c : Call} (hh : ∀ h ∈ c.handles, h = nullptr ∨ owner h = i)
    (hc : ¬ c.IsTracking) : (owned owner i).Admits c := by
  refine ⟨fun h hmem => ?_, hc⟩
  by_cases hn : h = nullptr
  · exact .inl hn
  · exact .inr ⟨hn, (hh h hmem).resolve_left hn⟩

/-- Memories that agree on what a task owns are tied in its view. -/
theorem tied_owned {m : TaskMemory ι} {i : ι} (hm : m.Partitioned)
    (ht : ∀ h, h ≠ nullptr → m.owner h = i → t.lookup h = m.lib.lookup h) :
    (owned m.owner i).Tied m.lib m.lib t where
  queues h hh := ht h hh.1 hh.2 ▸ rel_sameQueue_refl _
  containers h q hh hq := by
    by_cases hc : q.queueSetContainer = nullptr
    · exact .inl hc
    · exact .inr ⟨hc, (hm h q hq hc).2.trans hh.2⟩
  unseen _ _ := rfl
  mutexes hf := hf.elim
  tracked hf := hf.elim

end View

namespace TaskMemory

variable {m m' : TaskMemory ι} {c : ι × Call} {r : Reply} {i : ι} {t : Lib}

/-! ## The allocator -/

section Allocator

variable (hunused : ∀ addr, c.2.allocates? = some addr → m.lib.Unused addr)

include hunused

omit hunused in
theorem granted_of_ne {h : Handle} (hh : c.2.allocates? ≠ some h) : m.granted c h = m.owner h :=
  if_neg hh

/-- An address that changes its owner holds nothing. -/
theorem lookup_eq_none_of_granted {h : Handle} (hne : m.granted c h ≠ m.owner h) :
    m.lib.lookup h = none :=
  (hunused h (by_contra fun hh => hne (granted_of_ne hh))).fresh.2

theorem Partitioned.granted (hm : m.Partitioned) : Partitioned ⟨m.granted c, m.lib⟩ := by
  intro h q hq hc
  obtain ⟨hn, howner⟩ := hm h q hq hc
  have hh : c.2.allocates? ≠ some h := fun ha => by
    have hfree := (hunused h ha).fresh.2
    exact Option.some_ne_none q (hq.symm.trans hfree)
  have hset : c.2.allocates? ≠ some q.queueSetContainer := fun ha =>
    (hunused _ ha).noMember h q hq rfl
  exact ⟨hn, (granted_of_ne hset).trans (howner.trans (granted_of_ne hh).symm)⟩

/-- A task alone has nothing at an address that changes its owner. -/
theorem AloneFor.granted (ht : m.AloneFor i t) : AloneFor i ⟨m.granted c, m.lib⟩ t := by
  have hmoved : ∀ h, h ≠ nullptr → m.granted c h ≠ m.owner h → t.lookup h = none := by
    intro h hn hne
    by_cases ho : m.owner h = i
    · rw [ht.own h hn ho]
      exact lookup_eq_none_of_granted hunused hne
    · exact ht.others h hn ho
  constructor
  · intro h hn ho
    by_cases hne : m.granted c h = m.owner h
    · exact ht.own h hn (hne.symm.trans ho)
    · exact (hmoved h hn hne).trans (lookup_eq_none_of_granted hunused hne).symm
  · intro h hn ho
    by_cases hne : m.granted c h = m.owner h
    · exact ht.others h hn fun hi => ho (hne.trans hi)
    · exact hmoved h hn hne

end Allocator

/-! ## The calls of the tasks -/

theorem Step.admits (hstep : m.Step c r m') : (View.owned m'.owner c.1).Admits c.2 :=
  View.admits_owned hstep.own hstep.noTracking

/-- What the task of a call sees of its own memory before the call. -/
theorem Step.tied (hstep : m.Step c r m') (hm : m.Partitioned)
    (ht : ∀ h, h ≠ nullptr → m'.owner h = c.1 → t.lookup h = m.lib.lookup h) :
    (View.owned m'.owner c.1).Tied m.lib m.lib t := by
  have hgranted := hm.granted hstep.unused
  rw [← hstep.owner_eq] at hgranted
  exact View.tied_owned hgranted ht

/-- The queues of the other tasks are left alone. -/
theorem Step.lookup_eq (hstep : m.Step c r m') (hm : m.Partitioned) {h : Handle}
    (ho : h = nullptr ∨ m'.owner h ≠ c.1) : m'.lib.lookup h = m.lib.lookup h :=
  (hstep.tied hm fun _ _ _ => rfl).lookup_eq_of_unseen hstep.admits hstep.step fun hh =>
    ho.elim hh.1 fun hne => hne hh.2

theorem Step.partitioned (hstep : m.Step c r m') (hm : m.Partitioned) : m'.Partitioned := by
  obtain ⟨_, -, htied⟩ := (hstep.tied hm fun _ _ _ => rfl).step hstep.admits hstep.step
  have hgranted := hm.granted hstep.unused
  rw [← hstep.owner_eq] at hgranted
  intro h q hq hc
  by_cases hown : h ≠ nullptr ∧ m'.owner h = c.1
  · have hknows := (htied.containers h q hown hq).sees hc
    exact ⟨hown.1, hknows.2.trans hown.2.symm⟩
  · exact hgranted h q ((htied.unseen h hown).symm.trans hq) hc

/-- **A call of the task** answers as it does for the task alone. -/
theorem Step.seen (hstep : m.Step c r m') (hm : m.Partitioned) (ht : m.AloneFor c.1 t) :
    ∃ t', t.Step c.2 r t' ∧ m'.AloneFor c.1 t' := by
  have halone := ht.granted hstep.unused
  rw [← hstep.owner_eq] at halone
  have htied := hstep.tied hm halone.own
  obtain ⟨t', htstep, htied'⟩ := htied.step hstep.admits hstep.step
  refine ⟨t', htstep, fun h hn ho => htied'.lookup_eq rfl ⟨hn, ho⟩, fun h hn ho => ?_⟩
  rw [htied.lookup_eq_of_unseen hstep.admits htstep fun hh => ho hh.2]
  exact halone.others h hn ho

/-- **A call of another task** is not noticed. -/
theorem Step.unseen (hstep : m.Step c r m') (hm : m.Partitioned) (ht : m.AloneFor i t)
    (hi : c.1 ≠ i) : m'.AloneFor i t := by
  have halone := ht.granted hstep.unused
  rw [← hstep.owner_eq] at halone
  refine ⟨fun h hn ho => ?_, halone.others⟩
  rw [hstep.lookup_eq hm (.inr (ho.trans_ne hi.symm))]
  exact halone.own h hn ho

end TaskMemory

open TaskMemory

variable [DecidableEq ι] {m m' : TaskMemory ι} {tr : List ((ι × Call) × Reply)}

/-- **Tasks on queues of their own do not interfere.** Of any interleaving, the calls of one task
and their answers are a run of this task alone, in a memory with nothing but its own queues; and
its queues end up the same. -/
theorem tasks_isolated (hm : m.Partitioned) (hrun : Run TaskMemory.Step m tr m') (i : ι) {t : Lib}
    (ht : m.AloneFor i t) : ∃ t', Run Lib.Step t (callsOf i tr) t' ∧ m'.AloneFor i t' := by
  refine (hrun.unwind (R := fun m t => m.Partitioned ∧ m.AloneFor i t) ?_ ?_
    ⟨hm, ht⟩).imp fun t' h => ⟨h.1, h.2.2⟩
  · rintro m t ⟨j, c⟩ c' r m' hsee ⟨hm, ht⟩ hstep
    by_cases hj : j = i
    · subst hj
      obtain rfl : c = c' := by simpa using hsee
      obtain ⟨t', htstep, ht'⟩ := hstep.seen hm ht
      exact ⟨t', htstep, hstep.partitioned hm, ht'⟩
    · simp [hj] at hsee
  · rintro m t ⟨j, c⟩ r m' hsee ⟨hm, ht⟩ hstep
    have hj : j ≠ i := by
      rintro rfl
      simp at hsee
    exact ⟨hstep.partitioned hm, hstep.unseen hm ht hj⟩

/-- One task watches a queue by a set while the other uses a mutex, deletes it, and leaves its
address to the first. -/
def twoTasks : List ((Bool × Call) × Reply) :=
  [((true, .create 1 2 1 queueQUEUE_TYPE_BASE), .returned (.handle 1)),
    ((false, .createMutex 12 queueQUEUE_TYPE_RECURSIVE_MUTEX), .returned (.handle 12)),
    ((true, .createSet 2 2), .returned (.handle 2)),
    ((true, .addToSet 1 2), .returned (.code pdPASS)),
    ((false, .takeMutexRecursive 12), .returned (.code pdTRUE)),
    ((true, .send 1 (some [7]) queueSEND_TO_BACK), .returned (.code pdTRUE)),
    ((false, .delete 12), .returned .unit),
    ((true, .create 12 1 1 queueQUEUE_TYPE_BASE), .returned (.handle 12)),
    ((false, .create 3 1 1 queueQUEUE_TYPE_BASE), .returned (.handle 3)),
    ((true, .send 12 (some [8]) queueSEND_TO_BACK), .returned (.code pdTRUE)),
    ((true, .selectFromSet 2), .returned (.handle 1))]

/-- A memory in which nothing is allocated. -/
def TaskMemory.empty : TaskMemory Bool := ⟨fun _ => false, Lib.init⟩

theorem TaskMemory.step_of_outcome {m : TaskMemory Bool} {c : Bool × Call} {r : Reply}
    (hunused : ∀ addr, c.2.allocates? = some addr → m.lib.Unused addr)
    (hh : c.2.handles.all fun h => decide (h = nullptr ∨ m.granted c h = c.1))
    (hc : ¬ c.2.IsTracking) (hr : (outcome (EStateM.run c.2.exec m.lib)).1 = r) (hd : r.Defined) :
    m.Step c r ⟨m.granted c, (outcome (EStateM.run c.2.exec m.lib)).2⟩ where
  unused := hunused
  owner_eq := rfl
  own h hmem := of_decide_eq_true (List.all_eq_true.mp hh h hmem)
  noTracking := hc
  step := Lib.step_of_outcome hr
  defined := hd

/-- The allocator answers `addr`. -/
theorem TaskMemory.unused_of_allLive {m : TaskMemory Bool} {c : Bool × Call} (addr : Handle)
    (ha : c.2.allocates? = some addr) (hn : addr ≠ nullptr) (hfree : m.lib.lookup addr = none)
    (hlive : m.lib.AllLive fun x => (m.lib.lookup x).all fun q => q.queueSetContainer ≠ addr) :
    ∀ x, c.2.allocates? = some x → m.lib.Unused x := by
  intro x hx
  obtain rfl := Option.some.inj (ha.symm.trans hx)
  exact Lib.unused_of_allLive hn hfree hlive

theorem TaskMemory.unused_of_none {m : TaskMemory Bool} {c : Bool × Call}
    (ha : c.2.allocates? = none) : ∀ x, c.2.allocates? = some x → m.lib.Unused x := by
  intro x hx
  rw [ha] at hx
  cases hx

theorem twoTasks_run : ∃ m, Run TaskMemory.Step .empty twoTasks m :=
  ⟨_, .cons (step_of_outcome (unused_of_allLive 1 rfl (by decide) (by decide +kernel)
      (by decide +kernel)) (by decide +kernel) id (by decide +kernel) (by decide))
    (.cons (step_of_outcome (unused_of_allLive 12 rfl (by decide) (by decide +kernel)
      (by decide +kernel)) (by decide +kernel) id (by decide +kernel) (by decide))
    (.cons (step_of_outcome (unused_of_allLive 2 rfl (by decide) (by decide +kernel)
      (by decide +kernel)) (by decide +kernel) id (by decide +kernel) (by decide))
    (.cons (step_of_outcome (unused_of_none rfl) (by decide +kernel) id (by decide +kernel)
      (by decide))
    (.cons (step_of_outcome (unused_of_none rfl) (by decide +kernel) id (by decide +kernel)
      (by decide))
    (.cons (step_of_outcome (unused_of_none rfl) (by decide +kernel) id (by decide +kernel)
      (by decide))
    (.cons (step_of_outcome (unused_of_none rfl) (by decide +kernel) id (by decide +kernel)
      (by decide))
    (.cons (step_of_outcome (unused_of_allLive 12 rfl (by decide) (by decide +kernel)
      (by decide +kernel)) (by decide +kernel) id (by decide +kernel) (by decide))
    (.cons (step_of_outcome (unused_of_allLive 3 rfl (by decide) (by decide +kernel)
      (by decide +kernel)) (by decide +kernel) id (by decide +kernel) (by decide))
    (.cons (step_of_outcome (unused_of_none rfl) (by decide +kernel) id (by decide +kernel)
      (by decide))
    (.cons (step_of_outcome (unused_of_none rfl) (by decide +kernel) id (by decide +kernel)
      (by decide))
    (.nil _)))))))))))⟩

theorem tasks_isolated_twoTasks : ∃ m', Run TaskMemory.Step .empty twoTasks m' ∧
    ∃ t', Run Lib.Step Lib.init (callsOf true twoTasks) t' ∧ m'.AloneFor true t' := by
  obtain ⟨m', hrun⟩ := twoTasks_run
  exact ⟨m', hrun, tasks_isolated (fun _ _ h => by cases h) hrun true
    ⟨fun _ _ _ => rfl, fun _ _ _ => rfl⟩⟩

end FakeFreeRtos
