import FakeFreeRtos.Foundations.Paths
import FakeFreeRtos.Queue.Atomic

/-!
# Sends to members of a set

A send to a member of a set should either put the member's handle in the set as well, or report a
failure (`Recorded`). The code drops the result of the nested send, so a full set loses the event
while the call answers pdTRUE. `send_recorded_iff` says exactly when a send is recorded: also not
when the notification comes round to the set again, because the set is, through other sets, a
member of itself.

What a completed nested send makes of any queue, in any memory, is `exists_grown`: the queues on
the path of set memberships grow, as far as there is room, and no others.
-/

namespace FakeFreeRtos

open Foundations Relation

/-! ## The path of a notification -/

/-- A message sent to `x` is announced to `y`: the queue at `x` has room and is in the set `y`. -/
def Lib.Relays (s : Lib) (x y : Handle) : Prop :=
  ∃ q, s.lookup x = some q ∧ q.queue.length < q.queueLength.toNat ∧ q.link = some y

/-- Another message in a queue changes nothing for the others, and only takes room away. -/
theorem Lib.relays_of_relays_pushed {s : Lib} {queue : Handle} {q : FakeQueue} {e : Side}
    {item : Buffer} (hq : s.lookup queue = some q) {x y : Handle}
    (h : (pushed s queue q e item).Relays x y) : s.Relays x y := by
  obtain ⟨q', hq', hroom, hlink⟩ := h
  by_cases hx : x = queue
  · subst hx
    obtain rfl := Option.some.inj ((lookup_write_self ..).symm.trans hq')
    refine ⟨q, hq, ?_, hlink⟩
    simp only [BoundedDeque.length_pushItems] at hroom
    omega
  · exact ⟨q', (lookup_write_of_ne s _ hx).symm.trans hq', hroom, hlink⟩

theorem Lib.relays_pushed_of_ne {s : Lib} {queue : Handle} {q : FakeQueue} {e : Side}
    {item : Buffer} {x y : Handle} (h : s.Relays x y) (hx : x ≠ queue) :
    (pushed s queue q e item).Relays x y := by
  obtain ⟨q', hq', hroom, hlink⟩ := h
  exact ⟨q', (lookup_write_of_ne s _ hx).trans hq', hroom, hlink⟩

/-- A completed send of an item to the back of a queue. -/
theorem notify_cases {fuel : ℕ} {s s' : Lib} {queue : Handle} {b : Bytes} {v : BaseType}
    (h : EStateM.run (xQueueGenericSendFuel (fuel + 1) queue (some b) queueSEND_TO_BACK) s =
      .ok v s') :
    ∃ q, s.lookup queue = some q ∧
      ((q.queueLength.toNat ≤ q.queue.length ∧ s' = s) ∨
        (q.queue.length < q.queueLength.toNat ∧
          ((q.link = none ∧ s' = pushed s queue q .back (some b)) ∨
            ∃ c v', q.link = some c ∧
              EStateM.run (xQueueGenericSendFuel fuel c (some (handleBytes queue))
                queueSEND_TO_BACK) (pushed s queue q .back (some b)) = .ok v' s'))) := by
  rcases run_xQueueGenericSendFuel_cases fuel s queue (some b) queueSEND_TO_BACK with
    ⟨x, -, hrun⟩ | ⟨⟨q, hq, hfull⟩, hrun⟩ | ⟨q, l, -, hq, -, hst, hrun⟩
  · cases hrun.symm.trans h
  · cases hrun.symm.trans h
    exact ⟨q, hq, .inl ⟨hfull, rfl⟩⟩
  · obtain ⟨e, he, hroom, rfl⟩ : ∃ e, queueSEND_TO_BACK = copyPosition e ∧
        q.queue.length < q.queueLength.toNat ∧
        l = BoundedDeque.pushItems q.queue e (message (some b) q.itemSize) :=
      hst.resolve_right fun hov => copyPosition_ne_overwrite .back hov.1
    obtain rfl : Side.back = e := copyPosition_injective he
    refine ⟨q, hq, .inr ⟨hroom, ?_⟩⟩
    rw [hrun] at h
    by_cases hc : q.queueSetContainer = nullptr
    · rw [if_neg (not_not_intro hc)] at h
      cases h
      exact .inl ⟨FakeQueue.link_eq_none_iff.mpr hc, rfl⟩
    · rw [if_pos hc, run_map] at h
      refine .inr ⟨q.queueSetContainer, ?_⟩
      cases hr : EStateM.run (xQueueGenericSendFuel fuel q.queueSetContainer
          (some (handleBytes queue)) queueSEND_TO_BACK) (pushed s queue q .back (some b)) with
      | error e s₁ =>
        rw [pushed] at hr
        rw [hr] at h
        cases h
      | ok v' s₁ =>
        have hr' := hr
        rw [pushed] at hr'
        rw [hr'] at h
        cases h
        exact ⟨v', FakeQueue.link_eq_some_iff.mpr ⟨rfl, hc⟩, rfl⟩

/-- **What a completed notification does**: every queue keeps its messages and gains some at its
back, at least one exactly when the path of set memberships leads there and it has room. -/
theorem exists_grown {fuel : ℕ} {s s' : Lib} {queue : Handle} {b : Bytes} {v : BaseType}
    (h : EStateM.run (xQueueGenericSendFuel fuel queue (some b) queueSEND_TO_BACK) s = .ok v s')
    {x : Handle} {q : FakeQueue} (hq : s.lookup x = some q) :
    ∃ l, s'.lookup x = some { q with queue := q.queue ++ l } ∧
      (l ≠ [] ↔ ReflTransGen s.Relays queue x ∧ q.queue.length < q.queueLength.toNat) := by
  induction fuel generalizing s queue b v q with
  | zero => cases h
  | succ fuel ih =>
    obtain ⟨q₀, hq₀, ⟨hfull, rfl⟩ | ⟨hroom, hrest⟩⟩ := notify_cases h
    · -- the queue is full, and the path ends
      refine ⟨[], by rw [hq, List.append_nil], iff_of_false (fun hne => hne rfl) ?_⟩
      rintro ⟨hpath, hroom⟩
      rcases hpath.cases_head with rfl | ⟨c, ⟨q', hq', hroom', -⟩, -⟩
      · obtain rfl := Option.some.inj (hq₀.symm.trans hq)
        omega
      · obtain rfl := Option.some.inj (hq₀.symm.trans hq')
        omega
    · by_cases hx : x = queue
      · subst hx
        obtain rfl := Option.some.inj (hq₀.symm.trans hq)
        have hpushed : (pushed s x q₀ .back (some b)).lookup x = some { q₀ with
            queue := q₀.queue ++ [message (some b) q₀.itemSize] } := Lib.lookup_write_self ..
        rcases hrest with ⟨-, rfl⟩ | ⟨c, v', -, hrun⟩
        · exact ⟨_, hpushed, iff_of_true (List.cons_ne_nil _ _) ⟨.refl, hroom⟩⟩
        · obtain ⟨l, hl, -⟩ := ih hrun hpushed
          refine ⟨message (some b) q₀.itemSize :: l, ?_,
            iff_of_true (List.cons_ne_nil _ _) ⟨.refl, hroom⟩⟩
          rw [hl, List.append_assoc, List.singleton_append]
      · have hpushed : (pushed s queue q₀ .back (some b)).lookup x = some q :=
          (Lib.lookup_write_of_ne s _ hx).trans hq
        rcases hrest with ⟨hlink, rfl⟩ | ⟨c, v', hlink, hrun⟩
        · refine ⟨[], by rw [hpushed, List.append_nil], iff_of_false (fun hne => hne rfl) ?_⟩
          rintro ⟨hpath, -⟩
          rcases hpath.cases_head with he | ⟨c, ⟨q', hq', -, hlink'⟩, -⟩
          · exact hx he.symm
          · obtain rfl := Option.some.inj (hq₀.symm.trans hq')
            rw [hlink] at hlink'
            cases hlink'
        · obtain ⟨l, hl, hiff⟩ := ih hrun hpushed
          refine ⟨l, hl, hiff.trans (and_congr_left fun _ => ⟨fun hpath => ?_, fun hpath => ?_⟩)⟩
          · exact .head ⟨q₀, hq₀, hroom, hlink⟩
              (hpath.lift id fun _ _ => Lib.relays_of_relays_pushed hq₀)
          · -- the path leaves the queue at its first step only, so its loss of room is no obstacle
            obtain ⟨c', ⟨q', hq', -, hlink'⟩, hpath'⟩ := exists_avoiding_of_ne hpath hx
            obtain rfl := Option.some.inj (hq₀.symm.trans hq')
            obtain rfl := Option.some.inj (hlink.symm.trans hlink')
            exact hpath'.lift id fun _ _ hyz => Lib.relays_pushed_of_ne hyz.1 hyz.2

/-! ## A send to a member of a set -/

/-- No queue is a member of the one at `h`. -/
def Lib.IsNoSet (s : Lib) (h : Handle) : Prop := ∀ x, s.setOf x ≠ some h

theorem Lib.isNoSet_of_allLive {s : Lib} {h : Handle} (hs : s.AllLive (s.setOf · ≠ some h)) :
    s.IsNoSet h := fun _ hx => hs.of_setOf hx hx

theorem Lib.IsNoSet.not_relays {s : Lib} {h : Handle} (hs : s.IsNoSet h) (x : Handle) :
    ¬ s.Relays x h := by
  rintro ⟨q, hq, -, hlink⟩
  exact hs x ((setOf_of_lookup hq).trans hlink)

/-- No path leads to a queue that is no set. -/
theorem Lib.IsNoSet.not_reaches {s : Lib} {h x : Handle} (hs : s.IsNoSet h) (hne : x ≠ h) :
    ¬ ReflTransGen s.Relays x h := by
  intro hpath
  rcases hpath.cases_tail with he | ⟨y, -, hy⟩
  · exact hne he.symm
  · exact hs.not_relays y hy

/-- The call sends `item` to the end `e` of `queue`: a send to the back or the front, or a give. -/
inductive Call.Sends : Call → Handle → Buffer → Side → Prop
  | send (queue : Handle) (item : Buffer) (e : Side) :
      Sends (.send queue item (copyPosition e)) queue item e
  | giveFromISR (queue : Handle) : Sends (.giveFromISR queue) queue none .back

/-- A send to `queue`, which holds `q`, a member of the set at `set`, which holds `S`, is recorded:
when it succeeds the message is in the queue and the queue's handle at the back of the set, and
when it fails both are as before. -/
structure Recorded (q S : FakeQueue) (queue set : Handle) (item : Buffer) (e : Side) (r : Reply)
    (s' : Lib) : Prop where
  success : r = .returned (.code pdTRUE) →
    s'.lookup queue =
      some { q with queue := BoundedDeque.pushItems q.queue e (message item q.itemSize) } ∧
    s'.lookup set = some { S with queue := S.queue ++ [handleBytes queue] }
  failure : r ≠ .returned (.code pdTRUE) →
    (r = .returned (.code errQUEUE_FULL) ∨ r = .left .assertFailed) ∧
    s'.lookup queue = some q ∧ s'.lookup set = some S

theorem Recorded.of_failed {q S : FakeQueue} {queue set : Handle} {item : Buffer} {e : Side}
    {r : Reply} {s' : Lib} (hr : r = .returned (.code errQUEUE_FULL) ∨ r = .left .assertFailed)
    (hq : s'.lookup queue = some q) (hS : s'.lookup set = some S) :
    Recorded q S queue set item e r s' := by
  refine ⟨fun h => ?_, fun _ => ⟨hr, hq, hS⟩⟩
  subst h
  exact absurd hr (by decide)

/-- The call is refused before it stores anything: there is no item, the queue is a recursive mutex
that is given from an interrupt, or it is full. -/
def FakeQueue.Refuses (q : FakeQueue) (c : Call) (item : Buffer) : Prop :=
  (item = none ∧ q.itemSize ≠ 0) ∨
    (q.queueType = queueQUEUE_TYPE_RECURSIVE_MUTEX ∧ ∃ queue, c = .giveFromISR queue) ∨
    q.queueLength.toNat ≤ q.queue.length

/-- A notification of the set comes round to it and finds room for one more: the set is, through
sets with room, a member of itself, and has two free slots. -/
def Lib.ComesRound (s : Lib) (set : Handle) (S : FakeQueue) : Prop :=
  TransGen s.Relays set set ∧ S.queue.length + 2 ≤ S.queueLength.toNat

section Send

variable {s s' : Lib} {queue set : Handle} {q S : FakeQueue} {item : Buffer} {e : Side} {r : Reply}

/-- How a send to a live queue goes on: it is refused, it is undefined, or it stores the message. -/
theorem run_send_cases (hn : queue ≠ nullptr) (hq : s.lookup queue = some q) (item : Buffer)
    (e : Side) (fuel : ℕ) :
    ((item = none ∧ q.itemSize ≠ 0) ∧
      EStateM.run (xQueueGenericSendFuel (fuel + 1) queue item (copyPosition e)) s =
        .error .assertFailed s) ∨
    (q.queueLength.toNat ≤ q.queue.length ∧
      EStateM.run (xQueueGenericSendFuel (fuel + 1) queue item (copyPosition e)) s =
        .ok errQUEUE_FULL s) ∨
    EStateM.run (xQueueGenericSendFuel (fuel + 1) queue item (copyPosition e)) s =
      .error .undefined s ∨
    (¬ (item = none ∧ q.itemSize ≠ 0) ∧ q.queue.length < q.queueLength.toNat ∧
      ItemFits item q.itemSize) := by
  by_cases hnull : item = none ∧ q.itemSize ≠ 0
  · exact .inl ⟨hnull, by simp [xQueueGenericSendFuel, hn, hq, hnull]⟩
  by_cases hfull : q.queueLength.toNat ≤ q.queue.length
  · exact .inr (.inl ⟨hfull,
      by simp [xQueueGenericSendFuel, hn, hq, hnull, copyPosition_ne_overwrite, hfull]⟩)
  by_cases hi : ItemFits item q.itemSize
  · exact .inr (.inr (.inr ⟨hnull, by omega, hi⟩))
  · have hcpy := (run_memcpy_message_cases item q.itemSize s).resolve_left fun h => hi h.1
    exact .inr (.inr (.inl (run_xQueueGenericSendFuel_of_memcpy_error hn hq hnull
      (fun h => copyPosition_ne_overwrite e h.1) (fun h => hfull h.2) hcpy)))

/-- A send that stores the message in a member of a set notifies the set, and answers pdTRUE. -/
theorem exists_notified (hn : queue ≠ nullptr) (hq : s.lookup queue = some q)
    (hlink : q.link = some set) (hi : ItemFits item q.itemSize)
    (hroom : q.queue.length < q.queueLength.toNat)
    (h : s.Step (.send queue item (copyPosition e)) r s') (hd : r.Defined) :
    r = .returned (.code pdTRUE) ∧ ∃ v,
      EStateM.run (xQueueGenericSendFuel (s.freeSlots + 1) set (some (handleBytes queue))
        queueSEND_TO_BACK) (pushed s queue q e item) = .ok v s' := by
  obtain ⟨rfl, hne⟩ := FakeQueue.link_eq_some_iff.mp hlink
  have hrun := (run_xQueueGenericSend_eq s queue item (copyPosition e)).trans
    (run_xQueueGenericSendFuel_room hn hq hi e hroom (s.freeSlots + 1))
  rw [if_pos hne, run_map] at hrun
  cases hr : EStateM.run (xQueueGenericSendFuel (s.freeSlots + 1) q.queueSetContainer
      (some (handleBytes queue)) queueSEND_TO_BACK) (pushed s queue q e item) with
  | ok v s₁ =>
    rw [hr] at hrun
    obtain ⟨rfl, rfl⟩ := h.deterministic (Lib.step_of_ok rfl hrun)
    exact ⟨rfl, v, rfl⟩
  | error x s₁ =>
    -- the nested send trips no assertion, so this exit is undefined or the budget's
    rw [hr] at hrun
    obtain ⟨rfl, -⟩ := h.deterministic (Lib.step_of_error rfl hrun)
    have hx : x ≠ .undefined := fun he => hd.1 (he ▸ rfl)
    have hx' : x ≠ .outOfFuel := fun he => hd.2 (he ▸ rfl)
    exact absurd hr (neverLeavesBy_nestedSend hx hx' (s.freeSlots + 1) hne (handleBytes queue) _ _)

/-- A path that meets neither the queue nor, but at its end, the set is still there after messages
are stored in both. -/
theorem Lib.IsNoSet.path_pushed (hnot : s.IsNoSet queue) {b : Buffer} {x y : Handle}
    (hy : y ≠ queue) (hpath : ReflTransGen (Avoiding s.Relays set) y x) :
    ReflTransGen (pushed (pushed s queue q e item) set S .back b).Relays y x := by
  induction hpath using ReflTransGen.head_induction_on with
  | refl => exact .refl
  | @head y z hyz _ ih =>
    have hz : z ≠ queue := by
      rintro rfl
      exact hnot.not_relays y hyz.1
    exact .head (Lib.relays_pushed_of_ne (Lib.relays_pushed_of_ne hyz.1 hy) hyz.2) (ih hz)

/-- What a completed notification makes of the set: it is lost when the set is full, and it is
followed by others when it comes round. -/
theorem notified_set_iff {fuel : ℕ} {v : BaseType} (hq : s.lookup queue = some q)
    (hS : s.lookup set = some S) (hsize : S.itemSize.toNat = sizeofHandle)
    (hnot : s.IsNoSet queue) (hne : set ≠ queue)
    (h : EStateM.run (xQueueGenericSendFuel fuel set (some (handleBytes queue)) queueSEND_TO_BACK)
      (pushed s queue q e item) = .ok v s') :
    s'.lookup set = some { S with queue := S.queue ++ [handleBytes queue] } ↔
      S.queue.length < S.queueLength.toNat ∧ ¬ s.ComesRound set S := by
  have hS₁ : (pushed s queue q e item).lookup set = some S :=
    (Lib.lookup_write_of_ne s _ hne).trans hS
  cases fuel with
  | zero => cases h
  | succ fuel =>
    obtain ⟨S', hS', hrest⟩ := notify_cases h
    obtain rfl := Option.some.inj (hS₁.symm.trans hS')
    rcases hrest with ⟨hfull, rfl⟩ | ⟨hroom, hrest⟩
    · -- the set is full
      refine iff_of_false (fun hlost => ?_) fun hr => absurd hr.1 (by omega)
      have := congrArg FakeQueue.queue (Option.some.inj (hS₁.symm.trans hlost))
      simp at this
    have hpushed : (pushed (pushed s queue q e item) set S .back (some (handleBytes queue))).lookup
        set = some { S with queue := S.queue ++ [handleBytes queue] } := by
      rw [pushed, Lib.lookup_write_self, message_handleBytes hsize]
      rfl
    rcases hrest with ⟨hlink, rfl⟩ | ⟨c, v', hlink, hrun⟩
    · -- the set is in no set itself
      refine iff_of_true hpushed ⟨hroom, fun hround => ?_⟩
      obtain ⟨b, ⟨S', hS', -, hlink'⟩, -⟩ := TransGen.head'_iff.mp hround.1
      obtain rfl := Option.some.inj (hS.symm.trans hS')
      rw [hlink] at hlink'
      cases hlink'
    · -- the set notifies the set that it is in
      obtain ⟨l, hl, hiff⟩ := exists_grown hrun hpushed
      have hexact : s'.lookup set = some { S with queue := S.queue ++ [handleBytes queue] } ↔
          l = [] := by
        rw [hl, Option.some.injEq, FakeQueue.mk.injEq]
        simp
      rw [hexact, ← not_ne_iff, hiff, and_iff_right hroom, Lib.ComesRound]
      refine not_congr (and_congr ⟨fun hpath => ?_, fun hcycle => ?_⟩ ?_)
      · refine .head' ⟨S, hS, hroom, hlink⟩ (hpath.lift id fun _ _ hyz => ?_)
        exact Lib.relays_of_relays_pushed hq (Lib.relays_of_relays_pushed hS₁ hyz)
      · -- the cycle leaves the set at its first step only, and never meets the queue
        obtain ⟨c', ⟨S', hS', -, hlink'⟩, hpath⟩ := exists_avoiding_of_cycle hcycle
        obtain rfl := Option.some.inj (hS.symm.trans hS')
        obtain rfl := Option.some.inj (hlink.symm.trans hlink')
        refine hnot.path_pushed ?_ hpath
        rintro rfl
        exact hnot.not_relays set ⟨S, hS, hroom, hlink⟩
      · simp only [List.length_append, List.length_singleton]
        omega

/-- The queue itself is left as the send made it. -/
theorem notified_queue {fuel : ℕ} {v : BaseType} (hq : s.lookup queue = some q)
    (hnot : s.IsNoSet queue) (hne : set ≠ queue) {b : Bytes}
    (h : EStateM.run (xQueueGenericSendFuel fuel set (some b) queueSEND_TO_BACK)
      (pushed s queue q e item) = .ok v s') :
    s'.lookup queue =
      some { q with queue := BoundedDeque.pushItems q.queue e (message item q.itemSize) } := by
  obtain ⟨l, hl, hiff⟩ := exists_grown h (Lib.lookup_write_self ..)
  have hnil : l = [] := by
    by_contra hgrown
    obtain ⟨hpath, -⟩ := hiff.mp hgrown
    exact hnot.not_reaches hne (hpath.lift id fun _ _ => Lib.relays_of_relays_pushed hq)
  rw [hl, hnil, List.append_nil]

/-- A send to the back or the front of a member of a set. -/
theorem recorded_send_iff (hn : queue ≠ nullptr) (hq : s.lookup queue = some q)
    (hlink : q.link = some set) (hS : s.lookup set = some S)
    (hsize : S.itemSize.toNat = sizeofHandle) (hnot : s.IsNoSet queue)
    (h : s.Step (.send queue item (copyPosition e)) r s') (hd : r.Defined) :
    Recorded q S queue set item e r s' ↔
      ((item = none ∧ q.itemSize ≠ 0) ∨ q.queueLength.toNat ≤ q.queue.length) ∨
        (S.queue.length < S.queueLength.toNat ∧ ¬ s.ComesRound set S) := by
  have hne : set ≠ queue := by
    rintro rfl
    exact hnot set ((Lib.setOf_of_lookup hq).trans hlink)
  rcases run_send_cases hn hq item e (s.freeSlots + 1) with
    ⟨hnull, hrun⟩ | ⟨hfull, hrun⟩ | hrun | ⟨hnull, hroom, hi⟩
  · rw [← run_xQueueGenericSend_eq] at hrun
    obtain ⟨rfl, rfl⟩ := h.deterministic (Lib.step_of_error rfl hrun)
    exact iff_of_true (.of_failed (.inr rfl) hq hS) (.inl (.inl hnull))
  · rw [← run_xQueueGenericSend_eq] at hrun
    obtain ⟨rfl, rfl⟩ := h.deterministic (Lib.step_of_ok rfl hrun)
    exact iff_of_true (.of_failed (.inl rfl) hq hS) (.inl (.inr hfull))
  · rw [← run_xQueueGenericSend_eq] at hrun
    obtain ⟨rfl, -⟩ := h.deterministic (Lib.step_of_error rfl hrun)
    exact absurd rfl hd.1
  · obtain ⟨rfl, v, hrun⟩ := exists_notified hn hq hlink hi hroom h hd
    have hqueue := notified_queue hq hnot hne hrun
    rw [or_iff_right (not_or.mpr ⟨hnull, by omega⟩),
      ← notified_set_iff hq hS hsize hnot hne hrun]
    exact ⟨fun hrec => (hrec.success rfl).2, fun hset => ⟨fun _ => ⟨hqueue, hset⟩,
      fun hr => absurd rfl hr⟩⟩

end Send

/-- **When a send to a member of a set is recorded.** In every reachable memory, for every send and
give on a member of a set that is no set itself: exactly when it is refused before it stores
anything, or the set has a free slot and the notification does not come round to it. -/
theorem send_recorded_iff {s s' : Lib} (hs : s.Reachable) {queue set : Handle} {q S : FakeQueue}
    (hq : s.lookup queue = some q) (hlink : q.link = some set) (hS : s.lookup set = some S)
    (hsize : S.itemSize.toNat = sizeofHandle) (hnot : s.IsNoSet queue) {c : Call} {item : Buffer}
    {e : Side} (hc : c.Sends queue item e) {r : Reply} (h : s.Step c r s') (hd : r.Defined) :
    Recorded q S queue set item e r s' ↔
      q.Refuses c item ∨ (S.queue.length < S.queueLength.toNat ∧ ¬ s.ComesRound set S) := by
  have hn := hs.sound.wellFormed.ne_nullptr hq
  cases hc with
  | send =>
    rw [recorded_send_iff hn hq hlink hS hsize hnot h hd, FakeQueue.Refuses]
    simp
  | giveFromISR =>
    by_cases ht : q.queueType = queueQUEUE_TYPE_RECURSIVE_MUTEX
    · have hrun : EStateM.run (xQueueGiveFromISR queue) s = .error .assertFailed s := by
        simp [xQueueGiveFromISR, hn, hq, ht]
      obtain ⟨rfl, rfl⟩ := h.deterministic (Lib.step_of_error rfl hrun)
      exact iff_of_true (.of_failed (.inr rfl) hq hS) (.inl (.inr (.inl ⟨ht, queue, rfl⟩)))
    · have hsend : s.Step (.send queue none (copyPosition .back)) r s' := by
        have h' := h
        rw [Lib.Step, Call.exec, run_map, run_xQueueGiveFromISR_eq hn hq ht] at h'
        exact h'
      rw [recorded_send_iff hn hq hlink hS hsize hnot hsend hd, FakeQueue.Refuses]
      simp [ht]

/-- The queue at 1 and the semaphore at 2, both in a set of length 1 at 3. -/
def membersOfShortSet : Lib :=
  ((queueAndSemaphore.write 3 (freshQueue 1 (UInt8.ofNat sizeofHandle) queueQUEUE_TYPE_SET)).write 1
    { freshQueue 2 1 0 with queueSetContainer := 3 }).write 2
    { freshQueue 1 0 0 with queueSetContainer := 3 }

theorem membersOfShortSet_reachable : membersOfShortSet.Reachable := by
  let S : FakeQueue := freshQueue 1 (UInt8.ofNat sizeofHandle) queueQUEUE_TYPE_SET
  let s₁ : Lib := queueAndSemaphore.write 3 S
  let s₂ : Lib := s₁.write 1 { freshQueue 2 1 0 with queueSetContainer := 3 }
  have h₁ : queueAndSemaphore.Step (.createSet 3 1) (.returned (.handle 3)) s₁ := by
    decide +kernel
  have h₂ : s₁.Step (.addToSet 1 3) (.returned (.code pdPASS)) s₂ := by decide +kernel
  have h₃ : s₂.Step (.addToSet 2 3) (.returned (.code pdPASS)) membersOfShortSet := by
    decide +kernel
  exact ((queueAndSemaphore_legal.reachable.step h₁ trivial (by decide)).step h₂ trivial
    (by decide)).step h₃ trivial (by decide)

/-- The send to the queue fills the set. -/
def shortSetFilled : Lib :=
  (membersOfShortSet.write 1
    { freshQueue 2 1 0 with queueSetContainer := 3, queue := [[7]] }).write 3
    { freshQueue 1 (UInt8.ofNat sizeofHandle) queueQUEUE_TYPE_SET with queue := [handleBytes 1] }

theorem send_fills_shortSet : membersOfShortSet.Step (.send 1 (some [7]) queueSEND_TO_BACK)
    (.returned (.code pdTRUE)) shortSetFilled := by decide +kernel

/-- A send to a member of a set with room is recorded. -/
theorem send_recorded_room : Recorded { freshQueue 2 1 0 with queueSetContainer := 3 }
    (freshQueue 1 (UInt8.ofNat sizeofHandle) queueQUEUE_TYPE_SET) 1 3 (some [7]) .back
    (.returned (.code pdTRUE)) shortSetFilled := by
  refine (send_recorded_iff membersOfShortSet_reachable (by decide +kernel) (by decide +kernel)
    (by decide +kernel) (by decide +kernel) (Lib.isNoSet_of_allLive (by decide +kernel))
    (.send 1 (some [7]) .back) send_fills_shortSet (by decide)).mpr
    (.inr ⟨by decide +kernel, fun hround => ?_⟩)
  -- one slot is not enough for a notification to come round
  exact absurd hround.2 (by decide +kernel)

/-- The send to the queue fills the set, and the give to the semaphore is lost: it answers pdTRUE,
and the set does not change. -/
theorem give_not_recorded : ∃ (s s' : Lib) (q S : FakeQueue), s.Reachable ∧
    s.lookup 2 = some q ∧ q.link = some 3 ∧ s.lookup 3 = some S ∧
    S.itemSize.toNat = sizeofHandle ∧ s.IsNoSet 2 ∧
    s.Step (.giveFromISR 2) (.returned (.code pdTRUE)) s' ∧ s'.lookup 3 = some S ∧
    ¬ Recorded q S 2 3 none .back (.returned (.code pdTRUE)) s' := by
  let S : FakeQueue := { freshQueue 1 (UInt8.ofNat sizeofHandle) queueQUEUE_TYPE_SET with
    queue := [handleBytes 1] }
  let s' : Lib := shortSetFilled.write 2
    { freshQueue 1 0 0 with queueSetContainer := 3, queue := [[]] }
  have hgive : shortSetFilled.Step (.giveFromISR 2) (.returned (.code pdTRUE)) s' := by
    decide +kernel
  have hS' : s'.lookup 3 = some S := by decide +kernel
  refine ⟨shortSetFilled, s', { freshQueue 1 0 0 with queueSetContainer := 3 }, S,
    membersOfShortSet_reachable.step send_fills_shortSet trivial (by decide), by decide +kernel,
    by decide +kernel, by decide +kernel, by decide +kernel,
    Lib.isNoSet_of_allLive (by decide +kernel), hgive, hS', fun hrec => ?_⟩
  obtain ⟨-, hgained⟩ := hrec.success rfl
  have hlen := congrArg (fun q : FakeQueue => q.queue.length)
    (Option.some.inj (hS'.symm.trans hgained))
  simp at hlen

end FakeFreeRtos
