import FakeFreeRtos.Queue.Overwrite
import FakeFreeRtos.Sets.Balance

/-!
# Overwriting a member of a set

`xQueueOverwrite` on a queue that holds a message replaces it, so the queue holds no more messages
than before; the code notifies the set of the queue all the same. The notification is a phantom: it
has no message, or the set is full and it is dropped. `overwrites_faithful_iff` says that in a set
of queues of length 1 that is long enough for its members, the books stay faithful
(`Watch.Faithful`) throughout a run exactly when no step overwrites a message of a member.
-/

namespace FakeFreeRtos

open Foundations Net

/-- The members of `S` are queues of length 1, at most as many as `S` is long, and none of them is
used as a set. -/
structure Lib.SingleSlots (s : Lib) (S : Handle) : Prop where
  single : ∀ q, s.setOf q = some S → s.lengthAt q = 1
  atMost : (s.heap.keys.filter fun h => s.setOf h = some S).card ≤ s.lengthAt S
  leaf : ∀ q, s.setOf q = some S → ∀ x, s.setOf x ≠ some q

theorem Lib.SingleSlots.plain {s : Lib} {S : Handle} (h : s.SingleSlots S) : s.Plain S := by
  refine ⟨le_of_eq_of_le ?_ h.atMost, h.leaf⟩
  rw [Lib.memberLengths, Finset.card_eq_sum_ones]
  exact Finset.sum_congr rfl fun x hx => h.single x (Finset.mem_filter.mp hx).2

theorem Lib.singleSlots_of_only_set {s : Lib} {S : Handle}
    (honly : s.AllLive fun x => s.setOf x = none ∨ s.setOf x = some S) (hS : s.setOf S = none)
    (hsingle : s.AllLive fun x => s.setOf x = some S → s.lengthAt x = 1)
    (hcard : (s.heap.keys.filter fun h => s.setOf h = some S).card ≤ s.lengthAt S) :
    s.SingleSlots S :=
  ⟨fun _ hq => hsingle.of_setOf hq hq, hcard, leaf_of_only_set honly hS⟩

/-- Only the calls that change memberships can break it. -/
theorem Lib.Retains.singleSlots {s s' : Lib} (h : s.Retains FakeQueue.membership s') {S : Handle}
    (hp : s.SingleSlots S) : s'.SingleSlots S := by
  refine ⟨fun q hq => ?_, ?_, fun q hq x => ?_⟩
  · rw [h.lengthAt_eq]
    exact hp.single q (h.setOf_eq q ▸ hq)
  · simp only [h.keys_eq, h.setOf_eq, h.lengthAt_eq]
    exact hp.atMost
  · rw [h.setOf_eq]
    exact hp.leaf q (h.setOf_eq q ▸ hq) x

namespace Watch

variable {S : Handle} {w w' : Watch}

/-- The call overwrites a message of a member of `S`. -/
def Overwrites (S : Handle) (w : Watch) (c : Call) : Prop :=
  ∃ queue item q, c = .send queue item queueOVERWRITE ∧ w.lib.lookup queue = some q ∧
    q.link = some S ∧ q.queue ≠ [] ∧ ItemFits item q.itemSize

/-- One call of a program that uses the set `S`, or overwrites messages of its members. -/
def OverwriteStep (S : Handle) (w : Watch) (c : Call) (r : Reply) (w' : Watch) : Prop :=
  (w.SetCall S c ∨ w.Overwrites S c) ∧
    ∃ s', w.lib.Step c r s' ∧ s'.SingleSlots S ∧ w' = w.observe S c r s'

/-- A program that overwrites is observed as one that sends. -/
theorem observe_overwrite {queue : Handle} {item : Buffer} {s' : Lib}
    (hm : w.lib.setOf queue = some S) :
    w.observe S (.send queue item queueOVERWRITE) (.returned (.code pdTRUE)) s' =
      { w with lib := s', sent := w.sent ++ [queue] } :=
  if_pos ⟨rfl, hm⟩

/-- **What an overwrite does**: the member holds one message as before, and the set gains its
handle, or nothing when it is full. -/
theorem Inv.overwrite (hI : w.Inv S) (hp : w.lib.SingleSlots S) {c : Call}
    (hov : w.Overwrites S c) :
    ∃ queue s', w.lib.setOf queue = some S ∧ w.lib.Step c (.returned (.code pdTRUE)) s' ∧
      w.observe S c (.returned (.code pdTRUE)) s' =
        { w with lib := s', sent := w.sent ++ [queue] } ∧
      s'.setOf queue = some S ∧ (w.lib.messagesAt queue).length = 1 ∧
      (s'.messagesAt queue).length = 1 ∧
      (s'.messagesAt S = w.lib.messagesAt S ∨
        s'.messagesAt S = w.lib.messagesAt S ++ [handleBytes queue]) := by
  obtain ⟨queue, item, q, rfl, hq, hlink, hne, hi⟩ := hov
  have hw := hI.wellFormed
  have hm : w.lib.setOf queue = some S := (Lib.setOf_of_lookup hq).trans hlink
  have hlen : q.queueLength.toNat = 1 := by
    have := hp.single queue hm
    rwa [Lib.lengthAt, hq, Option.elim_some] at this
  -- the queue holds one message, and the overwrite replaces it
  obtain ⟨m, hmsg⟩ : ∃ m, q.queue = [m] := by
    refine List.length_eq_one_iff.mp (Nat.le_antisymm ?_ (List.length_pos_of_ne_nil hne))
    exact hlen ▸ (hw.queue queue q hq).length_le
  obtain ⟨b, s', hrun, hpost, hshape', hw'⟩ :=
    exists_overwrite_post hw hI.setsLive hq (UInt8.toNat_inj.mp hlen) hmsg hi hlink
  have hshape : w.lib.SameShape (replaced w.lib queue q item) := .write hq _
  have hw₁ := replaced_wellFormed hw hq (UInt8.toNat_inj.mp hlen) hi
  -- nobody announces to a member of the set, so only the set is changed by the notification
  have hleaf : (replaced w.lib queue q item).net.LeafMembers S := by
    intro x hx y hy
    rw [Lib.member_net_iff_setOf hw₁, hshape.setOf_eq] at hx hy
    exact hp.leaf x hx y hy
  have hmem : (replaced w.lib queue q item).net.Member S queue :=
    (Lib.member_net_iff_setOf hw₁).mpr ((hshape.setOf_eq queue).trans hm)
  have hne' : S ≠ queue := fun he => hleaf queue hmem queue (he ▸ hmem)
  obtain ⟨Sq, hSq, -⟩ := hI.isSet
  have hSq₁ : (replaced w.lib queue q item).lookup S = some Sq :=
    (Lib.lookup_write_of_ne _ _ hne').trans hSq
  refine ⟨queue, s', hm, Lib.step_of_ok rfl hrun, observe_overwrite hm,
    ((hshape.trans hshape').setOf_eq queue).trans hm, ?_, ?_, ?_⟩
  · rw [Lib.messagesAt_of_lookup hq, hmsg, List.length_singleton]
  · rw [← Lib.itemsAt_net hw', itemsAt, hpost.eq_of_no_member hne'.symm (hleaf queue hmem),
      ← itemsAt, Lib.itemsAt_net hw₁, replaced, Lib.messagesAt_of_lookup (Lib.lookup_write_self ..),
      List.length_singleton]
  · rw [Lib.messagesAt_of_lookup hSq, ← Lib.itemsAt_net hw']
    cases b with
    | false =>
      left
      rw [hpost.eq_of_refused, Lib.itemsAt_net hw₁, Lib.messagesAt_of_lookup hSq₁]
    | true =>
      right
      obtain ⟨d, hd, hSq'⟩ := hpost.posted hleaf (Lib.net_of_wellFormed hw₁ hSq₁)
      rw [itemsAt_of_node hSq', (BoundedDeque.push?_eq_some_iff.mp hd).2.2]
      rfl

/-! ## Faithful books -/

/-- What the claims of a set are worth: every copy of a handle that is pending in `S`, and every
select that waits for its receive, has a message of its own; the notifications are those selected
followed by those pending; the receive that answers a select finds its message. -/
structure Faithful (S : Handle) (w : Watch) : Prop where
  covered : ∀ q, w.lib.setOf q = some S →
    pendingIn w.lib S q + w.unanswered q ≤ (w.lib.messagesAt q).length
  kept : ∃ pending, w.lib.messagesAt S = pending.map handleBytes ∧
    w.sent = w.selected ++ pending
  answered : ∀ c queue r s', w.SetCall S c → receivesFrom? c = some queue →
    w.lib.setOf queue = some S → w.lib.Step c r s' → succeeded r

theorem Inv.faithful (hI : w.Inv S) : w.Faithful S where
  covered q hq := (hI.balance q).trans_le (if_pos hq).le
  kept := by
    obtain ⟨pending, hitems, hsent, -⟩ := hI.exists_pending
    exact ⟨pending, hitems, hsent⟩
  answered _ _ _ _ hc hfrom hm hstep := hI.answered hc hfrom hm hstep

/-- A phantom notification is not covered by a message, or not kept. -/
theorem Inv.not_faithful (hI : w.Inv S) (hp : w.lib.SingleSlots S) {c : Call} {r : Reply}
    (h : w.OverwriteStep S c r w') (hov : w.Overwrites S c) : ¬ w'.Faithful S := by
  obtain ⟨-, s', hstep, -, rfl⟩ := h
  obtain ⟨queue, s'', hm, hstep', hseen, hm', hone, hone', hset⟩ := hI.overwrite hp hov
  obtain ⟨rfl, rfl⟩ := hstep.deterministic hstep'
  rw [hseen]
  intro hf
  rcases hset with hdropped | hgained
  · -- the set was full
    obtain ⟨pending, hitems, hsent, -⟩ := hI.exists_pending
    obtain ⟨pending', hitems', hsent'⟩ := hf.kept
    obtain rfl : pending = pending' := List.map_injective_iff.mpr handleBytes_injective
      (hitems.symm.trans (hdropped.symm.trans hitems'))
    have := congrArg List.length (hsent'.trans hsent.symm)
    simp at this
  · have hbal := hI.balance queue
    rw [if_pos hm, hone] at hbal
    have hcov := hf.covered queue hm'
    simp only [pendingIn, hgained, List.count_append, List.count_singleton_self, hone'] at hcov
    rw [pendingIn] at hbal
    omega

theorem OverwriteStep.deterministic {c : Call} {r : Reply} {w₁ w₂ : Watch}
    (h₁ : w.OverwriteStep S c r w₁) (h₂ : w.OverwriteStep S c r w₂) : w₁ = w₂ := by
  obtain ⟨-, s₁, hs₁, -, rfl⟩ := h₁
  obtain ⟨-, s₂, hs₂, -, rfl⟩ := h₂
  rw [(hs₁.deterministic hs₂).2]

/-- A step that does not overwrite a message of a member keeps the books. -/
theorem OverwriteStep.inv {c : Call} {r : Reply} (h : w.OverwriteStep S c r w')
    (hov : ¬ w.Overwrites S c) (hI : w.Inv S) (hp : w.lib.SingleSlots S) :
    w'.Inv S ∧ w'.lib.SingleSlots S := by
  obtain ⟨hc, s', hstep, hp', rfl⟩ := h
  obtain ⟨r', s'', hstep', -, hI'⟩ := hI.step hp.plain (hc.resolve_right hov)
  obtain ⟨rfl, rfl⟩ := hstep.deterministic hstep'
  exact ⟨hI', by rwa [observe_lib]⟩

theorem start_singleSlots {s s' : Lib} (hs : s.Legal) {l : UBaseType} {v : Value}
    (h : s.Step (.createSet S l) (.returned v) s') : (start s').lib.SingleSlots S := by
  obtain ⟨hf, -, rfl⟩ := step_createSet h
  have hnone := setOf_ne_of_created hs.setsLive hf l (UInt8.ofNat sizeofHandle) queueQUEUE_TYPE_SET
  refine ⟨fun q hq => absurd hq (hnone q), ?_, fun q hq => absurd hq (hnone q)⟩
  exact (Finset.card_eq_zero.mpr (Finset.filter_eq_empty_iff.mpr fun x _ => hnone x)).trans_le
    (Nat.zero_le _)

end Watch

/-- **Overwriting is what makes phantom events.** In every legal memory, from the creation of a set
`S` on, for every program that uses `S` with members of length 1, at most as many as `S` is long,
and overwrites messages of members: the books are faithful at every moment if and only if no step
overwrites a message of a member. -/
theorem overwrites_faithful_iff {s s' : Lib} (hs : s.Legal) {S : Handle} {l : UBaseType}
    (hcreate : s.Step (.createSet S l) (.returned (.handle S)) s') {tr : List (Call × Reply)}
    {w : Watch} (hrun : Run (Watch.OverwriteStep S) (Watch.start s') tr w) :
    EveryState (Watch.OverwriteStep S) (Watch.Faithful S) (Watch.start s') tr ↔
      EveryStep (Watch.OverwriteStep S) (fun w c => ¬ w.Overwrites S c) (Watch.start s') tr := by
  refine everyState_iff_everyStep (I := fun w => w.Inv S ∧ w.lib.SingleSlots S)
    (fun _ _ _ _ _ => Watch.OverwriteStep.deterministic) (fun _ h => h.1.faithful)
    (fun _ _ _ _ h hstep hov => hstep.inv hov h.1 h.2)
    (fun _ _ _ _ h hstep hov => h.1.not_faithful h.2 hstep (not_not.mp hov)) hrun ?_
  exact ⟨(Watch.start_inv hs hcreate).1, Watch.start_singleSlots hs hcreate⟩

/-- Two queues of length 1 at 1 and 2. -/
def twoSingleQueues : Lib := (Lib.init.write 1 (freshQueue 1 1 0)).write 2 (freshQueue 1 1 0)

theorem twoSingleQueues_legal : twoSingleQueues.Legal :=
  (Lib.legal_init.create (by simp [Lib.Fresh, nullptr]) 1 1 (by decide)).create
    ⟨by decide, by decide⟩ 1 1 (by decide)

/-- Next to the queues, a set of length 2 at 3. -/
def twoSingleQueuesAndSet : Lib :=
  twoSingleQueues.write 3 (freshQueue 2 (UInt8.ofNat sizeofHandle) queueQUEUE_TYPE_SET)

theorem twoSingleQueuesAndSet_created :
    twoSingleQueues.Step (.createSet 3 2) (.returned (.handle 3)) twoSingleQueuesAndSet := by
  decide +kernel

/-- Both queues are in the set, and the first is full. -/
def firstQueueFull : Lib :=
  let q : FakeQueue := { freshQueue 1 1 0 with queueSetContainer := 3 }
  let S : FakeQueue := freshQueue 2 (UInt8.ofNat sizeofHandle) queueQUEUE_TYPE_SET
  (((twoSingleQueuesAndSet.write 1 q).write 2 q).write 1 { q with queue := [[7]] }).write 3
    { S with queue := [handleBytes 1] }

/-- The calls that lead there, with their answers. -/
def fillFirstQueue : List (Call × Reply) :=
  [(.addToSet 1 3, .returned (.code pdPASS)), (.addToSet 2 3, .returned (.code pdPASS)),
    (.send 1 (some [7]) queueSEND_TO_BACK, .returned (.code pdTRUE))]

theorem firstQueueFull_singleSlots : firstQueueFull.SingleSlots 3 :=
  Lib.singleSlots_of_only_set (by decide +kernel) (by decide +kernel) (by decide +kernel)
    (by decide +kernel)

theorem fillFirstQueue_run : Run (Watch.OverwriteStep 3) (Watch.start twoSingleQueuesAndSet)
    fillFirstQueue ⟨firstQueueFull, [1], [], fun _ => 0⟩ := by
  let q : FakeQueue := { freshQueue 1 1 0 with queueSetContainer := 3 }
  let s₁ : Lib := twoSingleQueuesAndSet.write 1 q
  let s₂ : Lib := s₁.write 2 q
  have h₁ : twoSingleQueuesAndSet.Step (.addToSet 1 3) (.returned (.code pdPASS)) s₁ := by
    decide +kernel
  have h₂ : s₁.Step (.addToSet 2 3) (.returned (.code pdPASS)) s₂ := by decide +kernel
  have h₃ : s₂.Step (.send 1 (some [7]) queueSEND_TO_BACK) (.returned (.code pdTRUE))
      firstQueueFull := by decide +kernel
  have hp₁ : s₁.SingleSlots 3 :=
    Lib.singleSlots_of_only_set (by decide +kernel) (by decide +kernel) (by decide +kernel)
      (by decide +kernel)
  have hp₂ : s₂.SingleSlots 3 :=
    Lib.singleSlots_of_only_set (by decide +kernel) (by decide +kernel) (by decide +kernel)
      (by decide +kernel)
  have hc₁ : Watch.SetCall 3 (Watch.start twoSingleQueuesAndSet) (.addToSet 1 3) :=
    ⟨.inr rfl, .inr ⟨_, rfl, rfl⟩⟩
  have hc₂ : Watch.SetCall 3 (Watch.start s₁) (.addToSet 2 3) := ⟨.inr rfl, .inr ⟨_, rfl, rfl⟩⟩
  have hc₃ : Watch.SetCall 3 (Watch.start s₂) (.send 1 (some [7]) queueSEND_TO_BACK) :=
    ⟨by decide, ⟨.back, rfl⟩, q, rfl, by decide +kernel⟩
  have hmem : s₂.setOf 1 = some 3 := by decide +kernel
  have hseen : (⟨firstQueueFull, [1], [], fun _ => 0⟩ : Watch) =
      (Watch.start s₂).sendSeen 3 1 pdTRUE firstQueueFull := (if_pos ⟨rfl, hmem⟩).symm
  exact .cons ⟨.inl hc₁, s₁, h₁, hp₁, rfl⟩ (.cons ⟨.inl hc₂, s₂, h₂, hp₂, rfl⟩
    (.cons ⟨.inl hc₃, firstQueueFull, h₃, firstQueueFull_singleSlots, hseen⟩ (.nil _)))

/-- Two queues are added to a set, and the first is sent to. -/
theorem overwrites_faithful_fillFirstQueue : EveryState (Watch.OverwriteStep 3) (Watch.Faithful 3)
    (Watch.start twoSingleQueuesAndSet) fillFirstQueue := by
  refine (overwrites_faithful_iff twoSingleQueues_legal twoSingleQueuesAndSet_created
    fillFirstQueue_run).mpr ?_
  rintro tr₁ c r tr₂ w he - ⟨queue, item, q, rfl, -⟩
  have hmem : (Call.send queue item queueOVERWRITE, r) ∈ fillFirstQueue := by
    rw [he]
    exact List.mem_append_right _ List.mem_cons_self
  have hback : queueOVERWRITE ≠ queueSEND_TO_BACK := by decide
  simp [fillFirstQueue, hback] at hmem

/-- An overwrite of the first queue notifies the set again. The set has two copies of its handle
for one message, and is full: the event of the second queue is lost. -/
theorem overwrite_not_faithful : ∃ tr w,
    Run (Watch.OverwriteStep 3) (Watch.start twoSingleQueuesAndSet) tr w ∧
    tr.map Prod.fst = [.addToSet 1 3, .addToSet 2 3, .send 1 (some [7]) queueSEND_TO_BACK,
      .send 1 (some [8]) queueOVERWRITE, .send 2 (some [9]) queueSEND_TO_BACK] ∧
    (w.lib.messagesAt 1 = [[8]] ∧ Watch.pendingIn w.lib 3 1 = 2) ∧
    (w.lib.messagesAt 2 = [[9]] ∧ Watch.pendingIn w.lib 3 2 = 0 ∧ w.unanswered 2 = 0) ∧
    ¬ EveryState (Watch.OverwriteStep 3) (Watch.Faithful 3) (Watch.start twoSingleQueuesAndSet)
      tr := by
  let q : FakeQueue := { freshQueue 1 1 0 with queueSetContainer := 3 }
  let S : FakeQueue := freshQueue 2 (UInt8.ofNat sizeofHandle) queueQUEUE_TYPE_SET
  let s₁ : Lib := (firstQueueFull.write 1 { q with queue := [[8]] }).write 3
    { S with queue := [handleBytes 1, handleBytes 1] }
  let s₂ : Lib := s₁.write 2 { q with queue := [[9]] }
  have h₁ : firstQueueFull.Step (.send 1 (some [8]) queueOVERWRITE) (.returned (.code pdTRUE))
      s₁ := by decide +kernel
  have h₂ : s₁.Step (.send 2 (some [9]) queueSEND_TO_BACK) (.returned (.code pdTRUE)) s₂ := by
    decide +kernel
  have hp₁ := (h₁.retains trivial).singleSlots firstQueueFull_singleSlots
  have hp₂ := (h₂.retains trivial).singleSlots hp₁
  let w₀ : Watch := ⟨firstQueueFull, [1], [], fun _ => 0⟩
  let w₁ : Watch := ⟨s₁, [1, 1], [], fun _ => 0⟩
  let w₂ : Watch := ⟨s₂, [1, 1, 2], [], fun _ => 0⟩
  have hc₁ : w₀.Overwrites 3 (.send 1 (some [8]) queueOVERWRITE) :=
    ⟨1, _, { q with queue := [[7]] }, rfl, by decide +kernel, by decide +kernel,
      List.cons_ne_nil _ _, by decide +kernel⟩
  have hc₂ : w₁.SetCall 3 (.send 2 (some [9]) queueSEND_TO_BACK) :=
    ⟨by decide, ⟨.back, rfl⟩, q, by decide +kernel, by decide +kernel⟩
  have hmem₁ : firstQueueFull.setOf 1 = some 3 := by decide +kernel
  have hmem₂ : s₁.setOf 2 = some 3 := by decide +kernel
  have hw₁ : w₁ = w₀.sendSeen 3 1 pdTRUE s₁ := (if_pos ⟨rfl, hmem₁⟩).symm
  have hw₂ : w₂ = w₁.sendSeen 3 2 pdTRUE s₂ := (if_pos ⟨rfl, hmem₂⟩).symm
  have hrun := (fillFirstQueue_run.snoc (c := .send 1 (some [8]) queueOVERWRITE)
    (r := .returned (.code pdTRUE)) ⟨.inr hc₁, s₁, h₁, hp₁, hw₁⟩).snoc
    (c := .send 2 (some [9]) queueSEND_TO_BACK) (r := .returned (.code pdTRUE))
    ⟨.inl hc₂, s₂, h₂, hp₂, hw₂⟩
  have hpending : Watch.pendingIn s₂ 3 1 = 2 := by decide +kernel
  have hwaiting : s₂.messagesAt 1 = [[8]] := by decide +kernel
  refine ⟨_, w₂, hrun, rfl, ⟨hwaiting, hpending⟩,
    ⟨by decide +kernel, by decide +kernel, rfl⟩, fun hall => ?_⟩
  have hfaithful : w₂.Faithful 3 := hall _ [] w₂ (List.append_nil _).symm hrun
  have hcov : Watch.pendingIn s₂ 3 1 + 0 ≤ (s₂.messagesAt 1).length :=
    hfaithful.covered 1 (by decide +kernel)
  rw [hpending, hwaiting] at hcov
  exact absurd hcov (by decide)

end FakeFreeRtos
