import FakeFreeRtos.Sets.Watch

/-!
# A queue set loses no event

A program that uses a set as intended keeps its books balanced for ever: for every member, the
handles pending in the set and the selects that wait for their receive are together the messages
waiting in the member (`Watch.Exact.balance`). So the notification of a send is never refused, the
receive that answers a select always finds its message, and the selects return the members in the
order of the sends. `set_books_balance` states this for every run from the creation of the set.
-/

namespace FakeFreeRtos

open Foundations Net

namespace Watch

variable {S : Handle} {w w' : Watch}

@[simp] theorem sendSeen_lib (queue : Handle) (k : BaseType) (s' : Lib) :
    (w.sendSeen S queue k s').lib = s' := by
  unfold sendSeen; split <;> rfl

@[simp] theorem selectSeen_lib (set h : Handle) (s' : Lib) :
    (w.selectSeen S set h s').lib = s' := by
  unfold selectSeen; split <;> rfl

@[simp] theorem receiveSeen_lib (queue : Handle) (k : BaseType) (s' : Lib) :
    (w.receiveSeen S queue k s').lib = s' := by
  unfold receiveSeen; split <;> rfl

@[simp] theorem observe_lib (c : Call) (r : Reply) (s' : Lib) : (w.observe S c r s').lib = s' := by
  unfold observe; split <;> simp

/-! ## Every call keeps the books -/

theorem defined_returned (v : Value) : (Reply.returned v).Defined := by
  simp [Reply.Defined]

theorem defined_assertFailed : (Reply.left .assertFailed).Defined := by decide

/-- A select from another set, which is no member. -/
theorem Inv.selectOther (hI : w.Inv S) {set : Handle} (hset : w.lib.IsSet set) (hne : set ≠ S)
    (hm : w.lib.setOf set ≠ some S) :
    ∃ h s', EStateM.run (xQueueSelectFromSet set) w.lib = .ok h s' ∧
      (w.selectSeen S set h s').Inv S := by
  obtain ⟨T, hT, hsize⟩ := hset
  have hn := hI.wellFormed.ne_nullptr hT
  have hseen : ∀ h s', w.selectSeen S set h s' = { w with lib := s' } := fun h s' =>
    if_neg fun hc => hne hc.1
  cases hmsg : T.queue with
  | nil =>
    refine ⟨_, w.lib, run_xQueueSelectFromSet_nil hn hT hmsg, ?_⟩
    rw [hseen]
    exact hI
  | cons m rest =>
    refine ⟨_, _, run_xQueueSelectFromSet_cons hI.wellFormed hT hsize hmsg, ?_⟩
    have hpop := hI.pop hT ⟨hne, fun h => absurd h hm⟩ hmsg
    rw [receiveSeen, if_neg fun hc => hm hc.2] at hpop
    rw [hseen]
    exact hpop

section Exec

variable {α : Type} {f : α → Value} {x : Api α} {c : Call} {s' : Lib}

/-- A call whose function returns is defined. -/
theorem exists_step_of_ok (hc : c.exec = f <$> x) {a : α}
    (hrun : EStateM.run x w.lib = .ok a s') (hI : (w.observe S c (.returned (f a)) s').Inv S) :
    ∃ r s', w.lib.Step c r s' ∧ r.Defined ∧ (w.observe S c r s').Inv S :=
  ⟨_, s', Lib.step_of_ok hc hrun, defined_returned _, hI⟩

/-- A call whose function trips an assertion is defined. -/
theorem exists_step_of_assertFailed (hc : c.exec = f <$> x)
    (hrun : EStateM.run x w.lib = .error .assertFailed s')
    (hI : (w.observe S c (.left .assertFailed) s').Inv S) :
    ∃ r s', w.lib.Step c r s' ∧ r.Defined ∧ (w.observe S c r s').Inv S :=
  ⟨_, s', Lib.step_of_error hc hrun, defined_assertFailed, hI⟩

end Exec

/-- **Every call is defined and keeps the books.** -/
theorem Inv.step (hI : w.Inv S) (hp : w.lib.Plain S) {c : Call} (hc : w.SetCall S c) :
    ∃ r s', w.lib.Step c r s' ∧ r.Defined ∧ (w.observe S c r s').Inv S := by
  have hw := hI.wellFormed
  cases c with
  | create addr l n t =>
    exact exists_step_of_ok rfl (run_xQueueGenericCreate hc l n t)
      (hI.created hc (freshQueue_wellFormed l n t) rfl)
  | createSet addr l =>
    exact exists_step_of_ok rfl (run_xQueueGenericCreate hc l _ _)
      (hI.created hc (freshQueue_wellFormed ..) rfl)
  | createCountingSemaphore addr m i =>
    exact exists_step_of_ok rfl (run_xQueueCreateCountingSemaphore hc m i)
      (hI.created hc (FakeQueue.wellFormed_replicate rfl rfl (Nat.min_le_right ..)) rfl)
  | createMutex addr t =>
    have hI' := hI.created hc.1 (freshMutex_sound t).1 rfl
    exact exists_step_of_ok rfl (run_xQueueCreateMutex hc.1 hc.2)
      ⟨⟨hI'.wellFormed.queue, hI'.wellFormed.null⟩, hI'.setsLive, hI'.isSet, hI'.books⟩
  | addToSet item set =>
    rcases run_xQueueAddToSet_cases w.lib item set with
      hrun | ⟨hn, hnone, -⟩ | hrun | ⟨q, -, -, hq, -, he, hrun⟩
    · exact exists_step_of_assertFailed rfl hrun hI
    · have hlive := hc.1.resolve_left hn
      rw [hnone] at hlive
      cases hlive
    · exact exists_step_of_ok rfl hrun hI
    · exact exists_step_of_ok rfl hrun (hI.relink hq he hc.2)
  | removeFromSet item set =>
    rcases run_xQueueRemoveFromSet_cases w.lib item set with
      hrun | ⟨hn, hnone, -⟩ | hrun | ⟨q, -, -, hq, -, he, hrun⟩
    · exact exists_step_of_assertFailed rfl hrun hI
    · have hlive := hc.1.resolve_left hn
      rw [hnone] at hlive
      cases hlive
    · exact exists_step_of_ok rfl hrun hI
    · exact exists_step_of_ok rfl hrun (hI.relink hq he (.inl rfl))
  | send queue item pos =>
    obtain ⟨hne, ⟨e, rfl⟩, q, hq, hi⟩ := hc
    obtain ⟨b, s', hrun, hI'⟩ := hI.send hp hq hne hi e
    exact exists_step_of_ok rfl hrun hI'
  | giveFromISR queue =>
    obtain ⟨q, hq, hi, ht⟩ := hc
    have hne : queue ≠ S := by
      rintro rfl
      obtain ⟨Sq, hSq, hsize⟩ := hI.isSet
      obtain rfl : q = Sq := Option.some.inj (hq.symm.trans hSq)
      rw [hi] at hsize
      exact absurd hsize (by decide)
    obtain ⟨b, s', hrun, hI'⟩ := hI.send hp hq hne (itemFits_zero none hi) .back
    rw [← run_xQueueGiveFromISR_eq (hw.ne_nullptr hq) hq ht] at hrun
    exact exists_step_of_ok rfl hrun hI'
  | selectFromSet set =>
    rcases hc with rfl | ⟨hset, hne, hm⟩
    · obtain ⟨h, s', hrun, hI', -⟩ := hI.select hp
      exact exists_step_of_ok rfl hrun hI'
    · obtain ⟨h, s', hrun, hI'⟩ := hI.selectOther hset hne hm
      exact exists_step_of_ok rfl hrun hI'
  | receive queue buffer =>
    obtain ⟨ha, q, b, hq, rfl, hb⟩ := hc
    cases hm : q.queue with
    | nil =>
      exact exists_step_of_ok rfl (run_xQueueReceive_nil (hw.ne_nullptr hq) hq hm b)
        hI.receiveNothing
    | cons m rest =>
      exact exists_step_of_ok rfl (run_xQueueReceive_cons hw hq hm hb) (hI.pop hq ha hm)
  | semaphoreTake queue =>
    obtain ⟨ha, q, hq, hi, ht⟩ := hc
    cases hm : q.queue with
    | nil =>
      exact exists_step_of_ok rfl (run_xQueueSemaphoreTake_nil (hw.ne_nullptr hq) hq ht hm)
        hI.receiveNothing
    | cons m rest =>
      have h8 : q.itemSize.toNat ≤ 8 := by rw [hi]; decide
      exact exists_step_of_ok rfl (run_xQueueSemaphoreTake_cons hw hq ht h8 hm) (hI.pop hq ha hm)
  | _ => exact absurd hc id

theorem inv_of_run {tr : List (Call × Reply)} (h : Run (Watch.Step S) w tr w')
    (h₀ : w.Inv S ∧ w.lib.Plain S) : w'.Inv S ∧ w'.lib.Plain S := by
  refine Run.invariant (I := fun w => w.Inv S ∧ w.lib.Plain S) ?_ h h₀
  rintro w c r _ ⟨hI, hp⟩ ⟨hc, s', hstep, hp', rfl⟩
  obtain ⟨r', s'', hstep', -, hI'⟩ := hI.step hp hc
  obtain ⟨rfl, rfl⟩ := hstep.deterministic hstep'
  exact ⟨hI', by rwa [observe_lib]⟩

/-! ## What balanced books say -/

/-- The copies of the handle of `q` pending in `S`. -/
def pendingIn (s : Lib) (S q : Handle) : ℕ := (s.messagesAt S).count (handleBytes q)

/-- The queue that a call sends to. -/
def sendsTo? : Call → Option Handle
  | .send queue _ _ | .giveFromISR queue => some queue
  | _ => none

/-- The queue that a call receives from. -/
def receivesFrom? : Call → Option Handle
  | .receive queue _ | .semaphoreTake queue => some queue
  | _ => none

/-- The call reported success. -/
def succeeded : Reply → Bool
  | .returned (.code k) | .returned (.data k _) => k = pdTRUE
  | _ => false

/-- What holds of the set `S` at every moment. -/
structure Exact (S : Handle) (w : Watch) : Prop where
  /-- Pending handles and selects not yet answered are the waiting messages of a member; of a
  queue that is no member there are none. -/
  balance : ∀ q, pendingIn w.lib S q + w.unanswered q =
    if w.lib.setOf q = some S then (w.lib.messagesAt q).length else 0
  /-- The members are selected in the order in which they were sent to. -/
  order : ∃ pending, w.lib.messagesAt S = pending.map handleBytes ∧
    w.sent = w.selected ++ pending
  /-- Nothing undefined happens. -/
  defined : ∀ c r s', w.SetCall S c → w.lib.Step c r s' → r.Defined
  /-- A successful send to a member is notified: the set is never full then. -/
  notified : ∀ c queue r s', w.SetCall S c → sendsTo? c = some queue →
    w.lib.setOf queue = some S → w.lib.Step c r s' → succeeded r →
    s'.messagesAt S = w.lib.messagesAt S ++ [handleBytes queue]
  /-- The receive from a member that answers a select succeeds. -/
  answered : ∀ c queue r s', w.SetCall S c → receivesFrom? c = some queue →
    w.lib.setOf queue = some S → w.lib.Step c r s' → succeeded r
  /-- A select returns null exactly when every message of every member is claimed. -/
  selects : ∃ h s', w.lib.Step (.selectFromSet S) (.returned (.handle h)) s' ∧
    (h = nullptr ↔
      ∀ q, w.lib.setOf q = some S → (w.lib.messagesAt q).length = w.unanswered q)
  /-- A queue that was removed has no handle in the set. -/
  removed : ∀ q s', w.lib.Step (.removeFromSet q S) (.returned (.code pdPASS)) s' →
    s'.setOf q = none ∧ pendingIn s' S q = 0

theorem pendingIn_eq_count {pending : List Handle}
    (h : w.lib.messagesAt S = pending.map handleBytes) (q : Handle) :
    pendingIn w.lib S q = pending.count q := by
  rw [pendingIn, h, List.count_map_of_injective _ _ handleBytes_injective]

/-- The pending members, as the books have them. -/
theorem Inv.exists_pending (hI : w.Inv S) :
    ∃ pending, w.lib.messagesAt S = pending.map handleBytes ∧
      w.sent = w.selected ++ pending ∧ (∀ q ∈ pending, w.lib.setOf q = some S) ∧
      (∀ q, w.lib.setOf q = some S →
        pending.count q + w.unanswered q = (w.lib.messagesAt q).length) ∧
      ∀ q, w.lib.setOf q ≠ some S → w.unanswered q = 0 := by
  have hmem := fun q => Lib.member_net_iff_setOf hI.wellFormed (S := S) (h := q)
  obtain ⟨pending, hbooks, hsent⟩ := hI.books
  refine ⟨pending, (Lib.itemsAt_net hI.wellFormed S).symm.trans hbooks.items, hsent,
    fun q hq => (hmem q).mp (hbooks.pending_member q hq), fun q hq => ?_, fun q hq => ?_⟩
  · rw [← Lib.itemsAt_net hI.wellFormed]
    exact hbooks.balance q ((hmem q).mpr hq)
  · exact hbooks.opened_other q fun h => hq ((hmem q).mp h)

theorem Inv.balance (hI : w.Inv S) (q : Handle) : pendingIn w.lib S q + w.unanswered q =
    if w.lib.setOf q = some S then (w.lib.messagesAt q).length else 0 := by
  obtain ⟨pending, hitems, -, hmem, hbal, hother⟩ := hI.exists_pending
  rw [pendingIn_eq_count hitems]
  by_cases hq : w.lib.setOf q = some S
  · rw [if_pos hq]
    exact hbal q hq
  · have hcount : pending.count q = 0 := List.count_eq_zero.mpr fun h => hq (hmem q h)
    rw [if_neg hq, hcount, hother q hq]

theorem Inv.selects (hI : w.Inv S) (hp : w.lib.Plain S) :
    ∃ h s', w.lib.Step (.selectFromSet S) (.returned (.handle h)) s' ∧
      (h = nullptr ↔
        ∀ q, w.lib.setOf q = some S → (w.lib.messagesAt q).length = w.unanswered q) := by
  obtain ⟨h, s', hrun, -, hnull⟩ := hI.select hp
  refine ⟨h, s', Lib.step_of_ok rfl hrun, ?_⟩
  obtain ⟨pending, hitems, -, hmem, hbal, -⟩ := hI.exists_pending
  rw [hnull, hitems, List.map_eq_nil_iff]
  constructor
  · rintro rfl q hq
    have := hbal q hq
    rw [List.count_nil] at this
    omega
  · intro hall
    refine List.eq_nil_iff_forall_not_mem.mpr fun q hq => ?_
    have hcount := List.count_pos_iff.mpr hq
    have := hbal q (hmem q hq)
    have := hall q (hmem q hq)
    omega

theorem Inv.notified (hI : w.Inv S) (hp : w.lib.Plain S) {c : Call} {queue : Handle} {r : Reply}
    {s' : Lib} (hc : w.SetCall S c) (hto : sendsTo? c = some queue)
    (hm : w.lib.setOf queue = some S) (hstep : w.lib.Step c r s') (hr : succeeded r) :
    s'.messagesAt S = w.lib.messagesAt S ++ [handleBytes queue] := by
  obtain ⟨r', s'', hstep', -, hI'⟩ := hI.step hp hc
  obtain ⟨rfl, rfl⟩ := hstep.deterministic hstep'
  -- the send was seen, so the books after it have one more pending member
  have hseen : w.observe S c r s' = { w with lib := s', sent := w.sent ++ [queue] } := by
    cases c with
    | send | giveFromISR =>
      obtain rfl := Option.some.inj hto
      cases r with
      | left e => cases hr
      | returned v =>
        cases v with
        | code k => exact if_pos ⟨of_decide_eq_true hr, hm⟩
        | data => exact absurd (congrArg Prod.fst hstep) (by
            rw [Call.exec, run_map]; split <;> simp [outcome])
        | _ => cases hr
    | _ => cases hto
  rw [hseen] at hI'
  obtain ⟨pending, hitems, hsent, -⟩ := hI.exists_pending
  obtain ⟨pending', hitems', hsent', -⟩ := hI'.exists_pending
  have happ : w.selected ++ (pending ++ [queue]) = w.selected ++ pending' := by
    rw [← List.append_assoc, ← hsent]
    exact hsent'
  rw [hitems]
  refine hitems'.trans ?_
  rw [← List.append_cancel_left happ, List.map_append, List.map_singleton]

theorem Inv.answered (hI : w.Inv S) {c : Call} {queue : Handle} {r : Reply} {s' : Lib}
    (hc : w.SetCall S c) (hfrom : receivesFrom? c = some queue)
    (hm : w.lib.setOf queue = some S) (hstep : w.lib.Step c r s') : succeeded r := by
  have hw := hI.wellFormed
  cases c with
  | receive queue' buffer =>
    obtain rfl := Option.some.inj hfrom
    obtain ⟨ha, q, b, hq, rfl, hb⟩ := hc
    have hne := hI.ne_nil_of_answers ha hm
    rw [Lib.messagesAt_of_lookup hq] at hne
    obtain ⟨m, rest, hmsg⟩ := List.exists_cons_of_ne_nil hne
    have hrun := run_xQueueReceive_cons hw hq hmsg hb
    obtain ⟨rfl, -⟩ := hstep.deterministic (Lib.step_of_ok rfl hrun)
    simp [succeeded]
  | semaphoreTake queue' =>
    obtain rfl := Option.some.inj hfrom
    obtain ⟨ha, q, hq, hi, ht⟩ := hc
    have hne := hI.ne_nil_of_answers ha hm
    rw [Lib.messagesAt_of_lookup hq] at hne
    obtain ⟨m, rest, hmsg⟩ := List.exists_cons_of_ne_nil hne
    have h8 : q.itemSize.toNat ≤ 8 := by rw [hi]; decide
    have hrun := run_xQueueSemaphoreTake_cons hw hq ht h8 hmsg
    obtain ⟨rfl, -⟩ := hstep.deterministic (Lib.step_of_ok rfl hrun)
    simp [succeeded]
  | _ => cases hfrom

theorem Inv.removed (hI : w.Inv S) {q : Handle} {s' : Lib}
    (hstep : w.lib.Step (.removeFromSet q S) (.returned (.code pdPASS)) s') :
    s'.setOf q = none ∧ pendingIn s' S q = 0 := by
  rcases run_xQueueRemoveFromSet_cases w.lib q S with
    hrun | ⟨-, -, hrun⟩ | hrun | ⟨fq, -, hS, hq, hcont, he, hrun⟩
  · cases (hstep.deterministic (Lib.step_of_error rfl hrun)).1
  · cases (hstep.deterministic (Lib.step_of_error rfl hrun)).1
  · cases (hstep.deterministic (Lib.step_of_ok rfl hrun)).1
  · obtain ⟨-, rfl⟩ := hstep.deterministic (Lib.step_of_ok rfl hrun)
    have hm : w.lib.setOf q = some S := by
      rw [Lib.setOf_of_lookup hq, FakeQueue.link_eq_some_iff]
      exact ⟨hcont, hS⟩
    have hbal := hI.balance q
    rw [if_pos hm, Lib.messagesAt_of_lookup hq, he, List.length_nil] at hbal
    refine ⟨(Lib.setOf_of_lookup (Lib.lookup_write_self ..)).trans
      (FakeQueue.link_eq_none_iff.mpr rfl), ?_⟩
    -- the messages waiting in `S` are those before, also if `q` is `S` itself
    have hsame : (w.lib.write q { fq with queueSetContainer := nullptr }).messagesAt S =
        w.lib.messagesAt S := by
      by_cases hqS : S = q
      · subst hqS
        rw [Lib.messagesAt_of_lookup (Lib.lookup_write_self ..), Lib.messagesAt_of_lookup hq]
      · rw [Lib.messagesAt, Lib.messagesAt, Lib.lookup_write_of_ne _ _ hqS]
    rw [pendingIn, hsame, ← pendingIn]
    omega

theorem Inv.exact (hI : w.Inv S) (hp : w.lib.Plain S) : w.Exact S where
  balance := hI.balance
  order := by
    obtain ⟨pending, hitems, hsent, -⟩ := hI.exists_pending
    exact ⟨pending, hitems, hsent⟩
  defined c r s' hc hstep := by
    obtain ⟨r', s'', hstep', hd, -⟩ := hI.step hp hc
    exact (hstep.deterministic hstep').1 ▸ hd
  notified _ _ _ _ hc hto hm hstep hr := hI.notified hp hc hto hm hstep hr
  answered _ _ _ _ hc hfrom hm hstep := hI.answered hc hfrom hm hstep
  selects := hI.selects hp
  removed _ _ hstep := hI.removed hstep

/-! ## The creation of the set -/

theorem step_createSet {s s' : Lib} {S : Handle} {l : UBaseType} {v : Value}
    (h : s.Step (.createSet S l) (.returned v) s') :
    s.Fresh S ∧ v = .handle S ∧
      s' = s.write S (freshQueue l (UInt8.ofNat sizeofHandle) queueQUEUE_TYPE_SET) := by
  by_cases hf : s.Fresh S
  · obtain ⟨hv, rfl⟩ := h.deterministic (Lib.step_of_ok rfl (run_xQueueGenericCreate hf l _ _))
    cases hv
    exact ⟨hf, rfl, rfl⟩
  · cases (h.deterministic (Lib.step_of_error rfl (run_xQueueGenericCreate_not_fresh hf l _ _))).1

/-- A set just created has no members. -/
theorem setOf_ne_of_created {s : Lib} (hs : s.SetsLive) {S : Handle} (hf : s.Fresh S)
    (l n : UBaseType) (t : UInt8) (x : Handle) :
    (s.write S (freshQueue l n t)).setOf x ≠ some S := by
  intro hx
  obtain ⟨q, hq, hl⟩ := Lib.exists_lookup_of_setOf hx
  obtain ⟨hc, hS⟩ := FakeQueue.link_eq_some_iff.mp hl
  by_cases hxS : x = S
  · subst hxS
    rw [Lib.lookup_write_self, Option.some.injEq] at hq
    exact hS (hc.symm.trans (hq ▸ rfl))
  · rw [Lib.lookup_write_of_ne _ _ hxS] at hq
    obtain ⟨Sq, hSq, -⟩ := hs x q hq (fun h0 => hS (hc.symm.trans h0))
    rw [hc, hf.2] at hSq
    cases hSq

theorem start_inv {s s' : Lib} (hs : s.Legal) {S : Handle} {l : UBaseType} {v : Value}
    (h : s.Step (.createSet S l) (.returned v) s') :
    (start s').Inv S ∧ (start s').lib.Plain S := by
  obtain ⟨hf, -, rfl⟩ := step_createSet h
  have hlegal := hs.create hf l (UInt8.ofNat sizeofHandle) (t := queueQUEUE_TYPE_SET) (by decide)
  have hnone := setOf_ne_of_created hs.setsLive hf l (UInt8.ofNat sizeofHandle) queueQUEUE_TYPE_SET
  refine ⟨⟨hlegal.wellFormed, hlegal.setsLive, ⟨_, Lib.lookup_write_self .., rfl⟩, [], ?_, rfl⟩,
    ?_, fun q hq => absurd hq (hnone q)⟩
  · refine Ledger.of_empty ?_ fun x hx => ?_
    · simp only [start]
      rw [Lib.itemsAt_net hlegal.wellFormed, Lib.messagesAt_of_lookup (Lib.lookup_write_self ..)]
      rfl
    · exact hnone x ((Lib.member_net_iff_setOf hlegal.wellFormed).mp hx)
  · rw [Lib.memberLengths, Finset.sum_eq_zero]
    · exact Nat.zero_le _
    · exact fun x hx => absurd (Finset.mem_filter.mp hx).2 (hnone x)

end Watch

/-- **A queue set loses no event, invents none and keeps the order.** In every legal memory, from
the creation of a set `S` on, at every moment of every program that uses `S` as intended and keeps
it as long as its members together. -/
theorem set_books_balance {s s' : Lib} (hs : s.Legal) {S : Handle} {l : UBaseType}
    (hcreate : s.Step (.createSet S l) (.returned (.handle S)) s')
    {tr : List (Call × Reply)} {w : Watch} (hrun : Run (Watch.Step S) (Watch.start s') tr w) :
    w.Exact S :=
  have h := Watch.inv_of_run hrun (Watch.start_inv hs hcreate)
  h.1.exact h.2

/-- Next to the queue and the semaphore, a set of length 3 at 3. -/
def queueSemaphoreAndSet : Lib :=
  queueAndSemaphore.write 3 (freshQueue 3 (UInt8.ofNat sizeofHandle) queueQUEUE_TYPE_SET)

/-- The queue is added to the set, sent to, selected and received from. -/
theorem exists_watched_run : ∃ tr w, Run (Watch.Step 3) (Watch.start queueSemaphoreAndSet) tr w ∧
    tr.map Prod.fst = [.addToSet 1 3, .send 1 (some [7]) queueSEND_TO_BACK, .selectFromSet 3,
      .receive 1 (some [0])] ∧ w.sent = [1] ∧ w.selected = [1] ∧ w.unanswered 1 = 0 := by
  let q : FakeQueue := { freshQueue 2 1 queueQUEUE_TYPE_BASE with queueSetContainer := 3 }
  let S : FakeQueue := freshQueue 3 (UInt8.ofNat sizeofHandle) queueQUEUE_TYPE_SET
  -- the memories of the run, and what the observer has seen
  let s₁ : Lib := queueSemaphoreAndSet.write 1 q
  let s₂ : Lib := (s₁.write 1 { q with queue := [[7]] }).write 3 { S with queue := [handleBytes 1] }
  let s₃ : Lib := s₂.write 3 S
  let s₄ : Lib := s₃.write 1 q
  let w₁ : Watch := ⟨s₁, [], [], fun _ => 0⟩
  let w₂ : Watch := ⟨s₂, [1], [], fun _ => 0⟩
  let w₃ : Watch := ⟨s₃, [1], [1], Function.update w₂.unanswered 1 1⟩
  let w₄ : Watch := ⟨s₄, [1], [1], Function.update w₃.unanswered 1 0⟩
  have h₁ : queueSemaphoreAndSet.Step (.addToSet 1 3) (.returned (.code pdPASS)) s₁ := by
    decide +kernel
  have h₂ : s₁.Step (.send 1 (some [7]) queueSEND_TO_BACK) (.returned (.code pdTRUE)) s₂ := by
    decide +kernel
  have h₃ : s₂.Step (.selectFromSet 3) (.returned (.handle 1)) s₃ := by decide +kernel
  have h₄ : s₃.Step (.receive 1 (some [0])) (.returned (.data pdTRUE (some [7]))) s₄ := by
    decide +kernel
  have hp₁ : s₁.Plain 3 :=
    ⟨by decide +kernel, Lib.leaf_of_only_set (by decide +kernel) (by decide +kernel)⟩
  have hp₂ := (h₂.retains trivial).plain hp₁
  have hp₃ := (h₃.retains trivial).plain hp₂
  have hp₄ := (h₄.retains trivial).plain hp₃
  have hc₁ : Watch.SetCall 3 (Watch.start queueSemaphoreAndSet) (.addToSet 1 3) :=
    ⟨.inr rfl, .inr ⟨_, rfl, rfl⟩⟩
  have hc₂ : Watch.SetCall 3 w₁ (.send 1 (some [7]) queueSEND_TO_BACK) :=
    ⟨by decide, ⟨.back, rfl⟩, q, rfl, by decide +kernel⟩
  have hc₃ : Watch.SetCall 3 w₂ (.selectFromSet 3) := .inl rfl
  have hc₄ : Watch.SetCall 3 w₃ (.receive 1 (some [0])) :=
    ⟨⟨by decide, fun _ => Nat.one_pos⟩, { q with queue := [[7]] }, _, rfl, rfl, by decide +kernel⟩
  have hmem : s₁.setOf 1 = some 3 := by decide +kernel
  have hmem' : s₃.setOf 1 = some 3 := by decide +kernel
  have hw₁ : Watch.Step 3 (Watch.start queueSemaphoreAndSet) _ _ w₁ := ⟨hc₁, s₁, h₁, hp₁, rfl⟩
  have hw₂ : w₂ = w₁.sendSeen 3 1 pdTRUE s₂ := (if_pos ⟨rfl, hmem⟩).symm
  have hw₃ : w₃ = w₂.selectSeen 3 3 1 s₃ := (if_pos ⟨rfl, by decide⟩).symm
  have hw₄ : w₄ = w₃.receiveSeen 3 1 pdTRUE s₄ := (if_pos ⟨rfl, hmem'⟩).symm
  exact ⟨_, w₄, .cons hw₁ (.cons ⟨hc₂, s₂, h₂, hp₂, hw₂⟩ (.cons ⟨hc₃, s₃, h₃, hp₃, hw₃⟩
    (.cons ⟨hc₄, s₄, h₄, hp₄, hw₄⟩ (.nil _)))), rfl, rfl, rfl, rfl⟩

theorem set_books_balance_watched_run :
    ∃ w : Watch, w.sent = [1] ∧ w.selected = [1] ∧ w.unanswered 1 = 0 ∧ w.Exact 3 := by
  have hcreate : queueAndSemaphore.Step (.createSet 3 3) (.returned (.handle 3))
      queueSemaphoreAndSet := by decide +kernel
  obtain ⟨tr, w, hrun, -, h⟩ := exists_watched_run
  exact ⟨w, h.1, h.2.1, h.2.2, set_books_balance queueAndSemaphore_legal hcreate hrun⟩

end FakeFreeRtos
