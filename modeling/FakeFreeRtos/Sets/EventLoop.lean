import FakeFreeRtos.Foundations.Lanes
import FakeFreeRtos.Sets.Balance
import FakeFreeRtos.Queue.Channel
import FakeFreeRtos.Queue.Refinement

/-!
# Event loops over a queue set

A task that serves a queue set selects a member and receives from it, again and again, while other
tasks send to the back of the members. The set merges its members into a single queue: the messages
handled are the first of those sent, to whichever member, in the order of the sends, and the others
wait in their members (`eventLoop_merges`). A loop that is left alone handles them all and leaves
every member empty (`eventLoop_drains`).
-/

namespace FakeFreeRtos

open Foundations

/-- The memory, the messages sent to members of the set, and the messages handled. -/
structure EventLoop where
  lib : Lib
  sent : List (Handle × Bytes)
  handled : List (Handle × Bytes)

/-- What can happen next: a call of some task, or one round of the loop, which fetches the message
of the selected member by the call that it has for it. -/
inductive LoopAction
  | call (c : Call)
  | serve (fetch : Handle → Call)

namespace EventLoop

variable {S queue q : Handle} {s s' : Lib} {c : Call} {r : Reply} {w w' : EventLoop}
  {a : LoopAction}

/-- The calls of the other tasks: those of a program that uses the set, which send to the back of
its members and leave selecting from the set, and receiving from its members, to the loop. -/
structure Admits (S : Handle) (s : Lib) (c : Call) : Prop where
  setCall : (Watch.start s).SetCall S c
  select : c ≠ .selectFromSet S
  back : ∀ queue item pos, c = .send queue item pos → s.setOf queue = some S →
    pos = queueSEND_TO_BACK

/-- The call fetches a message of `queue`, into a buffer that is large enough. -/
def Fetches (s : Lib) (queue : Handle) : Call → Prop
  | .receive queue' buffer => queue' = queue ∧
    ∃ q b, s.lookup queue = some q ∧ buffer = some b ∧ q.itemSize.toNat ≤ b.length
  | .semaphoreTake queue' => queue' = queue ∧ (Watch.start s).Semaphore queue
  | _ => False

/-- What a call sends to a member of the set. -/
def posted (S : Handle) (s : Lib) : Call → Reply → List (Handle × Bytes)
  | .send queue item _, .returned (.code k) =>
    if k = pdTRUE ∧ s.setOf queue = some S then [(queue, message item (s.itemSizeAt queue))] else []
  | .giveFromISR queue, .returned (.code k) =>
    if k = pdTRUE ∧ s.setOf queue = some S then [(queue, [])] else []
  | _, _ => []

/-- What is fetched from `queue`. -/
def fetched (queue : Handle) (size : UBaseType) : Reply → List (Handle × Bytes)
  | .returned (.data k (some b)) => if k = pdTRUE then [(queue, b.take size.toNat)] else []
  | .returned (.code k) => if k = pdTRUE then [(queue, [])] else []
  | _ => []

/-- One step of the tasks, or one round of the loop. The set stays as long as its members
together. -/
inductive Step (S : Handle) : EventLoop → LoopAction → Reply → EventLoop → Prop
  | call {w : EventLoop} {c : Call} {r : Reply} {s' : Lib} (hc : Admits S w.lib c)
      (h : w.lib.Step c r s') (hp : s'.Plain S) :
      Step S w (.call c) r ⟨s', w.sent ++ posted S w.lib c r, w.handled⟩
  | idle {w : EventLoop} {fetch : Handle → Call} {s' : Lib}
      (h : w.lib.Step (.selectFromSet S) (.returned (.handle nullptr)) s') :
      Step S w (.serve fetch) (.returned (.handle nullptr)) ⟨s', w.sent, w.handled⟩
  | serve {w : EventLoop} {fetch : Handle → Call} {queue : Handle} {r : Reply} {s₁ s' : Lib}
      (hn : queue ≠ nullptr) (hsel : w.lib.Step (.selectFromSet S) (.returned (.handle queue)) s₁)
      (hf : Fetches s₁ queue (fetch queue)) (h : s₁.Step (fetch queue) r s') :
      Step S w (.serve fetch) r
        ⟨s', w.sent, w.handled ++ fetched queue (s₁.itemSizeAt queue) r⟩

/-- What the set's books have of the loop, with no select unanswered. -/
def watch (w : EventLoop) : Watch :=
  ⟨w.lib, w.sent.map Prod.fst, w.handled.map Prod.fst, fun _ => 0⟩

/-- What holds between the rounds: the books are balanced, and the members hold the lanes of the
messages sent and not handled. -/
structure Inv (S : Handle) (w : EventLoop) : Prop where
  books : w.watch.Inv S
  plain : w.lib.Plain S
  log : ∃ backlog, w.sent = w.handled ++ backlog ∧
    ∀ q, w.lib.setOf q = some S → w.lib.messagesAt q = lane backlog q

/-! ## What a call does to the members -/

/-- No queue is in a member of a plain set. -/
theorem noMember_of_plain (hw : s.WellFormed) (hp : s.Plain S) (hq : s.setOf q = some S) :
    s.NoMember q := by
  intro x fq hx hc
  obtain ⟨mq, hmq, -⟩ := Lib.exists_lookup_of_setOf hq
  refine hp.leaf q hq x ((Lib.setOf_of_lookup hx).trans ?_)
  exact FakeQueue.link_eq_some_iff.mpr ⟨hc, hw.ne_nullptr hmq⟩

/-- Only the queue that is sent to is posted to. -/
theorem lane_posted_of_not_mem (hq : q ∉ c.handles) : lane (posted S s c r) q = [] := by
  have hne : ∀ queue, queue ∈ c.handles → queue ≠ q := by
    rintro queue hmem rfl
    exact hq hmem
  cases c with
  | send queue item pos =>
    have hne := hne queue (List.mem_singleton.mpr rfl)
    cases r with
    | returned v => cases v <;> simp [posted, apply_ite (lane · q), lane_cons_of_ne hne]
    | left => rfl
  | giveFromISR queue =>
    have hne := hne queue (List.mem_singleton.mpr rfl)
    cases r with
    | returned v => cases v <;> simp [posted, apply_ite (lane · q), lane_cons_of_ne hne]
    | left => rfl
  | _ => rfl

/-- A send to the back of a member. -/
theorem messagesAt_of_send (hw : s.WellFormed) (hp : s.Plain S) (hq : s.setOf q = some S)
    {item : Buffer} {fq : FakeQueue} (hfq : s.lookup q = some fq)
    (hi : ItemFits item fq.itemSize) (hstep : s.Step (.send q item queueSEND_TO_BACK) r s')
    (hd : r.Defined) :
    s'.messagesAt q = s.messagesAt q ++ lane (posted S s (.send q item queueSEND_TO_BACK) r) q := by
  have hno := noMember_of_plain hw hp hq
  rw [Lib.messagesAt_of_lookup hfq]
  rcases hstep.send_fitting (e := .back) hd hno (hw.ne_nullptr hfq) hfq hi with
    ⟨-, rfl, rfl⟩ | ⟨-, rfl, hlookup, -⟩
  · rw [Lib.messagesAt_of_lookup hfq, posted, if_neg fun h => absurd h.1 (by decide), lane_nil,
      List.append_nil]
  · rw [Lib.messagesAt_of_lookup hlookup, posted, if_pos ⟨rfl, hq⟩, lane_cons_self, lane_nil,
      Lib.itemSizeAt_of_lookup hfq]
    rfl

theorem posted_giveFromISR {pos : BaseType} (h0 : s.itemSizeAt q = 0) :
    posted S s (.giveFromISR q) r = posted S s (.send q none pos) r := by
  cases r with
  | returned v => cases v <;> simp [posted, h0, message_none]
  | left => rfl

/-- A call that moves no queue into the set or out of it. -/
theorem Admits.messagesAt_of_keepsSets (hw : s.WellFormed) (hp : s.Plain S) (hc : Admits S s c)
    (hk : c.KeepsSets) (hstep : s.Step c r s') (hd : r.Defined) (hq : s.setOf q = some S) :
    s'.messagesAt q = s.messagesAt q ++ lane (posted S s c r) q := by
  obtain ⟨fq, hfq, -⟩ := Lib.exists_lookup_of_setOf hq
  have hn := hw.ne_nullptr hfq
  by_cases hh : q ∈ c.handles
  · cases c with
    | send queue item pos =>
      obtain rfl := List.mem_singleton.mp hh
      obtain rfl := hc.back _ _ _ rfl hq
      obtain ⟨-, -, fq', hfq', hi⟩ := hc.setCall
      exact messagesAt_of_send hw hp hq hfq' hi hstep hd
    | giveFromISR queue =>
      obtain rfl := List.mem_singleton.mp hh
      obtain ⟨fq', hfq', h0, ht⟩ : ∃ fq', s.lookup q = some fq' ∧ _ := hc.setCall
      have hsend := hstep.send_of_giveFromISR hn hfq' ht
      rw [posted_giveFromISR ((Lib.itemSizeAt_of_lookup hfq').trans h0)]
      exact messagesAt_of_send hw hp hq hfq' (itemFits_zero none h0) hsend hd
    | receive queue buffer =>
      obtain rfl := List.mem_singleton.mp hh
      exact absurd (hc.setCall.1.2 hq) (lt_irrefl 0)
    | semaphoreTake queue =>
      obtain rfl := List.mem_singleton.mp hh
      exact absurd (hc.setCall.1.2 hq) (lt_irrefl 0)
    | selectFromSet set =>
      obtain rfl := List.mem_singleton.mp hh
      rcases hc.setCall with rfl | ⟨-, -, hnot⟩
      · exact absurd rfl hc.select
      · exact absurd hq hnot
    | create | createSet | createCountingSemaphore | createMutex => exact absurd hk id
    | addToSet | removeFromSet => exact absurd hk id
    | _ => exact absurd hc.setCall id
  · obtain ⟨-, hlookup⟩ := hstep.spares hd hn hh (noMember_of_plain hw hp hq)
    rw [lane_posted_of_not_mem hh, List.append_nil, Lib.messagesAt, Lib.messagesAt, hlookup]

/-- A queue moved into a set or out of one was empty, and keeps its messages. -/
theorem messagesAt_of_relinks {item set : Handle} (hs : s.Relinks item set s')
    (hq : s'.setOf q = some S) :
    s'.messagesAt q = s.messagesAt q ∧ (s.setOf q = some S ∨ s.messagesAt q = []) := by
  rcases hs with rfl | ⟨fq, hfq, he, rfl⟩
  · exact ⟨rfl, .inl hq⟩
  by_cases hne : q = item
  · subst hne
    rw [Lib.messagesAt_of_lookup (Lib.lookup_write_self ..), Lib.messagesAt_of_lookup hfq]
    exact ⟨rfl, .inr he⟩
  · unfold Lib.messagesAt
    unfold Lib.setOf at hq ⊢
    rw [Lib.lookup_write_of_ne _ _ hne] at hq ⊢
    exact ⟨rfl, .inl hq⟩

/-- A queue just created is in no set. -/
theorem messagesAt_of_create {addr : Handle} {fq : FakeQueue} (hn : fq.queueSetContainer = nullptr)
    (hq : (s.write addr fq).setOf q = some S) :
    (s.write addr fq).messagesAt q = s.messagesAt q ∧ s.setOf q = some S := by
  have hne : q ≠ addr := by
    rintro rfl
    rw [Lib.setOf_of_lookup (Lib.lookup_write_self ..), FakeQueue.link_eq_none_iff.mpr hn] at hq
    cases hq
  unfold Lib.messagesAt
  unfold Lib.setOf at hq ⊢
  rw [Lib.lookup_write_of_ne _ _ hne] at hq ⊢
  exact ⟨rfl, hq⟩

/-- **Each member gains what is posted to it**, and a queue that joins the set is empty. -/
theorem Admits.messagesAt (hw : s.WellFormed) (hp : s.Plain S) (hc : Admits S s c)
    (hstep : s.Step c r s') (hd : r.Defined) (hq : s'.setOf q = some S) :
    s'.messagesAt q = s.messagesAt q ++ lane (posted S s c r) q ∧
      (s.setOf q = some S ∨ s.messagesAt q = []) := by
  by_cases hk : c.KeepsSets
  · have hq' := (hstep.retains hk).setOf_eq q ▸ hq
    exact ⟨hc.messagesAt_of_keepsSets hw hp hk hstep hd hq', .inl hq'⟩
  have hnil : posted S s c r = [] := by
    cases c with
    | send | giveFromISR => exact absurd trivial hk
    | _ => rfl
  rw [hnil, lane_nil, List.append_nil]
  cases hstep.effect hd with
  | evolves hev _ =>
    cases c with
    | addToSet => exact messagesAt_of_relinks hstep.addToSet_relinks hq
    | removeFromSet => exact messagesAt_of_relinks hstep.removeFromSet_relinks hq
    | _ => exact absurd hev hk
  | unchanged => exact ⟨rfl, .inl hq⟩
  | creates hcr =>
    obtain ⟨hm, hq'⟩ := messagesAt_of_create hcr.container hq
    exact ⟨hm, .inl hq'⟩
  | @createsMutex addr t =>
    have hn : (freshMutex t).queueSetContainer = nullptr := rfl
    obtain ⟨hm, hq'⟩ := messagesAt_of_create (s := s) hn hq
    exact ⟨hm, .inl hq'⟩
  | deletes => exact absurd hc.setCall id
  | tracksOn => exact absurd hc.setCall id
  | tracksOff => exact absurd hc.setCall id

/-! ## The steps keep the invariant -/

/-- The books see of a call what the loop's log has of it. -/
theorem Admits.observe_watch (hc : Admits S w.lib c) (r : Reply) (s' : Lib) :
    w.watch.observe S c r s' =
      EventLoop.watch ⟨s', w.sent ++ posted S w.lib c r, w.handled⟩ := by
  have hsend : ∀ (queue : Handle) (k : BaseType) (m : Bytes),
      w.watch.sendSeen S queue k s' = EventLoop.watch ⟨s', w.sent ++
        (if k = pdTRUE ∧ w.lib.setOf queue = some S then [(queue, m)] else []), w.handled⟩ := by
    intro queue k m
    show (if k = pdTRUE ∧ w.lib.setOf queue = some S then _ else _) = _
    by_cases hm : k = pdTRUE ∧ w.lib.setOf queue = some S
    · simp [watch, hm]
    · simp [watch, if_neg hm]
  have hreceive : ∀ (queue : Handle) (k : BaseType), (Watch.start w.lib).Answers S queue →
      w.watch.receiveSeen S queue k s' = EventLoop.watch ⟨s', w.sent ++ [], w.handled⟩ := by
    intro queue k ha
    unfold Watch.receiveSeen
    rw [if_neg fun h => absurd (ha.2 h.2) (lt_irrefl 0), List.append_nil]
    rfl
  have hother : { w.watch with lib := s' } =
      EventLoop.watch ⟨s', w.sent ++ [], w.handled⟩ := by
    rw [List.append_nil]
    rfl
  cases r with
  | left => cases c <;> exact hother
  | returned v =>
    cases c with
    | send queue item pos =>
      cases v with
      | code k => exact hsend queue k _
      | _ => exact hother
    | giveFromISR queue =>
      cases v with
      | code k => exact hsend queue k _
      | _ => exact hother
    | selectFromSet set =>
      cases v with
      | handle h => exact (if_neg fun he : set = S ∧ _ => hc.select (he.1 ▸ rfl)).trans hother
      | _ => exact hother
    | receive queue buffer =>
      cases v with
      | data k b => exact hreceive queue k hc.setCall.1
      | _ => exact hother
    | semaphoreTake queue =>
      cases v with
      | code k => exact hreceive queue k hc.setCall.1
      | _ => exact hother
    | _ => exact hother

theorem Admits.setCall_watch (hc : Admits S w.lib c) : w.watch.SetCall S c := by
  have h := hc.setCall
  cases c <;> exact h

/-- Nothing waits for a queue that is no member. -/
theorem Inv.lane_eq_nil (hI : w.Inv S) {backlog : List (Handle × Bytes)}
    (hlog : w.sent = w.handled ++ backlog) (hq : w.lib.setOf q ≠ some S) : lane backlog q = [] := by
  obtain ⟨pending, -, hsent, hmem, -, -⟩ := hI.books.exists_pending
  refine Foundations.lane_eq_nil fun hq' => hq (hmem q ?_)
  have happ : w.handled.map Prod.fst ++ backlog.map Prod.fst =
      w.handled.map Prod.fst ++ pending := by
    rw [← List.map_append, ← hlog]
    exact hsent
  exact List.append_cancel_left happ ▸ hq'

/-- **A call of another task** extends the backlog by what it posts. -/
theorem Inv.call (hI : w.Inv S) (hc : Admits S w.lib c) (hstep : w.lib.Step c r s')
    (hp : s'.Plain S) : Inv S ⟨s', w.sent ++ posted S w.lib c r, w.handled⟩ := by
  obtain ⟨r', s'', hstep', hd, hbooks⟩ := hI.books.step hI.plain hc.setCall_watch
  obtain ⟨rfl, rfl⟩ := hstep.deterministic hstep'
  rw [hc.observe_watch] at hbooks
  obtain ⟨backlog, hlog, hlanes⟩ := hI.log
  refine ⟨hbooks, hp, backlog ++ posted S w.lib c r, ?_, fun q hq => ?_⟩
  · rw [← List.append_assoc, ← hlog]
  · have hw : w.lib.WellFormed := hI.books.wellFormed
    obtain ⟨hgain, hjoin⟩ := hc.messagesAt hw hI.plain hstep hd hq
    simp only
    rw [hgain, lane_append]
    by_cases hq' : w.lib.setOf q = some S
    · rw [hlanes q hq']
    · rw [hjoin.resolve_left hq', hI.lane_eq_nil hlog hq']

/-- A select from the set does not touch the members. -/
theorem messagesAt_of_select (hw : s.WellFormed) (hp : s.Plain S) {v : Value}
    (hsel : s.Step (.selectFromSet S) (.returned v) s') (hq : s'.setOf q = some S) :
    s.setOf q = some S ∧ s'.messagesAt q = s.messagesAt q := by
  have hq' := (hsel.retains trivial).setOf_eq q ▸ hq
  have hne : q ≠ S := by
    rintro rfl
    exact hp.leaf q hq' q hq'
  obtain ⟨fq, hfq, -⟩ := Lib.exists_lookup_of_setOf hq'
  obtain ⟨-, hlookup⟩ := hsel.spares (Watch.defined_returned v) (hw.ne_nullptr hfq)
    (fun h => hne (List.mem_singleton.mp h)) (noMember_of_plain hw hp hq')
  refine ⟨hq', ?_⟩
  unfold Lib.messagesAt
  rw [hlookup]

/-- A round that finds nothing. -/
theorem Inv.idle (hI : w.Inv S)
    (hsel : w.lib.Step (.selectFromSet S) (.returned (.handle nullptr)) s') :
    Inv S ⟨s', w.sent, w.handled⟩ := by
  obtain ⟨h, s'', hrun, hbooks, -⟩ := hI.books.select hI.plain
  obtain ⟨hv, rfl⟩ := hsel.deterministic (Lib.step_of_ok rfl hrun)
  cases hv
  rw [Watch.selectSeen, if_neg fun hn => hn.2 rfl] at hbooks
  obtain ⟨backlog, hlog, hlanes⟩ := hI.log
  refine ⟨hbooks, (hsel.retains trivial).plain hI.plain, backlog, hlog, fun q hq => ?_⟩
  obtain ⟨hq', hsame⟩ := messagesAt_of_select hI.books.wellFormed hI.plain hsel hq
  exact hsame.trans (hlanes q hq')

theorem Fetches.retains (hf : Fetches s queue c) (h : s.Retains FakeQueue.membership s') :
    Fetches s' queue c := by
  have hkeep : ∀ fq, s.lookup queue = some fq → ∃ fq', s'.lookup queue = some fq' ∧
      fq'.itemSize = fq.itemSize ∧ fq'.queueType = fq.queueType := by
    intro fq hfq
    have hl := h.lookup queue
    rw [hfq] at hl
    obtain ⟨fq', hfq', he⟩ := Option.map_eq_some_iff.mp hl
    exact ⟨fq', hfq', congrArg (fun k => k.1.2.1) he, congrArg (fun k => k.1.2.2) he⟩
  cases c with
  | receive queue' buffer =>
    obtain ⟨rfl, fq, b, hfq, rfl, hb⟩ := hf
    obtain ⟨fq', hfq', hsize, -⟩ := hkeep fq hfq
    exact ⟨rfl, fq', b, hfq', rfl, hsize ▸ hb⟩
  | semaphoreTake queue' =>
    obtain ⟨rfl, fq, hfq, h0, ht⟩ := hf
    obtain ⟨fq', hfq', hsize, htype⟩ := hkeep fq hfq
    exact ⟨rfl, fq', hfq', hsize.trans h0, htype ▸ ht⟩
  | _ => exact absurd hf id

theorem Fetches.keepsSets (hf : Fetches s queue c) : c.KeepsSets := by
  cases c with
  | receive => exact trivial
  | semaphoreTake => exact trivial
  | _ => exact absurd hf id

/-- A fetch takes the first message. -/
theorem fetch_cons (hw : s.WellFormed) {fq : FakeQueue} (hfq : s.lookup queue = some fq) {m : Bytes}
    {l : List Bytes} (hm : fq.queue = m :: l) (hf : Fetches s queue c) (h : s.Step c r s') :
    s' = s.write queue { fq with queue := l } ∧
      fetched queue (s.itemSizeAt queue) r = [(queue, m)] := by
  have hlen : m.length = fq.itemSize.toNat :=
    (hw.queue queue fq hfq).item_length m (hm ▸ List.mem_cons_self)
  rw [Lib.itemSizeAt_of_lookup hfq]
  cases c with
  | receive queue' buffer =>
    obtain ⟨rfl, fq', b, hfq', rfl, hb⟩ := hf
    obtain rfl : fq = fq' := Option.some.inj (hfq.symm.trans hfq')
    obtain ⟨rfl, rfl⟩ := h.deterministic (Lib.step_of_ok rfl (run_xQueueReceive_cons hw hfq hm hb))
    have hfetched : fetched queue' fq.itemSize (.returned (.data pdTRUE (some (filled b m)))) =
        [(queue', m)] := by
      simp [fetched, filled, ← hlen]
    exact ⟨rfl, hfetched⟩
  | semaphoreTake queue' =>
    obtain ⟨rfl, fq', hfq', h0, ht⟩ := hf
    obtain rfl : fq = fq' := Option.some.inj (hfq.symm.trans hfq')
    have h8 : fq.itemSize.toNat ≤ 8 := by rw [h0]; decide
    obtain ⟨rfl, rfl⟩ := h.deterministic
      (Lib.step_of_ok rfl (run_xQueueSemaphoreTake_cons hw hfq ht h8 hm))
    have hnil : m = [] := List.length_eq_zero_iff.mp (hlen.trans (by rw [h0]; rfl))
    exact ⟨rfl, by rw [hnil]; rfl⟩
  | _ => exact absurd hf id

/-- A select that finds a member finds that of the first message of the backlog. -/
theorem Inv.select (hI : w.Inv S) (hn : queue ≠ nullptr)
    (hsel : w.lib.Step (.selectFromSet S) (.returned (.handle queue)) s') :
    ∃ m rest, w.sent = w.handled ++ (queue, m) :: rest ∧
      s'.setOf queue = some S ∧ s'.Plain S ∧
      (∀ q, s'.setOf q = some S → s'.messagesAt q = lane ((queue, m) :: rest) q) ∧
      Watch.Inv S ⟨s', w.sent.map Prod.fst, w.handled.map Prod.fst ++ [queue],
        Function.update (fun _ => 0) queue 1⟩ := by
  obtain ⟨h, s'', hrun, hbooks, -⟩ := hI.books.select hI.plain
  obtain ⟨hv, rfl⟩ := hsel.deterministic (Lib.step_of_ok rfl hrun)
  cases hv
  rw [Watch.selectSeen, if_pos ⟨rfl, hn⟩] at hbooks
  obtain ⟨backlog, hlog, hlanes⟩ := hI.log
  obtain ⟨pending, -, hsent, -, -, hnone⟩ := hbooks.exists_pending
  have happ : w.handled.map Prod.fst ++ backlog.map Prod.fst =
      w.handled.map Prod.fst ++ (queue :: pending) := by
    rw [← List.map_append, ← hlog, ← List.singleton_append, ← List.append_assoc]
    exact hsent
  have hkeys := List.append_cancel_left happ
  cases backlog with
  | nil => cases hkeys
  | cons p rest =>
    obtain ⟨k, m⟩ := p
    obtain rfl : k = queue := (List.cons.inj hkeys).1
    refine ⟨m, rest, hlog, ?_, (hsel.retains trivial).plain hI.plain, fun q hq => ?_, hbooks⟩
    · by_contra hnot
      have hone := hnone k hnot
      simp [watch] at hone
    · obtain ⟨hq', hsame⟩ := messagesAt_of_select hI.books.wellFormed hI.plain hsel hq
      exact hsame.trans (hlanes q hq')

/-- **A round of the loop** handles the first message of the backlog. -/
theorem Inv.serve (hI : w.Inv S) {s₁ : Lib} (hn : queue ≠ nullptr)
    (hsel : w.lib.Step (.selectFromSet S) (.returned (.handle queue)) s₁)
    (hf : Fetches s₁ queue c) (h : s₁.Step c r s') :
    ∃ m rest, w.sent = w.handled ++ (queue, m) :: rest ∧
      fetched queue (s₁.itemSizeAt queue) r = [(queue, m)] ∧
      Inv S ⟨s', w.sent, w.handled ++ [(queue, m)]⟩ := by
  obtain ⟨m, rest, hlog, hmem, hp, hlanes, hbooks⟩ := hI.select hn hsel
  obtain ⟨fq, hfq, -⟩ := Lib.exists_lookup_of_setOf hmem
  have hm : fq.queue = m :: lane rest queue := by
    rw [← Lib.messagesAt_of_lookup hfq, hlanes queue hmem, lane_cons_self]
  have hne : queue ≠ S := by
    rintro rfl
    exact hp.leaf queue hmem queue hmem
  have hk := hf.keepsSets
  obtain ⟨rfl, hfetched⟩ := fetch_cons hbooks.wellFormed hfq hm hf h
  have hpop := hbooks.pop hfq ⟨hne, fun _ => by simp⟩ hm
  have hzero : Function.update (Function.update (fun _ => 0) queue 1) queue 0 =
      (fun _ => 0 : Handle → ℕ) := by
    funext x
    by_cases hx : x = queue
    · rw [hx, Function.update_self]
    · rw [Function.update_of_ne hx, Function.update_of_ne hx]
  rw [Watch.receiveSeen, if_pos ⟨rfl, hmem⟩] at hpop
  simp only [Function.update_self, Nat.sub_self, hzero] at hpop
  refine ⟨m, rest, hlog, hfetched, ⟨?_, (h.retains hk).plain hp, rest, ?_, fun q hq => ?_⟩⟩
  · simpa [watch] using hpop
  · rw [hlog, List.append_assoc]
    rfl
  · have hq' := (h.retains hk).setOf_eq q ▸ hq
    have hlane := hlanes q hq'
    by_cases hqq : q = queue
    · rw [hqq]
      exact Lib.messagesAt_of_lookup (Lib.lookup_write_self ..)
    · rw [lane_cons_of_ne (Ne.symm hqq)] at hlane
      rw [← hlane]
      unfold Lib.messagesAt
      rw [Lib.lookup_write_of_ne _ _ hqq]

theorem Inv.step (hI : w.Inv S) (h : Step S w a r w') : w'.Inv S := by
  cases h with
  | call hc h hp => exact hI.call hc h hp
  | idle h => exact hI.idle h
  | serve hn hsel hf h =>
    obtain ⟨m, rest, -, hm, hI'⟩ := hI.serve hn hsel hf h
    exact hm ▸ hI'

/-! ## What the set holds -/

/-- The handles that wait in the set are those of the backlog. -/
theorem Inv.messagesAt_set (hI : w.Inv S) {backlog : List (Handle × Bytes)}
    (hlog : w.sent = w.handled ++ backlog) :
    w.lib.messagesAt S = backlog.map fun p => handleBytes p.1 := by
  obtain ⟨pending, hitems, hsent, -, -, -⟩ := hI.books.exists_pending
  have happ : w.handled.map Prod.fst ++ backlog.map Prod.fst =
      w.handled.map Prod.fst ++ pending := by
    rw [← List.map_append, ← hlog]
    exact hsent
  refine hitems.trans ?_
  rw [← List.append_cancel_left happ, List.map_map]
  rfl

/-- The rounds that handle the backlog. -/
theorem Inv.drains (hI : w.Inv S) {fetch : Handle → Call}
    (hf : ∀ q, w.lib.setOf q = some S → Fetches w.lib q (fetch q))
    {backlog : List (Handle × Bytes)} (hlog : w.sent = w.handled ++ backlog) :
    ∃ tr s', tr.map Prod.fst = List.replicate backlog.length (.serve fetch) ∧
      Run (Step S) w tr ⟨s', w.sent, w.sent⟩ ∧ Inv S ⟨s', w.sent, w.sent⟩ := by
  induction backlog generalizing w with
  | nil =>
    obtain ⟨s, sent, handled⟩ := w
    obtain rfl : sent = handled := hlog.trans (List.append_nil _)
    exact ⟨[], s, rfl, .nil _, hI⟩
  | cons p rest ih =>
    obtain ⟨h, s₁, hrun, -, hnull⟩ := hI.books.select hI.plain
    have hn : h ≠ nullptr := by
      rw [Ne, hnull]
      intro hnil
      have hset := hI.messagesAt_set hlog
      rw [show w.lib.messagesAt S = [] from hnil] at hset
      cases hset
    have hsel : w.lib.Step (.selectFromSet S) (.returned (.handle h)) s₁ := Lib.step_of_ok rfl hrun
    have hkeep := hsel.retains trivial
    have hmem : w.lib.setOf h = some S := by
      obtain ⟨-, -, -, hmem, -⟩ := hI.select hn hsel
      exact hkeep.setOf_eq h ▸ hmem
    have hf₁ := (hf h hmem).retains hkeep
    have hstep := Lib.step_of_outcome (s := s₁) (c := fetch h) rfl
    obtain ⟨m, rest', hlog', hm, hI'⟩ := hI.serve hn hsel hf₁ hstep
    obtain ⟨rfl, rfl⟩ := List.cons.inj (List.append_cancel_left (hlog.symm.trans hlog'))
    have hone := Step.serve (w := w) hn hsel hf₁ hstep
    rw [hm] at hone
    have hkeep' := trans_of (Lib.Retains FakeQueue.membership) hkeep
      (hstep.retains hf₁.keepsSets)
    obtain ⟨tr, s', hlen, hrest, hI''⟩ := ih hI'
      (fun q hq => (hf q (hkeep'.setOf_eq q ▸ hq)).retains hkeep') (hlog.trans (by simp))
    exact ⟨_, s', by rw [List.map_cons, hlen]; rfl, .cons hone hrest, hI''⟩

end EventLoop

section Runs

variable {s s' : Lib} {S : Handle} {l : UBaseType} {tr : List (LoopAction × Reply)}
  {w : EventLoop}

theorem EventLoop.inv_of_run (hs : s.Legal)
    (hcreate : s.Step (.createSet S l) (.returned (.handle S)) s')
    (hrun : Run (EventLoop.Step S) ⟨s', [], []⟩ tr w) : w.Inv S := by
  obtain ⟨hbooks, hp⟩ := Watch.start_inv hs hcreate
  refine hrun.invariant (I := Inv S) (fun _ _ _ _ hI hstep => hI.step hstep)
    ⟨hbooks, hp, [], rfl, fun q hq => ?_⟩
  obtain ⟨hf, -, rfl⟩ := Watch.step_createSet hcreate
  exact absurd hq (Watch.setOf_ne_of_created hs.setsLive hf l _ _ q)

/-- **A queue set merges its members into one queue.** In every run from the creation of a set on,
in which the other tasks send to the back of its members and a loop serves them, the messages
handled are the first of those sent, to whichever member, in the order of the sends; the others
wait in their members, and in this order their handles wait in the set. -/
theorem eventLoop_merges (hs : s.Legal)
    (hcreate : s.Step (.createSet S l) (.returned (.handle S)) s')
    (hrun : Run (EventLoop.Step S) ⟨s', [], []⟩ tr w) :
    ∃ backlog, w.sent = w.handled ++ backlog ∧
      w.lib.messagesAt S = backlog.map (fun p => handleBytes p.1) ∧
      ∀ q, w.lib.setOf q = some S → w.lib.messagesAt q = lane backlog q := by
  have hI := EventLoop.inv_of_run hs hcreate hrun
  obtain ⟨backlog, hlog, hlanes⟩ := hI.log
  exact ⟨backlog, hlog, hI.messagesAt_set hlog, hlanes⟩

/-- **The loop catches up.** After every such run, the loop handles what is left of the messages
sent in as many rounds as there are, if it has a buffer large enough for each; then every member is
empty, and so is the set. -/
theorem eventLoop_drains (hs : s.Legal)
    (hcreate : s.Step (.createSet S l) (.returned (.handle S)) s')
    (hrun : Run (EventLoop.Step S) ⟨s', [], []⟩ tr w) {fetch : Handle → Call}
    (hf : ∀ q, w.lib.setOf q = some S → EventLoop.Fetches w.lib q (fetch q)) :
    ∃ rounds s'', rounds.map Prod.fst =
        List.replicate (w.sent.length - w.handled.length) (.serve fetch) ∧
      Run (EventLoop.Step S) w rounds ⟨s'', w.sent, w.sent⟩ ∧
      (∀ q, s''.setOf q = some S → s''.messagesAt q = []) ∧
      s''.Step (.selectFromSet S) (.returned (.handle nullptr)) s'' := by
  have hI := EventLoop.inv_of_run hs hcreate hrun
  obtain ⟨backlog, hlog, -⟩ := hI.log
  obtain ⟨rounds, s'', hrounds, hserved, hI'⟩ := hI.drains hf hlog
  have hlen : w.sent.length - w.handled.length = backlog.length := by
    rw [hlog, List.length_append]
    omega
  have hdone : w.sent = w.sent ++ [] := (List.append_nil _).symm
  refine ⟨rounds, s'', hlen ▸ hrounds, hserved, fun q hq => ?_, ?_⟩
  · obtain ⟨rest, hrest, hlanes⟩ := hI'.log
    obtain rfl : rest = [] := List.append_cancel_left (hrest.symm.trans hdone)
    exact hlanes q hq
  · obtain ⟨Sq, hSq, -⟩ := hI'.books.isSet
    have hnil := (Lib.messagesAt_of_lookup hSq).symm.trans (hI'.messagesAt_set hdone)
    exact Lib.step_of_ok rfl
      (run_xQueueSelectFromSet_nil (hI'.books.wellFormed.ne_nullptr hSq) hSq hnil)

end Runs

/-! ## A loop over a queue and a semaphore -/

/-- The loop takes the semaphore at 2, and receives from any other member. -/
def takeOrReceive (queue : Handle) : Call :=
  if queue = 2 then .semaphoreTake queue else .receive queue (some [0])

/-- The semaphore is given, the queue is sent to, and one round is made. -/
theorem exists_servedLoop : ∃ tr w, Run (EventLoop.Step 3) ⟨queueSemaphoreAndSet, [], []⟩ tr w ∧
    w.sent = [(2, []), (1, [7])] ∧ w.handled = [(2, [])] ∧
    ∀ q, w.lib.setOf q = some 3 → EventLoop.Fetches w.lib q (takeOrReceive q) := by
  let q : FakeQueue := { freshQueue 2 1 queueQUEUE_TYPE_BASE with queueSetContainer := 3 }
  let m : FakeQueue := { freshQueue 1 0 queueQUEUE_TYPE_BASE with queueSetContainer := 3 }
  let S : FakeQueue := freshQueue 3 (UInt8.ofNat sizeofHandle) queueQUEUE_TYPE_SET
  let s₁ : Lib := queueSemaphoreAndSet.write 1 q
  let s₂ : Lib := s₁.write 2 m
  let s₃ : Lib := (s₂.write 2 { m with queue := [[]] }).write 3 { S with queue := [handleBytes 2] }
  let s₄ : Lib := (s₃.write 1 { q with queue := [[7]] }).write 3
    { S with queue := [handleBytes 2, handleBytes 1] }
  let s₅ : Lib := s₄.write 3 { S with queue := [handleBytes 1] }
  let s₆ : Lib := s₅.write 2 m
  have h₁ : queueSemaphoreAndSet.Step (.addToSet 1 3) (.returned (.code pdPASS)) s₁ := by
    decide +kernel
  have h₂ : s₁.Step (.addToSet 2 3) (.returned (.code pdPASS)) s₂ := by decide +kernel
  have h₃ : s₂.Step (.giveFromISR 2) (.returned (.code pdTRUE)) s₃ := by decide +kernel
  have h₄ : s₃.Step (.send 1 (some [7]) queueSEND_TO_BACK) (.returned (.code pdTRUE)) s₄ := by
    decide +kernel
  have h₅ : s₄.Step (.selectFromSet 3) (.returned (.handle 2)) s₅ := by decide +kernel
  have h₆ : s₅.Step (.semaphoreTake 2) (.returned (.code pdTRUE)) s₆ := by decide +kernel
  have hp₁ : s₁.Plain 3 :=
    ⟨by decide +kernel, Lib.leaf_of_only_set (by decide +kernel) (by decide +kernel)⟩
  have hp₂ : s₂.Plain 3 :=
    ⟨by decide +kernel, Lib.leaf_of_only_set (by decide +kernel) (by decide +kernel)⟩
  have hp₃ := (h₃.retains trivial).plain hp₂
  have hp₄ := (h₄.retains trivial).plain hp₃
  have hc₁ : EventLoop.Admits 3 queueSemaphoreAndSet (.addToSet 1 3) :=
    ⟨⟨.inr rfl, .inr ⟨_, rfl, rfl⟩⟩, by decide, fun _ _ _ he => by cases he⟩
  have hc₂ : EventLoop.Admits 3 s₁ (.addToSet 2 3) :=
    ⟨⟨.inr rfl, .inr ⟨_, rfl, rfl⟩⟩, by decide, fun _ _ _ he => by cases he⟩
  have hc₃ : EventLoop.Admits 3 s₂ (.giveFromISR 2) :=
    ⟨⟨m, rfl, rfl, by decide⟩, by decide, fun _ _ _ he => by cases he⟩
  have hc₄ : EventLoop.Admits 3 s₃ (.send 1 (some [7]) queueSEND_TO_BACK) :=
    ⟨⟨by decide, ⟨.back, rfl⟩, q, rfl, by decide +kernel⟩, by decide,
      fun _ _ _ he _ => by cases he; rfl⟩
  have hf₅ : EventLoop.Fetches s₅ 2 (takeOrReceive 2) := ⟨rfl, _, rfl, rfl, by decide⟩
  have e₃ : EventLoop.posted 3 s₂ (.giveFromISR 2) (.returned (.code pdTRUE)) = [(2, [])] := by
    decide +kernel
  have e₄ : EventLoop.posted 3 s₃ (.send 1 (some [7]) queueSEND_TO_BACK)
      (.returned (.code pdTRUE)) = [(1, [7])] := by decide +kernel
  have w₁ : EventLoop.Step 3 ⟨queueSemaphoreAndSet, [], []⟩ (.call (.addToSet 1 3)) _
      ⟨s₁, [], []⟩ := .call hc₁ h₁ hp₁
  have w₂ : EventLoop.Step 3 ⟨s₁, [], []⟩ (.call (.addToSet 2 3)) _ ⟨s₂, [], []⟩ :=
    .call hc₂ h₂ hp₂
  have w₃ : EventLoop.Step 3 ⟨s₂, [], []⟩ _ _ ⟨s₃, [] ++ _, []⟩ := .call hc₃ h₃ hp₃
  rw [e₃] at w₃
  have w₄ : EventLoop.Step 3 ⟨s₃, [(2, [])], []⟩ _ _ ⟨s₄, [(2, [])] ++ _, []⟩ := .call hc₄ h₄ hp₄
  rw [e₄] at w₄
  have w₅ : EventLoop.Step 3 ⟨s₄, [(2, []), (1, [7])], []⟩ (.serve takeOrReceive) _
      ⟨s₆, [(2, []), (1, [7])], [(2, [])]⟩ := .serve (by decide) h₅ hf₅ h₆
  have hrun := Run.cons w₁ (.cons w₂ (.cons w₃ (.cons w₄ (.cons w₅ (.nil _)))))
  refine ⟨_, _, hrun, rfl, rfl, fun x hx => ?_⟩
  have hlive : s₆.AllLive fun x => x = 1 ∨ x = 2 ∨ s₆.setOf x = none := by decide +kernel
  rcases hlive.of_setOf hx with rfl | rfl | hnone
  · exact ⟨rfl, _, _, rfl, rfl, by decide +kernel⟩
  · exact ⟨rfl, _, rfl, rfl, by decide⟩
  · cases hnone.symm.trans hx

theorem eventLoop_merges_served : ∃ w : EventLoop, w.sent = [(2, []), (1, [7])] ∧
    w.handled = [(2, [])] ∧ ∃ backlog, w.sent = w.handled ++ backlog ∧
      w.lib.messagesAt 3 = backlog.map (fun p => handleBytes p.1) ∧
      ∀ q, w.lib.setOf q = some 3 → w.lib.messagesAt q = lane backlog q := by
  have hcreate : queueAndSemaphore.Step (.createSet 3 3) (.returned (.handle 3))
      queueSemaphoreAndSet := by decide +kernel
  obtain ⟨tr, w, hrun, hsent, hhandled, -⟩ := exists_servedLoop
  exact ⟨w, hsent, hhandled, eventLoop_merges queueAndSemaphore_legal hcreate hrun⟩

theorem eventLoop_drains_served : ∃ w : EventLoop, w.sent = [(2, []), (1, [7])] ∧
    w.handled = [(2, [])] ∧ ∃ rounds s'',
      rounds.map Prod.fst = List.replicate (w.sent.length - w.handled.length)
        (.serve takeOrReceive) ∧
      Run (EventLoop.Step 3) w rounds ⟨s'', w.sent, w.sent⟩ ∧
      (∀ q, s''.setOf q = some 3 → s''.messagesAt q = []) ∧
      s''.Step (.selectFromSet 3) (.returned (.handle nullptr)) s'' := by
  have hcreate : queueAndSemaphore.Step (.createSet 3 3) (.returned (.handle 3))
      queueSemaphoreAndSet := by decide +kernel
  obtain ⟨tr, w, hrun, hsent, hhandled, hf⟩ := exists_servedLoop
  exact ⟨w, hsent, hhandled, eventLoop_drains queueAndSemaphore_legal hcreate hrun hf⟩

end FakeFreeRtos
