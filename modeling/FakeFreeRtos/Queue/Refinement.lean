import FakeFreeRtos.Queue.Receive

/-!
# The queues refine bounded deques

The reference for the sends, receives, peeks and counts of a program is the network of bounded
deques itself (`RefStep`): a send posts the supplied bytes, a receive pops, a peek looks, and the
counts are those of the deque, as numbers. In every legal memory each such call answers as the
reference does, and leaves the memory that the reference leaves (`exists_refStep`); for whole
programs this is `queues_refine_deques`.
-/

namespace FakeFreeRtos

open Foundations Net

/-- The item size of the queue at `h`. -/
def Lib.itemSizeAt (s : Lib) (h : Handle) : UBaseType := (s.lookup h).elim 0 FakeQueue.itemSize

theorem Lib.itemSizeAt_of_lookup {s : Lib} {h : Handle} {q : FakeQueue}
    (hq : s.lookup h = some q) : s.itemSizeAt h = q.itemSize := by
  rw [Lib.itemSizeAt, hq, Option.elim_some]

theorem Lib.SameShape.itemSizeAt_eq {s s' : Lib} (h : s.SameShape s') (x : Handle) :
    s'.itemSizeAt x = s.itemSizeAt x := by
  cases hq : s.lookup x with
  | none => rw [Lib.itemSizeAt, Lib.itemSizeAt, (h.lookup_eq_none_iff x).mpr hq, hq]
  | some q =>
    obtain ⟨l, hq'⟩ := h.exists_lookup hq
    rw [Lib.itemSizeAt_of_lookup hq, Lib.itemSizeAt_of_lookup hq']

/-- The reference: what a call answers on a network of bounded deques whose messages have the
sizes `size`, and the network it leaves. -/
inductive RefStep (size : Handle → UBaseType) : Net Handle Bytes → Call → Reply →
    Net Handle Bytes → Prop
  | send {net net' : Net Handle Bytes} {queue : Handle} {item : Buffer} {e : Side} {b : Bool}
      (h : Post handleBytes net queue e (message item (size queue)) b net') :
      RefStep size net (.send queue item (copyPosition e)) (.returned (.code (sendAnswer b))) net'
  | receive {net : Net Handle Bytes} {queue : Handle} {buffer m : Bytes} {n : Node Handle Bytes}
      {d : BoundedDeque Bytes} (hn : net queue = some n) (h : n.deque.pop? = some (m, d)) :
      RefStep size net (.receive queue (some buffer))
        (.returned (.data pdTRUE (some (filled buffer m)))) (net.setDeque queue n d)
  | receiveNothing {net : Net Handle Bytes} {queue : Handle} {buffer : Bytes}
      {n : Node Handle Bytes} (hn : net queue = some n) (h : n.deque.pop? = none) :
      RefStep size net (.receive queue (some buffer)) (.returned (.data pdFALSE (some buffer))) net
  | peek {net : Net Handle Bytes} {queue : Handle} {buffer m : Bytes} {n : Node Handle Bytes}
      (hn : net queue = some n) (h : n.deque.peek? = some m) :
      RefStep size net (.peek queue (some buffer))
        (.returned (.data pdTRUE (some (filled buffer m)))) net
  | peekNothing {net : Net Handle Bytes} {queue : Handle} {buffer : Bytes}
      {n : Node Handle Bytes} (hn : net queue = some n) (h : n.deque.peek? = none) :
      RefStep size net (.peek queue (some buffer)) (.returned (.data pdFALSE (some buffer))) net
  | waiting {net : Net Handle Bytes} {queue : Handle} {n : Node Handle Bytes} {k : UBaseType}
      (hn : net queue = some n) (hk : k.toNat = n.deque.waiting) :
      RefStep size net (.messagesWaiting queue) (.returned (.count k)) net
  | spaces {net : Net Handle Bytes} {queue : Handle} {n : Node Handle Bytes} {k : UBaseType}
      (hn : net queue = some n) (hk : k.toNat = n.deque.spaces) :
      RefStep size net (.spacesAvailable queue) (.returned (.count k)) net

/-- The calls the refinement is about: sends to the back or the front, receives, peeks and counts
on a live queue, with sources and buffers of at least `itemSize` bytes. -/
def Lib.DequeCall (s : Lib) : Call → Prop
  | .send queue item pos =>
    (s.lookup queue).isSome ∧ (∃ e, pos = copyPosition e) ∧ ItemFits item (s.itemSizeAt queue)
  | .receive queue buffer | .peek queue buffer =>
    (s.lookup queue).isSome ∧ ∃ b, buffer = some b ∧ (s.itemSizeAt queue).toNat ≤ b.length
  | .messagesWaiting queue | .spacesAvailable queue => (s.lookup queue).isSome
  | _ => False

/-- The queue that such a call is about. -/
def Call.queue? : Call → Option Handle
  | .send queue _ _ | .receive queue _ | .peek queue _ | .messagesWaiting queue
  | .spacesAvailable queue => some queue
  | _ => none

theorem Lib.SameShape.dequeCall {s s' : Lib} (h : s.SameShape s') {c : Call}
    (hc : s.DequeCall c) : s'.DequeCall c := by
  have hlive : ∀ x, (s.lookup x).isSome → (s'.lookup x).isSome := fun x hx => by
    obtain ⟨q, hq⟩ := Option.isSome_iff_exists.mp hx
    obtain ⟨l, hq'⟩ := h.exists_lookup hq
    exact Option.isSome_iff_exists.mpr ⟨_, hq'⟩
  cases c with
  | send queue item pos => exact ⟨hlive _ hc.1, hc.2.1, h.itemSizeAt_eq queue ▸ hc.2.2⟩
  | receive queue buffer => exact ⟨hlive _ hc.1, h.itemSizeAt_eq queue ▸ hc.2⟩
  | peek queue buffer => exact ⟨hlive _ hc.1, h.itemSizeAt_eq queue ▸ hc.2⟩
  | messagesWaiting queue => exact hlive _ hc
  | spacesAvailable queue => exact hlive _ hc
  | _ => exact absurd hc id

/-! ## The reference -/

/-- The reference fixes the answer and the network it leaves. -/
theorem RefStep.deterministic {size : Handle → UBaseType} {net net₁ net₂ : Net Handle Bytes}
    {c : Call} {r₁ r₂ : Reply} (h₁ : RefStep size net c r₁ net₁) (h₂ : RefStep size net c r₂ net₂) :
    r₁ = r₂ ∧ net₁ = net₂ := by
  cases h₁ with
  | @send _ queue item e b h =>
    generalize hpos : copyPosition e = pos at h₂
    cases h₂ with
    | @send _ _ _ e' b' h' =>
      obtain rfl := copyPosition_injective hpos
      obtain ⟨rfl, rfl⟩ := h.deterministic h'
      exact ⟨rfl, rfl⟩
  | receive hn h =>
    cases h₂ with
    | receive hn' h' => rw [hn] at hn'; cases hn'; rw [h] at h'; cases h'; exact ⟨rfl, rfl⟩
    | receiveNothing hn' h' => rw [hn] at hn'; cases hn'; rw [h] at h'; cases h'
  | receiveNothing hn h =>
    cases h₂ with
    | receive hn' h' => rw [hn] at hn'; cases hn'; rw [h] at h'; cases h'
    | receiveNothing => exact ⟨rfl, rfl⟩
  | peek hn h =>
    cases h₂ with
    | peek hn' h' => rw [hn] at hn'; cases hn'; rw [h] at h'; cases h'; exact ⟨rfl, rfl⟩
    | peekNothing hn' h' => rw [hn] at hn'; cases hn'; rw [h] at h'; cases h'
  | peekNothing hn h =>
    cases h₂ with
    | peek hn' h' => rw [hn] at hn'; cases hn'; rw [h] at h'; cases h'
    | peekNothing => exact ⟨rfl, rfl⟩
  | waiting hn hk =>
    cases h₂ with
    | waiting hn' hk' =>
      rw [hn] at hn'; cases hn'
      rw [UInt8.toNat_inj.mp (hk.trans hk'.symm)]
      exact ⟨rfl, rfl⟩
  | spaces hn hk =>
    cases h₂ with
    | spaces hn' hk' =>
      rw [hn] at hn'; cases hn'
      rw [UInt8.toNat_inj.mp (hk.trans hk'.symm)]
      exact ⟨rfl, rfl⟩

/-- A call on a queue that is in no set changes no other queue. -/
theorem RefStep.frame {size : Handle → UBaseType} {net net' : Net Handle Bytes} {c : Call}
    {r : Reply} (h : RefStep size net c r net') {queue : Handle} (hc : c.queue? = some queue)
    {n : Node Handle Bytes} (hn : net queue = some n) (hl : n.link = none) {x : Handle}
    (hx : x ≠ queue) : net' x = net x := by
  cases h with
  | send h =>
    obtain rfl := Option.some.inj hc
    cases h with
    | refused => rfl
    | stored => exact setDeque_of_ne _ _ _ hx
    | announced hn' _ hl' => rw [hn] at hn'; cases hn'; rw [hl] at hl'; cases hl'
  | receive => obtain rfl := Option.some.inj hc; exact setDeque_of_ne _ _ _ hx
  | _ => rfl

/-! ## One call -/

/-- **Every call answers as the reference does.** -/
theorem exists_refStep {s : Lib} (hw : s.WellFormed) (hs : s.SetsLive) {c : Call}
    (hc : s.DequeCall c) :
    ∃ r s', s.Step c r s' ∧ RefStep s.itemSizeAt s.net c r s'.net ∧ s.SameShape s' ∧
      s'.WellFormed := by
  cases c with
  | send queue item pos =>
    obtain ⟨hlive, ⟨e, rfl⟩, hi⟩ := hc
    obtain ⟨q, hq⟩ := Option.isSome_iff_exists.mp hlive
    rw [Lib.itemSizeAt_of_lookup hq] at hi
    obtain ⟨b, s', hrun, hpost, hshape, hw'⟩ := run_xQueueGenericSend hw hs hq hi e
    refine ⟨_, s', Lib.step_of_ok rfl hrun, .send ?_, hshape, hw'⟩
    rwa [Lib.itemSizeAt_of_lookup hq]
  | receive queue buffer =>
    obtain ⟨hlive, b, rfl, hb⟩ := hc
    obtain ⟨q, hq⟩ := Option.isSome_iff_exists.mp hlive
    rw [Lib.itemSizeAt_of_lookup hq] at hb
    have hn := hw.ne_nullptr hq
    have hnode := Lib.net_of_wellFormed hw hq
    cases hm : q.queue with
    | nil =>
      exact ⟨_, s, Lib.step_of_ok rfl (run_xQueueReceive_nil hn hq hm b),
        .receiveNothing hnode (BoundedDeque.pop?_eq_none_iff.mpr hm), .refl s, hw⟩
    | cons m rest =>
      obtain ⟨d, hpop, hw', hnet⟩ := hw.popped hq hm
      have href : RefStep s.itemSizeAt s.net (.receive queue (some b))
          (.returned (.data pdTRUE (some (filled b m)))) _ := .receive hnode hpop
      exact ⟨_, _, Lib.step_of_ok rfl (run_xQueueReceive_cons hw hq hm hb), hnet ▸ href,
        .write hq rest, hw'⟩
  | peek queue buffer =>
    obtain ⟨hlive, b, rfl, hb⟩ := hc
    obtain ⟨q, hq⟩ := Option.isSome_iff_exists.mp hlive
    rw [Lib.itemSizeAt_of_lookup hq] at hb
    have hn := hw.ne_nullptr hq
    have hnode := Lib.net_of_wellFormed hw hq
    cases hm : q.queue with
    | nil =>
      exact ⟨_, s, Lib.step_of_ok rfl (run_xQueuePeek_nil hn hq hm _),
        .peekNothing hnode (congrArg List.head? hm), .refl s, hw⟩
    | cons m rest =>
      exact ⟨_, s, Lib.step_of_ok rfl (run_xQueuePeek_cons hw hq hm hb),
        .peek hnode (congrArg List.head? hm), .refl s, hw⟩
  | messagesWaiting queue =>
    obtain ⟨q, hq⟩ := Option.isSome_iff_exists.mp hc
    exact ⟨_, s, Lib.step_of_ok rfl (run_uxQueueMessagesWaiting (hw.ne_nullptr hq) hq),
      .waiting (Lib.net_of_wellFormed hw hq) (hw.queue queue q hq).toNat_waiting, .refl s, hw⟩
  | spacesAvailable queue =>
    obtain ⟨q, hq⟩ := Option.isSome_iff_exists.mp hc
    exact ⟨_, s, Lib.step_of_ok rfl (run_uxQueueSpacesAvailable (hw.ne_nullptr hq) hq),
      .spaces (Lib.net_of_wellFormed hw hq) (hw.queue queue q hq).toNat_spaces, .refl s, hw⟩
  | _ => exact absurd hc id

/-! ## What the counts and the refusals say -/

/-- The counts of every queue are exact and add up to its length. -/
def Lib.CountsExact (s : Lib) : Prop :=
  ∀ queue q, s.lookup queue = some q → ∃ w f,
    s.Step (.messagesWaiting queue) (.returned (.count w)) s ∧
    s.Step (.spacesAvailable queue) (.returned (.count f)) s ∧
    w.toNat = q.queue.length ∧ w.toNat + f.toNat = q.queueLength.toNat

/-- A send fails exactly when the queue holds `queueLength` messages, a receive and a peek exactly
when it is empty. -/
def Lib.FailsExactly (s : Lib) : Prop :=
  ∀ queue q, s.lookup queue = some q →
    (∀ item e, ItemFits item q.itemSize → ∃ k s',
      s.Step (.send queue item (copyPosition e)) (.returned (.code k)) s' ∧
      (k = errQUEUE_FULL ↔ q.queue.length = q.queueLength.toNat)) ∧
    (∀ b : Bytes, q.itemSize.toNat ≤ b.length → ∃ k d s',
      s.Step (.receive queue (some b)) (.returned (.data k d)) s' ∧
      s.Step (.peek queue (some b)) (.returned (.data k d)) s ∧
      (k = pdFALSE ↔ q.queue = []))

/-- A call on a queue that is in no set leaves every other queue unchanged. -/
def Lib.OthersUnchanged (s : Lib) : Prop :=
  ∀ c r s' queue q, s.DequeCall c → c.queue? = some queue → s.lookup queue = some q →
    q.queueSetContainer = nullptr → s.Step c r s' → ∀ h, h ≠ queue → s'.lookup h = s.lookup h

theorem sendAnswer_eq_full_iff (b : Bool) : sendAnswer b = errQUEUE_FULL ↔ b = false := by
  cases b <;> decide

theorem Lib.WellFormed.countsExact {s : Lib} (hw : s.WellFormed) : s.CountsExact := by
  intro queue q hq
  have hn := hw.ne_nullptr hq
  have hqw := hw.queue queue q hq
  refine ⟨_, _, Lib.step_of_ok rfl (run_uxQueueMessagesWaiting hn hq),
    Lib.step_of_ok rfl (run_uxQueueSpacesAvailable hn hq), hqw.toNat_waiting, ?_⟩
  have := hqw.length_le
  rw [hqw.toNat_waiting, hqw.toNat_spaces]
  omega

theorem Lib.WellFormed.failsExactly {s : Lib} (hw : s.WellFormed) (hs : s.SetsLive) :
    s.FailsExactly := by
  intro queue q hq
  have hn := hw.ne_nullptr hq
  refine ⟨fun item e hi => ?_, fun b hb => ?_⟩
  · obtain ⟨a, s', hrun, hpost, -⟩ := run_xQueueGenericSend hw hs hq hi e
    refine ⟨sendAnswer a, s', Lib.step_of_ok rfl hrun, ?_⟩
    rw [sendAnswer_eq_full_iff]
    exact hpost.answer_eq_false_iff (Lib.net_of_wellFormed hw hq)
  · let answer (r : BaseType × Buffer) : Value := .data r.1 r.2
    cases hm : q.queue with
    | nil =>
      exact ⟨pdFALSE, some b, s,
        Lib.step_of_ok (f := answer) rfl (run_xQueueReceive_nil hn hq hm b),
        Lib.step_of_ok (f := answer) rfl (run_xQueuePeek_nil hn hq hm _), iff_of_true rfl rfl⟩
    | cons m rest =>
      exact ⟨pdTRUE, some (filled b m), _,
        Lib.step_of_ok (f := answer) rfl (run_xQueueReceive_cons hw hq hm hb),
        Lib.step_of_ok (f := answer) rfl (run_xQueuePeek_cons hw hq hm hb),
        iff_of_false pdTRUE_ne_pdFALSE (List.cons_ne_nil _ _)⟩

/-- Memories of one shape agree wherever their networks do. -/
theorem Lib.SameShape.lookup_eq {s s' : Lib} (h : s.SameShape s') (hw : s.WellFormed)
    (hw' : s'.WellFormed) {x : Handle} (hx : s'.net x = s.net x) : s'.lookup x = s.lookup x := by
  cases hq : s.lookup x with
  | none => exact (h.lookup_eq_none_iff x).mpr hq
  | some q =>
    obtain ⟨l, hq'⟩ := h.exists_lookup hq
    rw [Lib.net_of_wellFormed hw hq, Lib.net_of_wellFormed hw' hq'] at hx
    have hl : l = q.queue := congrArg (fun n => n.deque.items) (Option.some.inj hx)
    rw [hq', hl]

theorem Lib.WellFormed.othersUnchanged {s : Lib} (hw : s.WellFormed) (hs : s.SetsLive) :
    s.OthersUnchanged := by
  intro c r s' queue q hc hqueue hq hcont hstep h hh
  obtain ⟨r', s'', hstep', href, hshape, hw'⟩ := exists_refStep hw hs hc
  obtain ⟨rfl, rfl⟩ := hstep.deterministic hstep'
  refine hshape.lookup_eq hw hw' (href.frame hqueue (Lib.net_of_wellFormed hw hq) ?_ hh)
  exact FakeQueue.link_eq_none_iff.mpr hcont

/-! ## Programs -/

/-- **The queues refine bounded deques.** From every legal memory, every list of sends, receives,
peeks and counts on live queues has a run in which each call answers what the reference answers;
in every memory so reached the counts are exact, the refusals are those of a bounded deque, and a
call on a queue that is in no set leaves the other queues unchanged. -/
theorem queues_refine_deques {s : Lib} (hs : s.Legal) (cs : List Call)
    (hcs : ∀ c ∈ cs, s.DequeCall c) :
    ∃ tr s', tr.map Prod.fst = cs ∧ Run Lib.Step s tr s' ∧
      Run (RefStep s.itemSizeAt) s.net tr s'.net ∧
      s'.CountsExact ∧ s'.FailsExactly ∧ s'.OthersUnchanged := by
  have hstep : ∀ s₁ net c, (s.SameShape s₁ ∧ s₁.WellFormed ∧ net = s₁.net) → s.DequeCall c →
      ∃ r s₂ net₂, s₁.Step c r s₂ ∧ RefStep s.itemSizeAt net c r net₂ ∧
        (s.SameShape s₂ ∧ s₂.WellFormed ∧ net₂ = s₂.net) := by
    rintro s₁ _ c ⟨hshape, hw, rfl⟩ hc
    obtain ⟨r, s₂, hstep, href, hshape', hw'⟩ :=
      exists_refStep hw (hshape.setsLive hs.setsLive) (hshape.dequeCall hc)
    rw [show s₁.itemSizeAt = s.itemSizeAt from funext hshape.itemSizeAt_eq] at href
    exact ⟨r, s₂, s₂.net, hstep, href, hshape.trans hshape', hw', rfl⟩
  obtain ⟨tr, s', net', htr, hrun, href, hshape, hw', rfl⟩ :=
    Run.exists_simulating hstep ⟨.refl s, hs.wellFormed, rfl⟩ cs hcs
  have hsets := hshape.setsLive hs.setsLive
  exact ⟨tr, s', htr, hrun, href, hw'.countsExact, hw'.failsExactly hsets,
    hw'.othersUnchanged hsets⟩

theorem queues_refine_deques_queueAndSemaphore :
    ∃ tr s', tr.map Prod.fst = [.send 1 (some [7, 8]) queueSEND_TO_FRONT, .receive 1 (some [0]),
        .send 2 none queueSEND_TO_BACK, .spacesAvailable 2] ∧
      Run Lib.Step queueAndSemaphore tr s' ∧
      Run (RefStep queueAndSemaphore.itemSizeAt) queueAndSemaphore.net tr s'.net ∧
      s'.CountsExact ∧ s'.FailsExactly ∧ s'.OthersUnchanged :=
  queues_refine_deques queueAndSemaphore_legal _ (by
    simp only [List.mem_cons, List.not_mem_nil, or_false, forall_eq_or_imp, forall_eq]
    exact ⟨⟨by decide, ⟨.front, rfl⟩, by decide⟩, ⟨by decide, _, rfl, by decide⟩,
      ⟨by decide, ⟨.back, rfl⟩, by decide⟩, rfl⟩)

end FakeFreeRtos
