import FakeFreeRtos.Queue.Overwrite
import FakeFreeRtos.Queue.Refinement

/-!
# A queue of length 1 as a mailbox

A queue of length 1 should be a mailbox: one slot that holds the last message that was accepted and
not yet received (`Mailbox.Step`). An overwrite of the empty queue breaks this, since the code
removes the message that it replaces without looking whether there is one. `followsMailbox_iff`
says that nothing else does: a run follows the mailbox throughout exactly when no step overwrites
the queue while it is empty.
-/

namespace FakeFreeRtos

open Foundations Net

/-! ## The mailbox -/

/-- What a mailbox does: an overwrite always succeeds, a send succeeds when the slot is empty, a
receive empties the slot, a peek leaves it. The slot holds messages of `n` bytes. -/
inductive Mailbox.Step (queue : Handle) (n : UBaseType) :
    Option Bytes → Call → Reply → Option Bytes → Prop
  | overwrite (slot : Option Bytes) (item : Buffer) :
    Step queue n slot (.send queue item queueOVERWRITE) (.returned (.code pdPASS))
      (some (message item n))
  | accept (item : Buffer) (e : Side) :
    Step queue n none (.send queue item (copyPosition e)) (.returned (.code pdTRUE))
      (some (message item n))
  | refuse (m : Bytes) (item : Buffer) (e : Side) :
    Step queue n (some m) (.send queue item (copyPosition e)) (.returned (.code errQUEUE_FULL))
      (some m)
  | receive (m buffer : Bytes) :
    Step queue n (some m) (.receive queue (some buffer))
      (.returned (.data pdTRUE (some (filled buffer m)))) none
  | receiveNothing (buffer : Bytes) :
    Step queue n none (.receive queue (some buffer))
      (.returned (.data pdFALSE (some buffer))) none
  | peek (m buffer : Bytes) :
    Step queue n (some m) (.peek queue (some buffer))
      (.returned (.data pdTRUE (some (filled buffer m)))) (some m)
  | peekNothing (buffer : Bytes) :
    Step queue n none (.peek queue (some buffer)) (.returned (.data pdFALSE (some buffer))) none

/-- The sends, receives and peeks of `queue`, with buffers that hold a message of `n` bytes. -/
def Call.UsesMailbox (queue : Handle) (n : UBaseType) : Call → Prop
  | .send h item pos =>
    h = queue ∧ ItemFits item n ∧ (pos = queueOVERWRITE ∨ ∃ e, pos = copyPosition e)
  | .receive h buffer | .peek h buffer => h = queue ∧ ∃ b, buffer = some b ∧ n.toNat ≤ b.length
  | _ => False

/-- One such call. -/
def Lib.MailboxStep (queue : Handle) (n : UBaseType) (s : Lib) (c : Call) (r : Reply) (s' : Lib) :
    Prop := c.UsesMailbox queue n ∧ s.Step c r s'

/-- The queue holds what the slot holds, and counts 1 or 0. -/
structure Lib.HoldsSlot (s : Lib) (queue : Handle) (slot : Option Bytes) : Prop where
  messages : s.messagesAt queue = slot.toList
  waiting : EStateM.run (uxQueueMessagesWaiting queue) s = .ok (if slot.isSome then 1 else 0) s

/-- The slot at the start of a run. -/
def Lib.slotAt (s : Lib) (queue : Handle) : Option Bytes := (s.messagesAt queue).head?

/-- The run follows the mailbox: up to every moment, the calls and replies are those of the
mailbox, and the queue holds what its slot holds. -/
def FollowsMailbox (queue : Handle) (s : Lib) (tr : List (Call × Reply)) : Prop :=
  ∀ tr₁ tr₂ s₁, tr = tr₁ ++ tr₂ → Run (Lib.MailboxStep queue (s.itemSizeAt queue)) s tr₁ s₁ →
    ∃ slot, Run (Mailbox.Step queue (s.itemSizeAt queue)) (s.slotAt queue) tr₁ slot ∧
      s₁.HoldsSlot queue slot

/-- The call overwrites the queue while it is empty. -/
def Lib.OverwritesEmpty (queue : Handle) (s : Lib) (c : Call) : Prop :=
  s.messagesAt queue = [] ∧ ∃ item, c = .send queue item queueOVERWRITE

/-! ## Each step -/

/-- `queue` is live, of length 1 and item size `n`, and holds what the slot holds. -/
structure Lib.IsMailbox (s : Lib) (queue : Handle) (n : UBaseType) (slot : Option Bytes) :
    Prop where
  wellFormed : s.WellFormed
  setsLive : s.SetsLive
  live : ∃ q, s.lookup queue = some q ∧ q.queueLength = 1 ∧ q.itemSize = n ∧ q.queue = slot.toList

namespace Lib.IsMailbox

variable {s s' : Lib} {queue : Handle} {n : UBaseType} {slot : Option Bytes} {m : Bytes}
  {item : Buffer}

/-- Calls that keep the shape keep the mailbox. -/
theorem congr (h : s.IsMailbox queue n slot) (hshape : s.SameShape s') (hw : s'.WellFormed)
    {slot' : Option Bytes} (hmsg : s'.messagesAt queue = slot'.toList) :
    s'.IsMailbox queue n slot' := by
  obtain ⟨-, hsets, q, hq, hlen, hsize, -⟩ := h
  obtain ⟨l, hq'⟩ := hshape.exists_lookup hq
  rw [Lib.messagesAt_of_lookup hq'] at hmsg
  exact ⟨hw, hshape.setsLive hsets, _, hq', hlen, hsize, hmsg⟩

theorem holdsSlot (h : s.IsMailbox queue n slot) : s.HoldsSlot queue slot := by
  obtain ⟨hw, -, q, hq, -, -, hqueue⟩ := h
  refine ⟨(Lib.messagesAt_of_lookup hq).trans hqueue, ?_⟩
  rw [run_uxQueueMessagesWaiting (hw.ne_nullptr hq) hq, hqueue]
  cases slot <;> rfl

/-- An overwrite of the empty mailbox is undefined. -/
theorem overwrite_empty (h : s.IsMailbox queue n none) (hi : ItemFits item n) :
    s.Step (.send queue item queueOVERWRITE) (.left .undefined) s := by
  obtain ⟨hw, -, q, hq, hlen, rfl, hqueue⟩ := h
  exact Lib.step_of_error rfl (run_overwrite_empty (hw.ne_nullptr hq) hq hlen hqueue hi)

theorem overwrite (h : s.IsMailbox queue n (some m)) (hi : ItemFits item n) :
    ∃ s', s.Step (.send queue item queueOVERWRITE) (.returned (.code pdPASS)) s' ∧
      s'.IsMailbox queue n (some (message item n)) := by
  obtain ⟨hw, hsets, q, hq, hlen, rfl, hqueue⟩ := id h
  obtain ⟨s', hrun, hshape, hw', hmsg⟩ := exists_overwrite hw hsets hq hlen hqueue hi
  exact ⟨s', Lib.step_of_ok rfl hrun, h.congr hshape hw' hmsg⟩

/-- A send to the full mailbox is refused. -/
theorem refuse (h : s.IsMailbox queue n (some m)) (hi : ItemFits item n) (e : Side) :
    s.Step (.send queue item (copyPosition e)) (.returned (.code errQUEUE_FULL)) s := by
  obtain ⟨hw, -, q, hq, hlen, rfl, hqueue⟩ := h
  have hfull : q.queueLength.toNat ≤ q.queue.length := by
    rw [hlen, hqueue]
    rfl
  exact Lib.step_of_ok rfl ((run_xQueueGenericSend_eq ..).trans
    (run_xQueueGenericSendFuel_full (hw.ne_nullptr hq) hq hi e hfull _))

/-- A send to the empty mailbox fills it. -/
theorem accept (h : s.IsMailbox queue n none) (hi : ItemFits item n) (e : Side) :
    ∃ s', s.Step (.send queue item (copyPosition e)) (.returned (.code pdTRUE)) s' ∧
      s'.IsMailbox queue n (some (message item n)) := by
  obtain ⟨hw, hsets, q, hq, hlen, rfl, hqueue⟩ := id h
  obtain ⟨b, s', hrun, hpost, hshape, hw'⟩ := run_xQueueGenericSend hw hsets hq hi e
  have hnode := Lib.net_of_wellFormed hw hq
  have hlast : q.queue.length + 1 = q.queueLength.toNat := by
    rw [hlen, hqueue]
    rfl
  cases b with
  | false =>
    have hrefused : q.queue.length = q.queueLength.toNat :=
      (hpost.answer_eq_false_iff hnode).mp rfl
    omega
  | true =>
    obtain ⟨d, hd, hnode'⟩ := hpost.filled hnode hlast
    refine ⟨s', Lib.step_of_ok rfl hrun, h.congr hshape hw' ?_⟩
    rw [← Lib.itemsAt_net hw', itemsAt_of_node hnode', (BoundedDeque.push?_eq_some_iff.mp hd).2.2]
    have hitems : (q.node (hw.queue queue q hq).length_le).deque.items = [] := hqueue
    rw [hitems]
    cases e <;> rfl

/-- A receive hands out the message of the slot and empties it. -/
theorem receive (h : s.IsMailbox queue n (some m)) {buffer : Bytes} (hb : n.toNat ≤ buffer.length) :
    ∃ s', s.Step (.receive queue (some buffer))
        (.returned (.data pdTRUE (some (filled buffer m)))) s' ∧ s'.IsMailbox queue n none := by
  obtain ⟨hw, -, q, hq, -, rfl, hqueue⟩ := id h
  obtain ⟨-, -, hpop, -⟩ := hw.popped hq hqueue
  refine ⟨_, Lib.step_of_ok (c := .receive queue (some buffer)) rfl
    (run_xQueueReceive_cons hw hq hqueue hb), ?_⟩
  exact h.congr (.write hq _) hpop (Lib.messagesAt_of_lookup (Lib.lookup_write_self ..))

theorem receiveNothing (h : s.IsMailbox queue n none) (buffer : Bytes) :
    s.Step (.receive queue (some buffer)) (.returned (.data pdFALSE (some buffer))) s := by
  obtain ⟨hw, -, q, hq, -, -, hqueue⟩ := h
  exact Lib.step_of_ok (c := .receive queue (some buffer)) rfl
    (run_xQueueReceive_nil (hw.ne_nullptr hq) hq hqueue buffer)

/-- A peek hands out the message of the slot and leaves it. -/
theorem peek (h : s.IsMailbox queue n (some m)) {buffer : Bytes} (hb : n.toNat ≤ buffer.length) :
    s.Step (.peek queue (some buffer)) (.returned (.data pdTRUE (some (filled buffer m)))) s := by
  obtain ⟨hw, -, q, hq, -, rfl, hqueue⟩ := h
  exact Lib.step_of_ok (c := .peek queue (some buffer)) rfl
    (run_xQueuePeek_cons hw hq hqueue hb)

theorem peekNothing (h : s.IsMailbox queue n none) (buffer : Bytes) :
    s.Step (.peek queue (some buffer)) (.returned (.data pdFALSE (some buffer))) s := by
  obtain ⟨hw, -, q, hq, -, -, hqueue⟩ := h
  exact Lib.step_of_ok (c := .peek queue (some buffer)) rfl
    (run_xQueuePeek_nil (hw.ne_nullptr hq) hq hqueue (some buffer))

/-- **Each call but an overwrite of the empty queue is a step of the mailbox.** -/
theorem exists_step (h : s.IsMailbox queue n slot) {c : Call} (hc : c.UsesMailbox queue n)
    (hnot : ¬ s.OverwritesEmpty queue c) :
    ∃ r s' slot', s.Step c r s' ∧ Mailbox.Step queue n slot c r slot' ∧
      s'.IsMailbox queue n slot' := by
  cases c with
  | send x item pos =>
    obtain ⟨rfl, hi, rfl | ⟨e, rfl⟩⟩ := hc
    · cases slot with
      | none => exact absurd ⟨h.holdsSlot.messages, item, rfl⟩ hnot
      | some m =>
        obtain ⟨s', hstep, h'⟩ := h.overwrite hi
        exact ⟨_, s', _, hstep, .overwrite (some m) item, h'⟩
    · cases slot with
      | none =>
        obtain ⟨s', hstep, h'⟩ := h.accept hi e
        exact ⟨_, s', _, hstep, .accept item e, h'⟩
      | some m => exact ⟨_, s, _, h.refuse hi e, .refuse m item e, h⟩
  | receive x buffer =>
    obtain ⟨rfl, b, rfl, hb⟩ := hc
    cases slot with
    | none => exact ⟨_, s, _, h.receiveNothing b, .receiveNothing b, h⟩
    | some m =>
      obtain ⟨s', hstep, h'⟩ := h.receive hb
      exact ⟨_, s', _, hstep, .receive m b, h'⟩
  | peek x buffer =>
    obtain ⟨rfl, b, rfl, hb⟩ := hc
    cases slot with
    | none => exact ⟨_, s, _, h.peekNothing b, .peekNothing b, h⟩
    | some m => exact ⟨_, s, _, h.peek hb, .peek m b, h⟩
  | _ => exact hc.elim

end Lib.IsMailbox

/-! ## Runs -/

section Run

variable {s s' : Lib} {queue : Handle} {n : UBaseType} {slot : Option Bytes} {c : Call} {r : Reply}
  {tr : List (Call × Reply)}

theorem Lib.MailboxStep.deterministic {s₁ s₂ : Lib} (h₁ : s.MailboxStep queue n c r s₁)
    (h₂ : s.MailboxStep queue n c r s₂) : s₁ = s₂ := (h₁.2.deterministic h₂.2).2

/-- A run without an overwrite of the empty queue is a run of the mailbox. -/
theorem exists_mailbox_run (hrun : Run (Lib.MailboxStep queue n) s tr s')
    (h₀ : s.IsMailbox queue n slot)
    (hok : EveryStep (Lib.MailboxStep queue n) (fun s c => ¬ s.OverwritesEmpty queue c) s tr) :
    ∃ slot', Run (Mailbox.Step queue n) slot tr slot' ∧ s'.IsMailbox queue n slot' := by
  induction hrun generalizing slot with
  | nil => exact ⟨slot, .nil _, h₀⟩
  | cons hstep _ ih =>
    rw [everyStep_cons (fun _ _ => Lib.MailboxStep.deterministic) hstep] at hok
    obtain ⟨r', s₁, slot₁, hstep', hmailbox, h₁⟩ := h₀.exists_step hstep.1 hok.1
    obtain ⟨rfl, rfl⟩ := hstep'.deterministic hstep.2
    obtain ⟨slot', hrun', h'⟩ := ih h₁ hok.2
    exact ⟨slot', .cons hmailbox hrun', h'⟩

/-- A mailbox never leaves a call early. -/
theorem mailbox_returned {slot' : Option Bytes}
    (h : Run (Mailbox.Step queue n) slot tr slot') : ∀ cr ∈ tr, ∃ v, cr.2 = .returned v := by
  induction h with
  | nil => exact fun cr hcr => absurd hcr List.not_mem_nil
  | cons hstep _ ih =>
    intro cr hcr
    rcases List.mem_cons.mp hcr with rfl | hcr
    · cases hstep <;> exact ⟨_, rfl⟩
    · exact ih cr hcr

/-- An overwrite of the empty queue does. -/
theorem everyStep_of_returned (hrun : Run (Lib.MailboxStep queue n) s tr s')
    (h₀ : s.IsMailbox queue n slot) (hret : ∀ cr ∈ tr, ∃ v, cr.2 = .returned v) :
    EveryStep (Lib.MailboxStep queue n) (fun s c => ¬ s.OverwritesEmpty queue c) s tr := by
  induction hrun generalizing slot with
  | nil => exact everyStep_nil
  | @cons s s₁ _ c r tr hstep _ ih =>
    rw [List.forall_mem_cons] at hret
    rw [everyStep_cons (fun _ _ => Lib.MailboxStep.deterministic) hstep]
    have hnot : ¬ s.OverwritesEmpty queue c := by
      rintro ⟨hempty, item, rfl⟩
      obtain ⟨v, rfl⟩ := hret.1
      rw [h₀.holdsSlot.messages] at hempty
      obtain rfl : slot = none := Option.toList_eq_nil_iff.mp hempty
      cases (hstep.2.deterministic (h₀.overwrite_empty hstep.1.2.1)).1
    obtain ⟨r', s₂, slot₁, hstep', -, h₁⟩ := h₀.exists_step hstep.1 hnot
    obtain ⟨rfl, rfl⟩ := hstep'.deterministic hstep.2
    exact ⟨hnot, ih h₁ hret.2⟩

/-- A queue of length 1 is a mailbox that holds what it holds. -/
theorem Lib.Legal.isMailbox (hs : s.Legal) (hlen : s.lengthAt queue = 1) :
    s.IsMailbox queue (s.itemSizeAt queue) (s.slotAt queue) := by
  rw [Lib.lengthAt] at hlen
  cases hq : s.lookup queue with
  | none =>
    rw [hq] at hlen
    cases hlen
  | some q =>
    rw [hq, Option.elim_some] at hlen
    have hle := (hs.wellFormed.queue queue q hq).length_le
    refine ⟨hs.wellFormed, hs.setsLive, q, hq, UInt8.toNat_inj.mp hlen,
      (Lib.itemSizeAt_of_lookup hq).symm, ?_⟩
    rw [Lib.slotAt, Lib.messagesAt_of_lookup hq]
    rw [hlen] at hle
    rcases hqueue : q.queue with _ | ⟨m, _ | ⟨m', l⟩⟩
    · rfl
    · rfl
    · rw [hqueue, List.length_cons, List.length_cons] at hle
      omega

end Run

/-- **A queue of length 1 is a mailbox, unless it is overwritten while it is empty.** From every
legal memory, empty or full, for every item size and every run of overwrites, sends, receives and
peeks of the queue: the run follows the mailbox throughout if and only if no step overwrites the
queue while it is empty. -/
theorem followsMailbox_iff {s s' : Lib} (hs : s.Legal) {queue : Handle}
    (hlen : s.lengthAt queue = 1) {tr : List (Call × Reply)}
    (hrun : Run (Lib.MailboxStep queue (s.itemSizeAt queue)) s tr s') :
    FollowsMailbox queue s tr ↔ EveryStep (Lib.MailboxStep queue (s.itemSizeAt queue))
      (fun s c => ¬ s.OverwritesEmpty queue c) s tr := by
  have h₀ := hs.isMailbox hlen
  constructor
  · intro hfollows
    obtain ⟨slot, hmailbox, -⟩ := hfollows tr [] s' (List.append_nil tr).symm hrun
    exact everyStep_of_returned hrun h₀ (mailbox_returned hmailbox)
  · rintro hok tr₁ tr₂ s₁ rfl hrun₁
    obtain ⟨slot, hmailbox, h₁⟩ := exists_mailbox_run hrun₁ h₀ hok.of_append
    exact ⟨slot, hmailbox, h₁.holdsSlot⟩

/-- A queue of length 1 for messages of one byte, at 1. -/
def singleByte : Lib := Lib.init.write 1 (freshQueue 1 1 queueQUEUE_TYPE_BASE)

theorem singleByte_legal : singleByte.Legal :=
  Lib.legal_init.create (by simp [Lib.Fresh, nullptr]) 1 1 (by decide)

/-- The queue is filled, overwritten, and received from. -/
theorem followsMailbox_overwritten : ∃ s', Run (Lib.MailboxStep 1 1) singleByte
      [(.send 1 (some [7]) queueSEND_TO_BACK, .returned (.code pdTRUE)),
        (.send 1 (some [8]) queueOVERWRITE, .returned (.code pdPASS)),
        (.receive 1 (some [0]), .returned (.data pdTRUE (some [8])))] s' ∧
    FollowsMailbox 1 singleByte
      [(.send 1 (some [7]) queueSEND_TO_BACK, .returned (.code pdTRUE)),
        (.send 1 (some [8]) queueOVERWRITE, .returned (.code pdPASS)),
        (.receive 1 (some [0]), .returned (.data pdTRUE (some [8])))] := by
  let q : FakeQueue := freshQueue 1 1 queueQUEUE_TYPE_BASE
  let s₁ : Lib := singleByte.write 1 { q with queue := [[7]] }
  let s₂ : Lib := s₁.write 1 { q with queue := [[8]] }
  let s₃ : Lib := s₂.write 1 q
  have h₁ : singleByte.MailboxStep 1 1 (.send 1 (some [7]) queueSEND_TO_BACK)
      (.returned (.code pdTRUE)) s₁ :=
    ⟨⟨rfl, by decide, .inr ⟨.back, rfl⟩⟩, by decide +kernel⟩
  have h₂ : s₁.MailboxStep 1 1 (.send 1 (some [8]) queueOVERWRITE) (.returned (.code pdPASS)) s₂ :=
    ⟨⟨rfl, by decide, .inl rfl⟩, by decide +kernel⟩
  have h₃ : s₂.MailboxStep 1 1 (.receive 1 (some [0])) (.returned (.data pdTRUE (some [8]))) s₃ :=
    ⟨⟨rfl, [0], rfl, by decide⟩, by decide +kernel⟩
  have hrun := Run.cons h₁ (.cons h₂ (.cons h₃ (.nil s₃)))
  have hlen : singleByte.lengthAt 1 = 1 := by decide +kernel
  have hok := everyStep_of_returned hrun (singleByte_legal.isMailbox hlen) (by simp)
  exact ⟨s₃, hrun, (followsMailbox_iff singleByte_legal hlen hrun).mpr hok⟩

/-- An overwrite of the queue that was never written removes a message from the empty deque. -/
theorem not_followsMailbox_overwritten :
    Run (Lib.MailboxStep 1 1) singleByte [(.send 1 (some [7]) queueOVERWRITE, .left .undefined)]
      singleByte ∧
    ¬ FollowsMailbox 1 singleByte [(.send 1 (some [7]) queueOVERWRITE, .left .undefined)] := by
  have hrun : Run (Lib.MailboxStep 1 1) singleByte
      [(.send 1 (some [7]) queueOVERWRITE, .left .undefined)] singleByte :=
    .cons ⟨⟨rfl, by decide, .inl rfl⟩, by decide +kernel⟩ (.nil _)
  refine ⟨hrun, fun hfollows => ?_⟩
  obtain ⟨slot, hmailbox, -⟩ := hfollows _ [] _ (List.append_nil _).symm hrun
  obtain ⟨v, hv⟩ := mailbox_returned hmailbox _ List.mem_cons_self
  cases hv

end FakeFreeRtos
