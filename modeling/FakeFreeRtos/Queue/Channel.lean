import FakeFreeRtos.Queue.Frame
import FakeFreeRtos.Queue.Receive

/-!
# Queues as channels

A queue that is sent to at the back and received from at the front, while other tasks do what they
like elsewhere, is a channel: whatever is sent and accepted is received once, in the order in which
it was sent, or still waits (`fifo_channel`). The queue may move in and out of sets, and its sends
notify them; a notification never comes back to the queue itself, which is not used as a set.
-/

namespace FakeFreeRtos

open Foundations

/-! ## One send, one receive -/

/-- The nested calls of a send trip no assertion: they pass a handle, to a set that is not null. -/
theorem not_defined_of_nested_error {fuel : ℕ} {s s' : Lib} {queue : Handle} {item : Buffer}
    {x : Exit} (hn : queue ≠ nullptr) (hi : item ≠ none) (e : Side)
    (h : EStateM.run (xQueueGenericSendFuel fuel queue item (copyPosition e)) s = .error x s') :
    ¬ (Reply.left x).Defined := by
  induction fuel generalizing queue item s e with
  | zero =>
    cases h
    exact fun hd => hd.2 rfl
  | succ fuel ih =>
    rcases run_xQueueGenericSendFuel_cases fuel s queue item (copyPosition e) with
      ⟨y, hy, hrun⟩ | ⟨-, hrun⟩ | ⟨q, l, -, -, -, -, hrun⟩ <;> rw [hrun] at h
    · cases h
      rcases hy with rfl | ⟨-, hnull | hnone | hpos⟩
      · exact fun hd => hd.1 rfl
      · exact absurd hnull hn
      · exact absurd hnone hi
      · exact absurd rfl (hpos e)
    · cases h
    · split at h
      · rename_i hc
        cases hnested : EStateM.run (xQueueGenericSendFuel fuel q.queueSetContainer
            (some (handleBytes queue)) queueSEND_TO_BACK) (s.write queue { q with queue := l }) with
        | ok b s₁ =>
          rw [run_map, hnested] at h
          cases h
        | error y s₁ =>
          rw [run_map, hnested] at h
          cases h
          exact ih hc (Option.some_ne_none _) .back hnested
      · cases h

section Steps

variable {s s' : Lib} {queue : Handle} {r : Reply}

/-- A send that stores its message and then notifies the set, if any: it answers pdTRUE, and the
queue, which has no members, is left with the message. -/
theorem Lib.Step.stored {item : Buffer} {pos : BaseType} {q : FakeQueue} {l : List Bytes}
    {fuel : ℕ} (hstep : s.Step (.send queue item pos) r s') (hd : r.Defined)
    (hno : s.NoMember queue) (hq : s.lookup queue = some q)
    (hrun : EStateM.run (xQueueGenericSend queue item pos) s =
      if q.queueSetContainer ≠ nullptr then
        EStateM.run ((fun _ => pdTRUE) <$> xQueueGenericSendFuel fuel q.queueSetContainer
          (some (handleBytes queue)) queueSEND_TO_BACK) (s.write queue { q with queue := l })
      else .ok pdTRUE (s.write queue { q with queue := l })) :
    r = .returned (.code pdTRUE) ∧ s'.lookup queue = some { q with queue := l } ∧
      s'.NoMember queue := by
  have hcont : q.queueSetContainer ≠ queue := hno queue q hq
  have hno' : (s.write queue { q with queue := l }).NoMember queue := hno.write queue hcont
  split at hrun
  · -- the set that is notified is another queue
    rename_i hc
    have hspares := spares_xQueueGenericSendFuel hcont fuel (some (handleBytes queue))
      queueSEND_TO_BACK (s.write queue { q with queue := l }) hno'
    rw [run_map] at hrun
    cases hnested : EStateM.run (xQueueGenericSendFuel fuel q.queueSetContainer
        (some (handleBytes queue)) queueSEND_TO_BACK) (s.write queue { q with queue := l }) with
    | ok b s₁ =>
      rw [hnested] at hrun hspares
      obtain ⟨rfl, rfl⟩ := hstep.deterministic (Lib.step_of_ok rfl hrun)
      exact ⟨rfl, hspares.2.trans (Lib.lookup_write_self ..), hspares.1⟩
    | error e s₁ =>
      rw [hnested] at hrun
      obtain ⟨rfl, rfl⟩ := hstep.deterministic (Lib.step_of_error rfl hrun)
      exact absurd hd (not_defined_of_nested_error hc (Option.some_ne_none _) .back hnested)
  · obtain ⟨rfl, rfl⟩ := hstep.deterministic (Lib.step_of_ok rfl hrun)
    exact ⟨rfl, Lib.lookup_write_self .., hno'⟩

/-- A send to a queue without members: it leaves early, or finds the queue full, or stores its
message. -/
theorem Lib.Step.send_cases {item : Buffer} {pos : BaseType}
    (hstep : s.Step (.send queue item pos) r s') (hd : r.Defined) (hno : s.NoMember queue) :
    (∃ e, r = .left e ∧ s' = s) ∨ (r = .returned (.code errQUEUE_FULL) ∧ s' = s) ∨
    ∃ q l, s.lookup queue = some q ∧ ItemFits item q.itemSize ∧
      Stores q (message item q.itemSize) pos l ∧ r = .returned (.code pdTRUE) ∧
      s'.lookup queue = some { q with queue := l } ∧ s'.NoMember queue := by
  have hexec := run_xQueueGenericSend_eq s queue item pos
  rcases run_xQueueGenericSendFuel_cases (s.freeSlots + 1) s queue item pos with
    ⟨x, -, hrun⟩ | ⟨-, hrun⟩ | ⟨q, l, hn, hq, hi, hst, hrun⟩
  · obtain ⟨rfl, rfl⟩ := hstep.deterministic (Lib.step_of_error rfl (hexec.trans hrun))
    exact .inl ⟨x, rfl, rfl⟩
  · obtain ⟨rfl, rfl⟩ := hstep.deterministic (Lib.step_of_ok rfl (hexec.trans hrun))
    exact .inr (.inl ⟨rfl, rfl⟩)
  · exact .inr (.inr ⟨q, l, hq, hi, hst, hstep.stored hd hno hq (hexec.trans hrun)⟩)

/-- A send of a message that fits, to the back or the front, is refused only by a full queue. -/
theorem Lib.Step.send_fitting {item : Buffer} {e : Side} {q : FakeQueue}
    (hstep : s.Step (.send queue item (copyPosition e)) r s') (hd : r.Defined)
    (hno : s.NoMember queue) (hn : queue ≠ nullptr) (hq : s.lookup queue = some q)
    (hi : ItemFits item q.itemSize) :
    (q.queueLength.toNat ≤ q.queue.length ∧ r = .returned (.code errQUEUE_FULL) ∧ s' = s) ∨
    (q.queue.length < q.queueLength.toNat ∧ r = .returned (.code pdTRUE) ∧
      s'.lookup queue = some { q with
        queue := BoundedDeque.pushItems q.queue e (message item q.itemSize) } ∧
      s'.NoMember queue) := by
  have hexec := run_xQueueGenericSend_eq s queue item (copyPosition e)
  rcases le_or_gt q.queueLength.toNat q.queue.length with hfull | hroom
  · have hrun := hexec.trans (run_xQueueGenericSendFuel_full hn hq hi e hfull _)
    obtain ⟨rfl, rfl⟩ := hstep.deterministic (Lib.step_of_ok rfl hrun)
    exact .inl ⟨hfull, rfl, rfl⟩
  · have hrun := hexec.trans (run_xQueueGenericSendFuel_room hn hq hi e hroom _)
    exact .inr ⟨hroom, hstep.stored hd hno hq hrun⟩

/-- A give from an interrupt is a send of no item, unless the queue is a recursive mutex. -/
theorem Lib.Step.send_of_giveFromISR {q : FakeQueue} (hstep : s.Step (.giveFromISR queue) r s')
    (hn : queue ≠ nullptr) (hq : s.lookup queue = some q)
    (ht : q.queueType ≠ queueQUEUE_TYPE_RECURSIVE_MUTEX) :
    s.Step (.send queue none queueSEND_TO_BACK) r s' := by
  unfold Lib.Step at hstep ⊢
  rw [← hstep, Call.exec, Call.exec, run_map, run_map, run_xQueueGiveFromISR_eq hn hq ht]
  rfl

/-- The queue at `item` is empty and moves to the set `set`, or out of its set, or nothing
happens. -/
def Lib.Relinks (s : Lib) (item set : Handle) (s' : Lib) : Prop :=
  s' = s ∨ ∃ q, s.lookup item = some q ∧ q.queue = [] ∧
    s' = s.write item { q with queueSetContainer := set }

theorem Lib.Step.addToSet_relinks {item set : Handle} (hstep : s.Step (.addToSet item set) r s') :
    s.Relinks item set s' := by
  rcases run_xQueueAddToSet_cases s item set with
    hrun | ⟨-, -, hrun⟩ | hrun | ⟨q, -, -, hq, -, he, hrun⟩
  · exact .inl (hstep.deterministic (Lib.step_of_error rfl hrun)).2
  · exact .inl (hstep.deterministic (Lib.step_of_error rfl hrun)).2
  · exact .inl (hstep.deterministic (Lib.step_of_ok rfl hrun)).2
  · exact .inr ⟨q, hq, he, (hstep.deterministic (Lib.step_of_ok rfl hrun)).2⟩

theorem Lib.Step.removeFromSet_relinks {item set : Handle}
    (hstep : s.Step (.removeFromSet item set) r s') : s.Relinks item nullptr s' := by
  rcases run_xQueueRemoveFromSet_cases s item set with
    hrun | ⟨-, -, hrun⟩ | hrun | ⟨q, -, -, hq, -, he, hrun⟩
  · exact .inl (hstep.deterministic (Lib.step_of_error rfl hrun)).2
  · exact .inl (hstep.deterministic (Lib.step_of_error rfl hrun)).2
  · exact .inl (hstep.deterministic (Lib.step_of_ok rfl hrun)).2
  · exact .inr ⟨q, hq, he, (hstep.deterministic (Lib.step_of_ok rfl hrun)).2⟩

/-- A receive leaves early, or finds the queue empty, or takes the first message. -/
theorem Lib.Step.receive_cases {buffer : Buffer} (hstep : s.Step (.receive queue buffer) r s') :
    (∃ e, r = .left e ∧ s' = s) ∨ (r = .returned (.data pdFALSE buffer) ∧ s' = s) ∨
    ∃ q m rest b, s.lookup queue = some q ∧ q.queue = m :: rest ∧
      EStateM.run (memcpy buffer (some m) q.itemSize.toNat) s = .ok b s ∧
      r = .returned (.data pdTRUE b) ∧ s' = s.write queue { q with queue := rest } := by
  by_cases hn : queue = nullptr
  · have hrun : EStateM.run (xQueueReceive queue buffer) s = .error .assertFailed s := by
      simp [xQueueReceive, hn]
    obtain ⟨rfl, rfl⟩ := hstep.deterministic (Lib.step_of_error rfl hrun)
    exact .inl ⟨_, rfl, rfl⟩
  cases buffer with
  | none =>
    have hrun : EStateM.run (xQueueReceive queue none) s = .error .assertFailed s := by
      simp [xQueueReceive, hn]
    obtain ⟨rfl, rfl⟩ := hstep.deterministic (Lib.step_of_error rfl hrun)
    exact .inl ⟨_, rfl, rfl⟩
  | some buffer =>
    have heq := run_xQueueReceive_eq (s := s) hn buffer
    rcases run_internalQueueReceive_cases s queue (some buffer) with
      ⟨x, hrun⟩ | hrun | ⟨q, m, rest, b, -, hq, hm, hcpy, hrun⟩
    · obtain ⟨rfl, rfl⟩ := hstep.deterministic (Lib.step_of_error rfl (heq.trans hrun))
      exact .inl ⟨_, rfl, rfl⟩
    · obtain ⟨rfl, rfl⟩ := hstep.deterministic (Lib.step_of_ok rfl (heq.trans hrun))
      exact .inr (.inl ⟨rfl, rfl⟩)
    · obtain ⟨rfl, rfl⟩ := hstep.deterministic (Lib.step_of_ok rfl (heq.trans hrun))
      exact .inr (.inr ⟨q, m, rest, b, hq, hm, hcpy, rfl, rfl⟩)

/-- The first bytes of a buffer that a message was copied to are the message. -/
theorem take_of_memcpy {buffer b : Buffer} {m : Bytes} {n : ℕ} (hm : m.length = n)
    (h : EStateM.run (memcpy buffer (some m) n) s = .ok b s) : (b.getD []).take n = m := by
  by_cases hn : n = 0
  · subst hn
    rw [List.take_zero, List.length_eq_zero_iff.mp hm]
  · cases buffer with
    | none => simp [memcpy, hn] at h
    | some d =>
      by_cases hd : n ≤ d.length
      · rw [run_memcpy hd hm.ge] at h
        cases h
        rw [Option.getD_some, ← hm, List.take_length, List.take_left']
        rfl
      · simp [memcpy, hn, hd] at h

end Steps

/-! ## The channel -/

/-- The calls of the tasks at the two ends, which may also look at the queue and move it in and
out of sets. -/
def Call.UsesChannel (queue : Handle) : Call → Prop
  | .send queue' _ pos => queue' = queue ∧ pos = queueSEND_TO_BACK
  | .receive queue' _ | .peek queue' _ | .messagesWaiting queue' | .spacesAvailable queue' =>
    queue' = queue
  | .addToSet item set | .removeFromSet item set => item = queue ∧ set ≠ queue
  | _ => False

/-- A step of a program that uses the queue as a channel. -/
def Lib.ChannelStep (queue : Handle) (s : Lib) (c : Call) (r : Reply) (s' : Lib) : Prop :=
  Lib.UsesOnly queue (Call.UsesChannel queue) s c r s' ∧ r.Defined

/-- The message that a call sent, if it was accepted. -/
def sentOver (queue : Handle) (size : UBaseType) : Call × Reply → List Bytes
  | (.send queue' item _, .returned (.code k)) =>
    if queue' = queue ∧ k = pdTRUE then [message item size] else []
  | _ => []

/-- The message that a call received, at the start of its buffer. -/
def receivedOver (queue : Handle) (size : UBaseType) : Call × Reply → List Bytes
  | (.receive queue' _, .returned (.data k buffer)) =>
    if queue' = queue ∧ k = pdTRUE then [(buffer.getD []).take size.toNat] else []
  | _ => []

/-- The queue has messages of `size` bytes, and is not used as a set. -/
structure Lib.IsChannel (s : Lib) (queue : Handle) (size : UBaseType) : Prop where
  ne_nullptr : queue ≠ nullptr
  noMember : s.NoMember queue
  live : ∃ q, s.lookup queue = some q ∧ q.itemSize = size ∧ ∀ m ∈ q.queue, m.length = size.toNat

namespace Lib.IsChannel

variable {s s' : Lib} {queue : Handle} {size : UBaseType} {c : Call} {r : Reply}

/-- The queue at the end of the step has these messages. -/
theorem write (h : s.IsChannel queue size) {q : FakeQueue} {l : List Bytes}
    (hq : s.lookup queue = some q) (hl : ∀ m ∈ l, m.length = size.toNat)
    (hlookup : s'.lookup queue = some { q with queue := l }) (hno : s'.NoMember queue) :
    s'.IsChannel queue size ∧ s'.messagesAt queue = l := by
  obtain ⟨q', hq', hsize, -⟩ := h.live
  obtain rfl : q = q' := Option.some.inj (hq.symm.trans hq')
  exact ⟨⟨h.ne_nullptr, hno, _, hlookup, hsize, hl⟩, Lib.messagesAt_of_lookup hlookup⟩

/-- A call that leaves the queue alone. -/
theorem idle (h : s.IsChannel queue size) (hno : s'.NoMember queue)
    (hlookup : s'.lookup queue = s.lookup queue) (hsent : sentOver queue size (c, r) = [])
    (hreceived : receivedOver queue size (c, r) = []) :
    s'.IsChannel queue size ∧ s.messagesAt queue ++ sentOver queue size (c, r) =
      receivedOver queue size (c, r) ++ s'.messagesAt queue := by
  refine ⟨⟨h.ne_nullptr, hno, h.live.imp fun q hq => ⟨hlookup.trans hq.1, hq.2⟩⟩, ?_⟩
  rw [hsent, hreceived, List.append_nil, List.nil_append, Lib.messagesAt, Lib.messagesAt, hlookup]

theorem send (h : s.IsChannel queue size) {item : Buffer}
    (hstep : s.Step (.send queue item queueSEND_TO_BACK) r s') (hd : r.Defined) :
    s'.IsChannel queue size ∧
      s.messagesAt queue ++ sentOver queue size (.send queue item queueSEND_TO_BACK, r) =
        s'.messagesAt queue := by
  rcases hstep.send_cases hd h.noMember with
    ⟨e, rfl, rfl⟩ | ⟨rfl, rfl⟩ | ⟨q, l, hq, hi, hst, rfl, hlookup, hno⟩
  · exact h.idle h.noMember rfl rfl rfl
  · exact h.idle h.noMember rfl (if_neg fun hk => absurd hk.2 (by decide)) rfl
  · have hmessages := Lib.messagesAt_of_lookup hq
    obtain ⟨q', hq', hsize, hlen⟩ := h.live
    obtain rfl : q = q' := Option.some.inj (hq.symm.trans hq')
    obtain rfl : l = q.queue ++ [message item q.itemSize] := by
      rcases hst with ⟨e, he, -, rfl⟩ | ⟨hpos, -⟩
      · obtain rfl : Side.back = e := copyPosition_injective he
        rfl
      · exact absurd hpos (by decide)
    have hall : ∀ m ∈ q.queue ++ [message item q.itemSize], m.length = size.toNat := by
      intro m hm
      rcases List.mem_append.mp hm with hm | hm
      · exact hlen m hm
      · rw [List.mem_singleton.mp hm, length_message hi, hsize]
    obtain ⟨hchannel, hmessages'⟩ := h.write hq hall hlookup hno
    refine ⟨hchannel, ?_⟩
    rw [hmessages', hmessages, hsize, sentOver, if_pos ⟨rfl, rfl⟩]

theorem receive (h : s.IsChannel queue size) {buffer : Buffer}
    (hstep : s.Step (.receive queue buffer) r s') :
    s'.IsChannel queue size ∧ s.messagesAt queue =
      receivedOver queue size (.receive queue buffer, r) ++ s'.messagesAt queue := by
  rcases hstep.receive_cases with
    ⟨e, rfl, rfl⟩ | ⟨rfl, rfl⟩ | ⟨q, m, rest, b, hq, hm, hcpy, rfl, rfl⟩
  · exact ⟨h, rfl⟩
  · refine ⟨h, ?_⟩
    rw [receivedOver, if_neg fun hk => absurd hk.2 (by decide), List.nil_append]
  · have hmessages := Lib.messagesAt_of_lookup hq
    obtain ⟨q', hq', hsize, hlen⟩ := h.live
    obtain rfl : q = q' := Option.some.inj (hq.symm.trans hq')
    have hall := List.forall_mem_cons.mp (hm ▸ hlen)
    obtain ⟨hchannel, hmessages'⟩ := h.write hq hall.2 (Lib.lookup_write_self ..)
      (h.noMember.write queue (h.noMember queue q hq))
    refine ⟨hchannel, ?_⟩
    rw [hmessages, hmessages', hm, receivedOver, if_pos ⟨rfl, rfl⟩,
      take_of_memcpy hall.1 (hsize ▸ hcpy)]
    rfl

/-- The queue is put in a set, which is another queue, or taken out. -/
theorem relinks (h : s.IsChannel queue size) {set : Handle} (hset : set ≠ queue)
    (hs : s.Relinks queue set s') :
    s'.IsChannel queue size ∧ s.messagesAt queue = s'.messagesAt queue := by
  rcases hs with rfl | ⟨q, hq, -, rfl⟩
  · exact ⟨h, rfl⟩
  · obtain ⟨q', hq', hsize, hlen⟩ := h.live
    obtain rfl : q = q' := Option.some.inj (hq.symm.trans hq')
    have hlookup : (s.write queue { q with queueSetContainer := set }).lookup queue = _ :=
      Lib.lookup_write_self ..
    refine ⟨⟨h.ne_nullptr, h.noMember.write queue hset, _, hlookup, hsize, hlen⟩, ?_⟩
    rw [Lib.messagesAt_of_lookup hq, Lib.messagesAt_of_lookup hlookup]

/-- A call that only reads. -/
theorem read (h : s.IsChannel queue size) (hstep : s.Step c r s') (hreads : Ensures Eq c.exec) :
    s'.IsChannel queue size ∧ s.messagesAt queue = s'.messagesAt queue := by
  obtain rfl : s = s' := hstep.finalState_eq ▸ hreads s
  exact ⟨h, rfl⟩

/-- **Every step conserves the messages**, in their order. -/
theorem step (h : s.IsChannel queue size) (hstep : s.ChannelStep queue c r s') :
    s'.IsChannel queue size ∧ s.messagesAt queue ++ sentOver queue size (c, r) =
      receivedOver queue size (c, r) ++ s'.messagesAt queue := by
  obtain ⟨huses, hd⟩ := hstep
  rcases huses.cases h.ne_nullptr h.noMember with ⟨hc, hs⟩ | ⟨hh, hno, hlookup⟩
  · cases c with
    | send queue' item pos =>
      obtain ⟨rfl, rfl⟩ := hc
      exact h.send hs hd
    | receive queue' buffer =>
      obtain rfl := hc
      simpa [sentOver] using h.receive hs
    | peek =>
      simpa [sentOver, receivedOver] using h.read hs (.map _ (ensures_xQueuePeek _ _))
    | messagesWaiting =>
      simpa [sentOver, receivedOver] using h.read hs (.map _ (ensures_uxQueueMessagesWaiting _))
    | spacesAvailable =>
      simpa [sentOver, receivedOver] using h.read hs (.map _ (ensures_uxQueueSpacesAvailable _))
    | addToSet item set =>
      obtain ⟨rfl, hset⟩ := hc
      simpa [sentOver, receivedOver] using h.relinks hset hs.addToSet_relinks
    | removeFromSet item set =>
      obtain ⟨rfl, -⟩ := hc
      simpa [sentOver, receivedOver] using h.relinks h.ne_nullptr.symm hs.removeFromSet_relinks
    | _ => exact absurd hc id
  · refine h.idle hno hlookup ?_ ?_
    · cases c with
      | send queue' item pos =>
        have hne : queue' ≠ queue := (List.ne_of_not_mem_cons hh).symm
        cases r with
        | returned v => cases v <;> simp [sentOver, hne]
        | left => rfl
      | _ => rfl
    · cases c with
      | receive queue' buffer =>
        have hne : queue' ≠ queue := (List.ne_of_not_mem_cons hh).symm
        cases r with
        | returned v => cases v <;> simp [receivedOver, hne]
        | left => rfl
      | _ => rfl

end Lib.IsChannel

/-- **Queues are channels.** In every run of a program that uses a queue as a channel, what was
waiting and what was sent since is what was received and what is waiting now, in this order: no
message is lost, doubled, changed or overtaken, whatever the other tasks and the sets do. -/
theorem fifo_channel {s s' : Lib} {queue : Handle} {size : UBaseType} {tr : List (Call × Reply)}
    (hs : s.IsChannel queue size) (hrun : Run (Lib.ChannelStep queue) s tr s') :
    s.messagesAt queue ++ tr.flatMap (sentOver queue size) =
      tr.flatMap (receivedOver queue size) ++ s'.messagesAt queue :=
  (hrun.conserves (fun _ _ _ _ h hstep => Lib.IsChannel.step h hstep) hs).2

/-- A queue of two-byte messages at 1, next to a set at 5. -/
def queueBesideSet : Lib :=
  (Lib.init.write 5 (freshQueue 3 (UInt8.ofNat sizeofHandle) queueQUEUE_TYPE_SET)).write 1
    (freshQueue 3 2 queueQUEUE_TYPE_BASE)

theorem queueBesideSet_isChannel : queueBesideSet.IsChannel 1 2 where
  ne_nullptr := by decide
  noMember := Lib.NoMember.write (Lib.NoMember.write (fun _ _ h => by cases h) 5 (by decide)) 1
    (by decide)
  live := ⟨_, Lib.lookup_write_self .., rfl, fun _ h => by cases h⟩

/-- The queue is put in the set, sent to by two tasks, and received from. -/
def channelUse : List (Call × Reply) :=
  [(.addToSet 1 5, .returned (.code pdPASS)),
    (.send 1 (some [1, 2]) queueSEND_TO_BACK, .returned (.code pdTRUE)),
    (.createMutex 9 queueQUEUE_TYPE_MUTEX, .returned (.handle 9)),
    (.send 1 (some [3, 4, 5]) queueSEND_TO_BACK, .returned (.code pdTRUE)),
    (.selectFromSet 5, .returned (.handle 1)),
    (.receive 1 (some [0, 0, 0]), .returned (.data pdTRUE (some [1, 2, 0])))]

theorem Lib.channelStep_of_outcome {s : Lib} {c : Call} {r : Reply} {queue : Handle}
    (hr : (outcome (EStateM.run c.exec s)).1 = r) (hd : r.Defined)
    (hc : c.UsesChannel queue ∨ queue ∉ c.handles) :
    s.ChannelStep queue c r (outcome (EStateM.run c.exec s)).2 :=
  ⟨⟨Lib.step_of_outcome hr, hc.imp_right fun hh => ⟨hh, hd⟩⟩, hd⟩

theorem fifo_channel_use : ∃ s', Run (Lib.ChannelStep 1) queueBesideSet channelUse s' ∧
    queueBesideSet.messagesAt 1 ++ channelUse.flatMap (sentOver 1 2) =
      channelUse.flatMap (receivedOver 1 2) ++ s'.messagesAt 1 := by
  have hrun : ∃ s', Run (Lib.ChannelStep 1) queueBesideSet channelUse s' :=
    ⟨_, .cons (Lib.channelStep_of_outcome (by decide +kernel) (by decide) (.inl ⟨rfl, by decide⟩))
      (.cons (Lib.channelStep_of_outcome (by decide +kernel) (by decide) (.inl ⟨rfl, rfl⟩))
      (.cons (Lib.channelStep_of_outcome (by decide +kernel) (by decide) (.inr (by decide)))
      (.cons (Lib.channelStep_of_outcome (by decide +kernel) (by decide) (.inl ⟨rfl, rfl⟩))
      (.cons (Lib.channelStep_of_outcome (by decide +kernel) (by decide) (.inr (by decide)))
      (.cons (Lib.channelStep_of_outcome (by decide +kernel) (by decide) (.inl rfl))
      (.nil _))))))⟩
  obtain ⟨s', hrun⟩ := hrun
  exact ⟨s', hrun, fifo_channel queueBesideSet_isChannel hrun⟩

end FakeFreeRtos
