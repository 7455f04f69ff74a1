import FakeFreeRtos.Queue.Receive
import FakeFreeRtos.Foundations.Ledger

/-!
# Watching a queue set

An observer of a set `S` records which members were sent to, what the selects returned, and which
selects still wait for their receive (`Watch`). `Watch.Inv` is what stays true while a program
uses the set as intended (`Watch.SetCall`, `Lib.Plain`): the books of `S` are balanced, in the
sense of the ledger of the network, and the members sent to are those selected followed by those
pending in `S`. One lemma per call shows that it keeps the invariant; `Watch.Inv.step` collects
them.
-/

namespace FakeFreeRtos

open Foundations Net

/-! ## Plain sets -/

/-- The sum of the lengths of the members of `S`. -/
def Lib.memberLengths (s : Lib) (S : Handle) : ℕ :=
  ∑ h ∈ s.heap.keys with s.setOf h = some S, s.lengthAt h

/-- The set `S` is as long as its members together, and none of its members is used as a set. -/
structure Lib.Plain (s : Lib) (S : Handle) : Prop where
  roomy : s.memberLengths S ≤ s.lengthAt S
  leaf : ∀ q, s.setOf q = some S → ∀ x, s.setOf x ≠ some q

/-- A set that is the only one, and in no set itself, has no members that are used as sets. -/
theorem Lib.leaf_of_only_set {s : Lib} {S : Handle}
    (honly : s.AllLive fun x => s.setOf x = none ∨ s.setOf x = some S) (hS : s.setOf S = none)
    (q : Handle) (hq : s.setOf q = some S) (x : Handle) : s.setOf x ≠ some q := by
  intro hx
  obtain rfl : S = q := by
    rcases honly.of_setOf hx with h | h
    · rw [h] at hx; cases hx
    · exact Option.some.inj (h.symm.trans hx)
  rw [hS] at hq
  cases hq

section Retains

variable {s s' : Lib} (h : s.Retains FakeQueue.membership s')

include h

theorem Lib.Retains.setOf_eq (x : Handle) : s'.setOf x = s.setOf x := by
  have hx := congrArg (Option.map Prod.snd) (h.lookup x)
  simp only [Option.map_map] at hx
  have hlink : ∀ o : Option FakeQueue, o.bind FakeQueue.link =
      (o.map (Prod.snd ∘ FakeQueue.membership)).bind
        fun c => if c = nullptr then none else some c := fun o => by cases o <;> rfl
  rw [Lib.setOf, Lib.setOf, hlink, hx, ← hlink]

theorem Lib.Retains.lengthAt_eq (x : Handle) : s'.lengthAt x = s.lengthAt x := by
  have hx := congrArg (Option.map fun m => m.1.1) (h.lookup x)
  simp only [Option.map_map] at hx
  have helim : ∀ o : Option FakeQueue, o.elim 0 (·.queueLength.toNat) =
      (o.map ((fun m => m.1.1) ∘ FakeQueue.membership)).elim 0 UInt8.toNat := fun o => by
    cases o <;> rfl
  rw [Lib.lengthAt, Lib.lengthAt, helim, hx, ← helim]

theorem Lib.Retains.keys_eq : s'.heap.keys = s.heap.keys := by
  ext x
  rw [Finmap.mem_keys, Finmap.mem_keys, ← Finmap.lookup_isSome, ← Finmap.lookup_isSome]
  exact Bool.eq_iff_iff.mp (h.isSome_lookup x)

/-- Only the calls that change memberships can make a set less plain. -/
theorem Lib.Retains.plain {S : Handle} (hp : s.Plain S) : s'.Plain S := by
  refine ⟨?_, fun q hq x => ?_⟩
  · simp only [Lib.memberLengths, h.keys_eq, h.setOf_eq, h.lengthAt_eq]
    exact hp.roomy
  · rw [h.setOf_eq]
    exact hp.leaf q (h.setOf_eq q ▸ hq) x

end Retains

section Net

variable {s : Lib} (hw : s.WellFormed)

include hw

theorem Lib.Plain.roomy_net {S : Handle} (hp : s.Plain S) : s.net.Roomy S := by
  intro F hF
  simp only [Lib.cap_net hw]
  refine le_trans (Finset.sum_le_sum_of_subset fun h hh => ?_) hp.roomy
  have hm := (Lib.member_net_iff_setOf hw).mp (hF h hh)
  obtain ⟨q, hq, -⟩ := Lib.exists_lookup_of_setOf hm
  exact Finset.mem_filter.mpr ⟨Finmap.mem_keys.mpr (Finmap.mem_of_lookup_eq_some hq), hm⟩

theorem Lib.Plain.leaf_net {S : Handle} (hp : s.Plain S) : s.net.LeafMembers S := by
  intro q hq x hx
  rw [Lib.member_net_iff_setOf hw] at hq hx
  exact hp.leaf q hq x hx

end Net

/-! ## The observer -/

/-- What an observer of a set has seen: the memory, the members sent to, the members selected,
and for each member the selects that wait for their receive. -/
structure Watch where
  lib : Lib
  sent : List Handle
  selected : List Handle
  unanswered : Handle → ℕ

namespace Watch

variable {S queue : Handle} {w : Watch} {q : FakeQueue}

/-- Nothing has been seen yet. -/
def start (s : Lib) : Watch := ⟨s, [], [], fun _ => 0⟩

/-- A send to `queue` answered `k`. -/
def sendSeen (S : Handle) (w : Watch) (queue : Handle) (k : BaseType) (s' : Lib) : Watch :=
  if k = pdTRUE ∧ w.lib.setOf queue = some S then { w with lib := s', sent := w.sent ++ [queue] }
  else { w with lib := s' }

/-- A select from `set` returned `h`. -/
def selectSeen (S : Handle) (w : Watch) (set h : Handle) (s' : Lib) : Watch :=
  if set = S ∧ h ≠ nullptr then
    { w with
      lib := s'
      selected := w.selected ++ [h]
      unanswered := Function.update w.unanswered h (w.unanswered h + 1) }
  else { w with lib := s' }

/-- A receive from `queue` answered `k`. -/
def receiveSeen (S : Handle) (w : Watch) (queue : Handle) (k : BaseType) (s' : Lib) : Watch :=
  if k = pdTRUE ∧ w.lib.setOf queue = some S then
    { w with
      lib := s'
      unanswered := Function.update w.unanswered queue (w.unanswered queue - 1) }
  else { w with lib := s' }

/-- What is seen of a call. -/
def observe (S : Handle) (w : Watch) (c : Call) (r : Reply) (s' : Lib) : Watch :=
  match c, r with
  | .send queue _ _, .returned (.code k) | .giveFromISR queue, .returned (.code k) =>
    w.sendSeen S queue k s'
  | .selectFromSet set, .returned (.handle h) => w.selectSeen S set h s'
  | .receive queue _, .returned (.data k _) | .semaphoreTake queue, .returned (.code k) =>
    w.receiveSeen S queue k s'
  | _, _ => { w with lib := s' }

/-- A semaphore: its messages are empty, and it is not a recursive mutex. -/
def Semaphore (w : Watch) (queue : Handle) : Prop :=
  ∃ q, w.lib.lookup queue = some q ∧ q.itemSize = 0 ∧
    q.queueType ≠ queueQUEUE_TYPE_RECURSIVE_MUTEX

/-- A receive from `queue`, if it is a member, answers a select. -/
def Answers (S : Handle) (w : Watch) (queue : Handle) : Prop :=
  queue ≠ S ∧ (w.lib.setOf queue = some S → 0 < w.unanswered queue)

/-- The calls of a program that uses the set `S`: queues, sets, semaphores and mutexes are created;
queues are added to sets and removed from them; messages are sent and semaphores given, but not to
`S` itself; a receive or take from a member of `S` answers a select; any set is selected from that
is not a member of `S`. -/
def SetCall (S : Handle) (w : Watch) : Call → Prop
  | .create addr _ _ _ | .createSet addr _ | .createCountingSemaphore addr _ _ =>
    w.lib.Fresh addr
  | .createMutex addr t => w.lib.Fresh addr ∧ IsMutexType t
  | .addToSet item set | .removeFromSet item set =>
    (item = nullptr ∨ (w.lib.lookup item).isSome) ∧ (set = nullptr ∨ w.lib.IsSet set)
  | .send queue item pos => queue ≠ S ∧ (∃ e, pos = copyPosition e) ∧
    ∃ q, w.lib.lookup queue = some q ∧ ItemFits item q.itemSize
  | .giveFromISR queue => w.Semaphore queue
  | .selectFromSet set => set = S ∨ (w.lib.IsSet set ∧ set ≠ S ∧ w.lib.setOf set ≠ some S)
  | .receive queue buffer => w.Answers S queue ∧
    ∃ q b, w.lib.lookup queue = some q ∧ buffer = some b ∧ q.itemSize.toNat ≤ b.length
  | .semaphoreTake queue => w.Answers S queue ∧ w.Semaphore queue
  | _ => False

/-- One call of such a program, observed. The set stays as long as its members together. -/
def Step (S : Handle) (w : Watch) (c : Call) (r : Reply) (w' : Watch) : Prop :=
  w.SetCall S c ∧ ∃ s', w.lib.Step c r s' ∧ s'.Plain S ∧ w' = w.observe S c r s'

/-! ## The invariant -/

/-- The books of `S` are balanced, and the members sent to are those selected followed by those
pending. -/
structure Inv (S : Handle) (w : Watch) : Prop where
  wellFormed : w.lib.WellFormed
  setsLive : w.lib.SetsLive
  isSet : w.lib.IsSet S
  books : ∃ pending, Ledger handleBytes S w.lib.net pending w.unanswered ∧
    w.sent = w.selected ++ pending

theorem Inv.net_node (hI : w.Inv S) (hq : w.lib.lookup queue = some q) :
    w.lib.net queue = some (q.node (hI.wellFormed.queue queue q hq).length_le) :=
  Lib.net_of_wellFormed hI.wellFormed hq

/-- A member whose receive answers a select holds a message. -/
theorem Inv.ne_nil_of_answers (hI : w.Inv S) (ha : w.Answers S queue)
    (hm : w.lib.setOf queue = some S) : w.lib.messagesAt queue ≠ [] := by
  obtain ⟨pending, hbooks, -⟩ := hI.books
  have hbal := hbooks.balance queue ((Lib.member_net_iff_setOf hI.wellFormed).mpr hm)
  rw [Lib.itemsAt_net hI.wellFormed] at hbal
  have hpos := ha.2 hm
  intro hnil
  rw [hnil, List.length_nil] at hbal
  omega

/-- A memory that differs in messages only keeps the invariant, if the books do. -/
theorem Inv.of_sameShape (hI : w.Inv S) {w' : Watch} (hshape : w.lib.SameShape w'.lib)
    (hw : w'.lib.WellFormed) (hbooks : ∃ pending,
      Ledger handleBytes S w'.lib.net pending w'.unanswered ∧ w'.sent = w'.selected ++ pending) :
    w'.Inv S := by
  obtain ⟨Sq, hSq, hsize⟩ := hI.isSet
  obtain ⟨l, hSq'⟩ := hshape.exists_lookup hSq
  exact ⟨hw, hshape.setsLive hI.setsLive, ⟨_, hSq', hsize⟩, hbooks⟩

/-- Taking the first message of a queue, if a receive from it answers a select. -/
theorem Inv.pop (hI : w.Inv S) (hq : w.lib.lookup queue = some q) (ha : w.Answers S queue)
    {m : Bytes} {rest : List Bytes} (hm : q.queue = m :: rest) :
    (w.receiveSeen S queue pdTRUE (w.lib.write queue { q with queue := rest })).Inv S := by
  obtain ⟨pending, hbooks, hsent⟩ := hI.books
  obtain ⟨d, hpop, hw', hnet⟩ := hI.wellFormed.popped hq hm
  have hnode := hI.net_node hq
  by_cases hmem : w.lib.setOf queue = some S
  · obtain ⟨x, d', hpop', hbooks'⟩ := hbooks.answer hnode
      ((Lib.setOf_of_lookup hq).symm.trans hmem) (ha.2 hmem) ha.1
    obtain ⟨-, rfl⟩ := Prod.mk.inj (Option.some.inj (hpop'.symm.trans hpop))
    rw [receiveSeen, if_pos ⟨rfl, hmem⟩]
    exact hI.of_sameShape (.write hq rest) hw' ⟨pending, hnet ▸ hbooks', hsent⟩
  · rw [receiveSeen, if_neg fun h => hmem h.2]
    have hother := hbooks.take_other hnode (BoundedDeque.pop?_eq_some_iff.mp hpop).1 ha.1
      (fun h => hmem ((Lib.member_net_iff_setOf hI.wellFormed).mp h))
    exact hI.of_sameShape (.write hq rest) hw' ⟨pending, hnet ▸ hother, hsent⟩

/-- A receive that found nothing. -/
theorem Inv.receiveNothing (hI : w.Inv S) : (w.receiveSeen S queue pdFALSE w.lib).Inv S := by
  rw [receiveSeen, if_neg fun h => pdTRUE_ne_pdFALSE h.1.symm]
  exact hI

/-- A send to a queue other than `S` answers, and keeps the invariant. -/
theorem Inv.send (hI : w.Inv S) (hp : w.lib.Plain S) (hq : w.lib.lookup queue = some q)
    (hne : queue ≠ S) {item : Buffer} (hi : ItemFits item q.itemSize) (e : Side) :
    ∃ b s', EStateM.run (xQueueGenericSend queue item (copyPosition e)) w.lib =
        .ok (sendAnswer b) s' ∧ (w.sendSeen S queue (sendAnswer b) s').Inv S := by
  obtain ⟨pending, hbooks, hsent⟩ := hI.books
  obtain ⟨b, s', hrun, hpost, hshape, hw'⟩ :=
    run_xQueueGenericSend hI.wellFormed hI.setsLive hq hi e
  refine ⟨b, s', hrun, ?_⟩
  have hleaf := hp.leaf_net hI.wellFormed
  by_cases hmem : w.lib.setOf queue = some S
  · have hm := (Lib.member_net_iff_setOf hI.wellFormed).mpr hmem
    cases b with
    | false =>
      rw [sendSeen, if_neg fun h => pdTRUE_ne_pdFALSE h.1.symm]
      exact hI.of_sameShape hshape hw' ⟨pending, hpost.eq_of_refused ▸ hbooks, hsent⟩
    | true =>
      rw [sendSeen, if_pos ⟨rfl, hmem⟩]
      obtain ⟨Sq, hSq, -⟩ := hI.isSet
      have hS := Option.isSome_iff_exists.mpr ⟨_, hI.net_node hSq⟩
      refine hI.of_sameShape hshape hw' ⟨pending ++ [queue],
        hbooks.post_member hpost hm (hp.roomy_net hI.wellFormed) hS hleaf, ?_⟩
      rw [hsent, List.append_assoc]
  · rw [sendSeen, if_neg fun h => hmem h.2]
    have hother := hbooks.post_other hpost hne
      (fun h => hmem ((Lib.member_net_iff_setOf hI.wellFormed).mp h)) hleaf
    exact hI.of_sameShape hshape hw' ⟨pending, hother, hsent⟩

/-- Changing the set of an empty queue keeps the books. -/
theorem Inv.relink (hI : w.Inv S) (hq : w.lib.lookup queue = some q) (he : q.queue = [])
    {set : Handle} (hset : set = nullptr ∨ w.lib.IsSet set) :
    Inv S { w with lib := w.lib.write queue { q with queueSetContainer := set } } := by
  obtain ⟨pending, hbooks, hsent⟩ := hI.books
  obtain ⟨Sq, hSq, hsize⟩ := hI.isSet
  have hqw := hI.wellFormed.queue queue q hq
  refine ⟨hI.wellFormed.write (hI.wellFormed.ne_nullptr hq) ⟨hqw.length_le, hqw.item_length⟩,
    hI.setsLive.write_container hq hset, ?_, pending, ?_, hsent⟩
  · by_cases hS : S = queue
    · subst hS
      obtain rfl : q = Sq := Option.some.inj (hq.symm.trans hSq)
      exact ⟨_, Lib.lookup_write_self .., hsize⟩
    · exact ⟨Sq, (Lib.lookup_write_of_ne _ _ hS).trans hSq, hsize⟩
  · simp only
    rw [Lib.net_write _ _ { q with queueSetContainer := set } hqw.length_le]
    exact hbooks.relink (hI.net_node hq) he _

/-- A queue created beside the set keeps the books. -/
theorem Inv.created (hI : w.Inv S) {addr : Handle} (hf : w.lib.Fresh addr) (hqw : q.WellFormed)
    (hq : q.queueSetContainer = nullptr) : Inv S { w with lib := w.lib.write addr q } := by
  obtain ⟨pending, hbooks, hsent⟩ := hI.books
  obtain ⟨Sq, hSq, hsize⟩ := hI.isSet
  have hne : ∀ x fq, w.lib.lookup x = some fq → x ≠ addr := by
    rintro x fq hx rfl
    rw [hf.2] at hx
    cases hx
  have hnet : ∀ x, x ≠ addr → (w.lib.write addr q).net x = w.lib.net x := fun x hx => by
    rw [Lib.net_write _ _ _ hqw.length_le, Function.update_of_ne hx]
  have hlive : ∀ x, w.lib.net.Member S x → x ≠ addr := fun x hx => by
    obtain ⟨fq, hfq, -⟩ := (Lib.member_net_iff hI.wellFormed).mp hx
    exact hne x fq hfq
  refine ⟨hI.wellFormed.write hf.1 hqw, hI.setsLive.write_fresh hf hq,
    ⟨Sq, (Lib.lookup_write_of_ne _ _ (hne S Sq hSq)).trans hSq, hsize⟩, pending, ?_, hsent⟩
  refine hbooks.congr (fun x => ?_) ?_ fun x hx => ?_
  · by_cases hx : x = addr
    · subst hx
      refine iff_of_false ?_ fun h => hlive x h rfl
      rintro ⟨n, hn, hl⟩
      rw [Lib.net_write _ _ _ hqw.length_le, Function.update_self, Option.some.injEq] at hn
      subst hn
      rw [FakeQueue.node, FakeQueue.link_eq_none_iff.mpr hq] at hl
      cases hl
    · rw [Member, Member, hnet x hx]
  · rw [itemsAt, itemsAt, hnet S (hne S Sq hSq)]
  · rw [itemsAt, itemsAt, hnet x (hlive x hx)]

/-- What a select from `S` finds: nothing pending, or the handle of the first pending member. -/
theorem Inv.select (hI : w.Inv S) (hp : w.lib.Plain S) :
    ∃ h s', EStateM.run (xQueueSelectFromSet S) w.lib = .ok h s' ∧
      (w.selectSeen S S h s').Inv S ∧ (h = nullptr ↔ w.lib.messagesAt S = []) := by
  obtain ⟨pending, hbooks, hsent⟩ := hI.books
  obtain ⟨Sq, hSq, hsize⟩ := hI.isSet
  have hn := hI.wellFormed.ne_nullptr hSq
  rw [Lib.messagesAt_of_lookup hSq]
  cases hm : Sq.queue with
  | nil =>
    refine ⟨nullptr, w.lib, run_xQueueSelectFromSet_nil hn hSq hm, ?_, iff_of_true rfl rfl⟩
    rw [selectSeen, if_neg fun h => h.2 rfl]
    exact hI
  | cons m rest =>
    obtain ⟨d, hpop, hw', hnet⟩ := hI.wellFormed.popped hSq hm
    have hSS : ¬ w.lib.net.Member S S := fun hSS => hp.leaf_net hI.wellFormed S hSS S hSS
    obtain ⟨x, pending', rfl, rfl, hbooks'⟩ := hbooks.take (hI.net_node hSq) hpop hSS
    -- the selected member is live, so its handle is not null
    obtain ⟨xq, hxq, -⟩ := (Lib.member_net_iff hI.wellFormed).mp
      (hbooks.pending_member x List.mem_cons_self)
    have hx := hI.wellFormed.ne_nullptr hxq
    have hrun := run_xQueueSelectFromSet_cons hI.wellFormed hSq hsize hm
    rw [handleOfBytes_handleBytes] at hrun
    refine ⟨x, _, hrun, ?_, iff_of_false hx (List.cons_ne_nil _ _)⟩
    rw [selectSeen, if_pos ⟨rfl, hx⟩]
    refine hI.of_sameShape (.write hSq rest) hw' ⟨pending', hnet ▸ hbooks', ?_⟩
    rw [hsent, List.append_assoc, List.singleton_append]

end Watch

end FakeFreeRtos
