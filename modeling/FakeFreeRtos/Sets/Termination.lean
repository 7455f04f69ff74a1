import FakeFreeRtos.Queue.Copies
import Mathlib.Logic.Relation
import Mathlib.Algebra.Order.BigOperators.Group.Finset

/-!
# The end of a notification

`xQueueGenericSend` calls itself on the set that the queue is in, and nothing keeps the sets from
forming cycles. `Lib.Sends` is the function without any budget: a derivation of it is a call that
ends, and it lists the sets that the recursion pushes a handle into. Every call has a derivation
(`exists_sends`), since each nested call fills a free slot and the full check comes first; the
handles pushed are at most the free slots of the sets that can be reached from the queue
(`Lib.Sends.length_notified_le`); and the function with a budget agrees as soon as there is budget
for them (`Lib.Sends.run_eq`).
-/

namespace FakeFreeRtos

open Foundations Relation

/-! ## Sends without a budget -/

/-- The call ends before the message is stored. -/
inductive Lib.EndsEarly (s : Lib) (queue : Handle) (item : Buffer) (pos : BaseType) :
    EStateM.Result Exit Lib BaseType → Prop
  | null (h : queue = nullptr) : EndsEarly s queue item pos (.error .assertFailed s)
  | stale (hn : queue ≠ nullptr) (hq : s.lookup queue = none) :
    EndsEarly s queue item pos (.error .undefined s)
  | noItem {q : FakeQueue} (hn : queue ≠ nullptr) (hq : s.lookup queue = some q)
      (h : item = none ∧ q.itemSize ≠ 0) : EndsEarly s queue item pos (.error .assertFailed s)
  | notOne {q : FakeQueue} (hn : queue ≠ nullptr) (hq : s.lookup queue = some q)
      (hitem : ¬ (item = none ∧ q.itemSize ≠ 0)) (h : pos = queueOVERWRITE ∧ q.queueLength ≠ 1) :
    EndsEarly s queue item pos (.error .assertFailed s)
  | full {q : FakeQueue} (hn : queue ≠ nullptr) (hq : s.lookup queue = some q)
      (hitem : ¬ (item = none ∧ q.itemSize ≠ 0))
      (hover : ¬ (pos = queueOVERWRITE ∧ q.queueLength ≠ 1))
      (h : pos ≠ queueOVERWRITE ∧ q.queue.length ≥ q.queueLength.toNat) :
    EndsEarly s queue item pos (.ok errQUEUE_FULL s)
  | copy {q : FakeQueue} (hn : queue ≠ nullptr) (hq : s.lookup queue = some q)
      (ha : q.Accepts item pos) (h : ¬ ItemFits item q.itemSize) :
    EndsEarly s queue item pos (.error .undefined s)
  | position {q : FakeQueue} {x : Exit} (hn : queue ≠ nullptr) (hq : s.lookup queue = some q)
      (ha : q.Accepts item pos) (hi : ItemFits item q.itemSize)
      (h : EStateM.run (placeMessage q.queue (message item q.itemSize) pos) s = .error x s) :
    EndsEarly s queue item pos (.error x s)

/-- The result of a call whose notification has the result `r`: the code that the nested call
returns is dropped. -/
def afterNotification : EStateM.Result Exit Lib BaseType → EStateM.Result Exit Lib BaseType
  | .ok _ s => .ok pdTRUE s
  | .error x s => .error x s

/-- The queue that a call stored its message in, if it did. -/
def storedIn (stored : Bool) (queue : Handle) : List Handle := if stored then [queue] else []

theorem length_storedIn_le (stored : Bool) (queue : Handle) :
    (storedIn stored queue).length ≤ 1 := by
  cases stored with
  | false => exact Nat.zero_le 1
  | true => exact le_refl 1

/-- The call of `xQueueGenericSend` ends with the given result. It stores its message or not, and
its recursion pushes a handle into the sets `notified`, one after the other. -/
inductive Lib.Sends : Lib → Handle → Buffer → BaseType → Bool → List Handle →
    EStateM.Result Exit Lib BaseType → Prop
  | endsEarly {s : Lib} {queue : Handle} {item : Buffer} {pos : BaseType}
      {r : EStateM.Result Exit Lib BaseType} (h : s.EndsEarly queue item pos r) :
      Sends s queue item pos false [] r
  | alone {s : Lib} {queue : Handle} {item : Buffer} {pos : BaseType} {q : FakeQueue}
      {l : List Bytes} (hn : queue ≠ nullptr) (hq : s.lookup queue = some q)
      (ha : q.Accepts item pos) (hi : ItemFits item q.itemSize)
      (hl : EStateM.run (placeMessage q.queue (message item q.itemSize) pos) s = .ok l s)
      (hc : q.queueSetContainer = nullptr) :
      Sends s queue item pos true [] (.ok pdTRUE (s.write queue { q with queue := l }))
  | notifies {s : Lib} {queue : Handle} {item : Buffer} {pos : BaseType} {q : FakeQueue}
      {l : List Bytes} {stored : Bool} {notified : List Handle}
      {r : EStateM.Result Exit Lib BaseType} (hn : queue ≠ nullptr)
      (hq : s.lookup queue = some q) (ha : q.Accepts item pos) (hi : ItemFits item q.itemSize)
      (hl : EStateM.run (placeMessage q.queue (message item q.itemSize) pos) s = .ok l s)
      (hc : q.queueSetContainer ≠ nullptr)
      (h : Sends (s.write queue { q with queue := l }) q.queueSetContainer
        (some (handleBytes queue)) queueSEND_TO_BACK stored notified r) :
      Sends s queue item pos true (storedIn stored q.queueSetContainer ++ notified)
        (afterNotification r)

/-- The free slots of the queue at `h`. -/
def Lib.freeSlotsAt (s : Lib) (h : Handle) : ℕ := (s.lookup h).elim 0 FakeQueue.freeSlots

open Classical in
/-- The sets that can be reached from a queue by going to the set that it is in, again and
again. -/
noncomputable def Lib.setsAbove (s : Lib) (queue : Handle) : Finset Handle :=
  s.heap.keys.filter fun S => TransGen (fun x y => s.setOf x = some y) queue S

section

variable {s : Lib} {queue : Handle} {item : Buffer} {pos : BaseType} {q : FakeQueue}
  {stored : Bool} {notified : List Handle} {r : EStateM.Result Exit Lib BaseType}

/-! ## The function with a budget -/

theorem Lib.EndsEarly.run_eq (h : s.EndsEarly queue item pos r) (fuel : ℕ) :
    EStateM.run (xQueueGenericSendFuel (fuel + 1) queue item pos) s = r := by
  cases h with
  | null h => simp [xQueueGenericSendFuel, h]
  | stale hn hq => simp [xQueueGenericSendFuel, hn, run_deref_none hq]
  | noItem hn hq h => simp [xQueueGenericSendFuel, hn, hq, h]
  | notOne hn hq hitem h => simp [xQueueGenericSendFuel, hn, hq, hitem, h]
  | full hn hq hitem hover h => simp [xQueueGenericSendFuel, hn, hq, hitem, h]
  | @copy q hn hq ha h =>
    refine run_xQueueGenericSendFuel_of_memcpy_error hn hq ha.item ha.overwrite ha.room ?_
    exact (run_memcpy_message_cases item q.itemSize s).resolve_left fun hi => h hi.1
  | position hn hq ha hi h =>
    exact run_xQueueGenericSendFuel_of_place_error hn hq ha.item ha.overwrite ha.room hi h

/-- With budget for the handles that are pushed, and for a last call that finds its set full, the
function does what a derivation says. -/
theorem Lib.Sends.run_eq (h : s.Sends queue item pos stored notified r) {fuel : ℕ}
    (hfuel : notified.length + (storedIn stored queue).length < fuel) :
    EStateM.run (xQueueGenericSendFuel fuel queue item pos) s = r := by
  induction h generalizing fuel with
  | endsEarly h =>
    obtain ⟨fuel, rfl⟩ := Nat.exists_eq_add_one_of_ne_zero (Nat.ne_zero_of_lt hfuel)
    exact h.run_eq fuel
  | alone hn hq ha hi hl hc =>
    obtain ⟨fuel, rfl⟩ := Nat.exists_eq_add_one_of_ne_zero (Nat.ne_zero_of_lt hfuel)
    rw [run_xQueueGenericSendFuel_of_placed hn hq ha.item ha.overwrite ha.room hi hl,
      if_neg (not_not_intro hc)]
  | @notifies s queue item pos q l stored notified r hn hq ha hi hl hc _ ih =>
    obtain ⟨fuel, rfl⟩ := Nat.exists_eq_add_one_of_ne_zero (Nat.ne_zero_of_lt hfuel)
    rw [List.length_append] at hfuel
    have hone : (storedIn true queue).length = 1 := rfl
    have hlt : notified.length + (storedIn stored q.queueSetContainer).length < fuel := by omega
    rw [run_xQueueGenericSendFuel_of_placed hn hq ha.item ha.overwrite ha.room hi hl, if_pos hc,
      run_map, ih hlt]
    cases r <;> rfl

/-! ## Every call ends -/

/-- A call ends early or stores its message. -/
theorem endsEarly_or_placed (s : Lib) (queue : Handle) (item : Buffer) (pos : BaseType) :
    (∃ r, s.EndsEarly queue item pos r) ∨
    ∃ q l, queue ≠ nullptr ∧ s.lookup queue = some q ∧ q.Accepts item pos ∧
      ItemFits item q.itemSize ∧ Stores q (message item q.itemSize) pos l ∧
      EStateM.run (placeMessage q.queue (message item q.itemSize) pos) s = .ok l s := by
  by_cases hn : queue = nullptr
  · exact .inl ⟨_, .null hn⟩
  cases hq : s.lookup queue with
  | none => exact .inl ⟨_, .stale hn hq⟩
  | some q =>
    by_cases hitem : item = none ∧ q.itemSize ≠ 0
    · exact .inl ⟨_, .noItem hn hq hitem⟩
    by_cases hover : pos = queueOVERWRITE ∧ q.queueLength ≠ 1
    · exact .inl ⟨_, .notOne hn hq hitem hover⟩
    by_cases hfull : pos ≠ queueOVERWRITE ∧ q.queue.length ≥ q.queueLength.toNat
    · exact .inl ⟨_, .full hn hq hitem hover hfull⟩
    have ha : q.Accepts item pos := ⟨hitem, hover, hfull⟩
    by_cases hi : ItemFits item q.itemSize
    · rcases run_placeMessage_cases (message item q.itemSize) hover hfull s with
        ⟨l, hst, hl⟩ | hl | ⟨-, hl⟩
      · exact .inr ⟨q, l, hn, rfl, ha, hi, hst, hl⟩
      · exact .inl ⟨_, .position hn hq ha hi hl⟩
      · exact .inl ⟨_, .position hn hq ha hi hl⟩
    · exact .inl ⟨_, .copy hn hq ha hi⟩

/-- A call ends if the notification does that it leads to. -/
theorem exists_sends_of (h : ∀ q l, s.lookup queue = some q →
      Stores q (message item q.itemSize) pos l → ∃ stored notified r,
        (s.write queue { q with queue := l }).Sends q.queueSetContainer
          (some (handleBytes queue)) queueSEND_TO_BACK stored notified r) :
    ∃ stored notified r, s.Sends queue item pos stored notified r := by
  rcases endsEarly_or_placed s queue item pos with ⟨r, hr⟩ | ⟨q, l, hn, hq, ha, hi, hst, hl⟩
  · exact ⟨_, _, r, .endsEarly hr⟩
  · by_cases hc : q.queueSetContainer = nullptr
    · exact ⟨_, _, _, .alone hn hq ha hi hl hc⟩
    · obtain ⟨stored, notified, r, hr⟩ := h q l hq hst
      exact ⟨_, _, _, .notifies hn hq ha hi hl hc hr⟩

/-- A send to the back or the front ends: the nested call has fewer free slots. -/
theorem exists_sends_push (s : Lib) (queue : Handle) (item : Buffer) (e : Side) :
    ∃ stored notified r, s.Sends queue item (copyPosition e) stored notified r := by
  induction hfree : s.freeSlots using Nat.strongRecOn generalizing s queue item e with
  | ind k ih =>
    refine exists_sends_of fun q l hq hst => ?_
    obtain ⟨e', -, hroom, rfl⟩ := hst.resolve_right fun hov => copyPosition_ne_overwrite e hov.1
    have hlt := Lib.freeSlots_pushed hq hroom e' item
    exact ih _ (by omega) (pushed s queue q e' item) _ _ .back rfl

/-- **Every call ends**, whatever the sets are. -/
theorem exists_sends (s : Lib) (queue : Handle) (item : Buffer) (pos : BaseType) :
    ∃ stored notified r, s.Sends queue item pos stored notified r :=
  exists_sends_of fun _ _ _ _ => exists_sends_push _ _ _ .back

/-! ## How many handles are pushed -/

/-- The branches on the copy position store the message when they return. -/
theorem FakeQueue.Accepts.stores (ha : q.Accepts item pos) {msg : Bytes} {l : List Bytes}
    (hl : EStateM.run (placeMessage q.queue msg pos) s = .ok l s) : Stores q msg pos l := by
  rcases run_placeMessage_cases msg ha.overwrite ha.room s with ⟨l', hst, h⟩ | h | ⟨-, h⟩
  · cases h.symm.trans hl
    exact hst
  · cases h.symm.trans hl
  · cases h.symm.trans hl

/-- Storing a message at the back or the front takes one free slot. -/
theorem Lib.freeSlotsAt_pushed (hq : s.lookup queue = some q)
    (hroom : q.queue.length < q.queueLength.toNat) (e : Side) (item : Buffer) (x : Handle) :
    (pushed s queue q e item).freeSlotsAt x + [queue].count x = s.freeSlotsAt x := by
  by_cases hx : x = queue
  · subst hx
    have hlookup : (pushed s x q e item).lookup x =
        some { q with queue := BoundedDeque.pushItems q.queue e (message item q.itemSize) } :=
      Lib.lookup_write_self ..
    simp only [Lib.freeSlotsAt, hlookup, hq, Option.elim_some, FakeQueue.freeSlots,
      BoundedDeque.length_pushItems, List.count_singleton_self]
    omega
  · have hcount : [queue].count x = 0 :=
      List.count_eq_zero.mpr fun hmem => hx (List.mem_singleton.mp hmem)
    rw [hcount, Lib.freeSlotsAt, Lib.freeSlotsAt, pushed, Lib.lookup_write_of_ne _ _ hx,
      Nat.add_zero]

/-- Storing a message in any way takes no slot beyond those that are free. -/
theorem Lib.freeSlotsAt_stored_le (hq : s.lookup queue = some q) {msg : Bytes} {l : List Bytes}
    (hst : Stores q msg pos l) (x : Handle) :
    (s.write queue { q with queue := l }).freeSlotsAt x ≤ s.freeSlotsAt x := by
  by_cases hx : x = queue
  · subst hx
    have hlen : q.queue.length ≤ l.length := by
      rcases hst with ⟨e, -, -, rfl⟩ | ⟨-, -, m, rest, hm, rfl⟩
      · rw [BoundedDeque.length_pushItems]
        exact Nat.le_succ _
      · rw [hm]
        rfl
    rw [Lib.freeSlotsAt, Lib.freeSlotsAt, Lib.lookup_write_self, hq]
    exact Nat.sub_le_sub_left hlen _
  · rw [Lib.freeSlotsAt, Lib.freeSlotsAt, Lib.lookup_write_of_ne _ _ hx]

/-- The messages that a send to the back or the front stores, its own and the handles of its
recursion, take different free slots. -/
theorem Lib.Sends.count_le (h : s.Sends queue item pos stored notified r)
    (hpos : pos ≠ queueOVERWRITE) (x : Handle) :
    (storedIn stored queue ++ notified).count x ≤ s.freeSlotsAt x := by
  induction h with
  | endsEarly => exact Nat.zero_le _
  | @alone s queue item pos q l hn hq ha hi hl hc =>
    obtain ⟨e, -, hroom, -⟩ := (ha.stores hl).resolve_right fun hov => hpos hov.1
    rw [← Lib.freeSlotsAt_pushed hq hroom e item x]
    exact Nat.le_add_left ..
  | @notifies s queue item pos q l stored notified r hn hq ha hi hl hc _ ih =>
    obtain ⟨e, -, hroom, rfl⟩ := (ha.stores hl).resolve_right fun hov => hpos hov.1
    rw [List.count_append, ← Lib.freeSlotsAt_pushed hq hroom e item x,
      Nat.add_comm]
    exact Nat.add_le_add_right (ih (by decide)) _

/-- The handles that the recursion pushes take different free slots. -/
theorem Lib.Sends.count_notified_le (h : s.Sends queue item pos stored notified r) (x : Handle) :
    notified.count x ≤ s.freeSlotsAt x := by
  cases h with
  | endsEarly => exact Nat.zero_le _
  | alone => exact Nat.zero_le _
  | notifies hn hq ha hi hl hc h =>
    exact (h.count_le (by decide) x).trans (Lib.freeSlotsAt_stored_le hq (ha.stores hl) x)

/-- The recursion pushes handles only into sets that can be reached from the queue. -/
theorem Lib.Sends.transGen (h : s.Sends queue item pos stored notified r) :
    ∀ S ∈ notified, TransGen (fun x y => s.setOf x = some y) queue S := by
  induction h with
  | endsEarly => exact fun S hS => absurd hS List.not_mem_nil
  | alone => exact fun S hS => absurd hS List.not_mem_nil
  | @notifies s queue item pos q l stored notified r hn hq ha hi hl hc _ ih =>
    have hset : s.setOf queue = some q.queueSetContainer :=
      (Lib.setOf_of_lookup hq).trans (FakeQueue.link_eq_some_iff.mpr ⟨rfl, hc⟩)
    have hgraph : (s.write queue { q with queue := l }).setOf = s.setOf :=
      funext (Lib.SameShape.write hq l).setOf_eq
    intro S hS
    rcases List.mem_append.mp hS with hS | hS
    · obtain rfl : S = q.queueSetContainer := by
        cases stored with
        | false => exact absurd hS List.not_mem_nil
        | true => exact List.mem_singleton.mp hS
      exact .single hset
    · have hnested := ih S hS
      rw [hgraph] at hnested
      exact .head hset hnested

theorem Lib.mem_setsAbove {S : Handle} : S ∈ s.setsAbove queue ↔
    S ∈ s.heap.keys ∧ TransGen (fun x y => s.setOf x = some y) queue S := by
  classical
  exact Finset.mem_filter

/-- **The handles pushed are at most the free slots of the sets above the queue.** -/
theorem Lib.Sends.length_notified_le (h : s.Sends queue item pos stored notified r) :
    notified.length ≤ ∑ S ∈ s.setsAbove queue, s.freeSlotsAt S := by
  classical
  have hmem : notified.toFinset ⊆ s.setsAbove queue := by
    intro S hS
    rw [List.mem_toFinset] at hS
    -- a set without free slots, such as one that does not exist, gets no handle
    have hlive : (s.lookup S).isSome := by
      by_contra hnone
      rw [Option.not_isSome_iff_eq_none] at hnone
      have hle := h.count_notified_le S
      rw [Lib.freeSlotsAt, hnone] at hle
      exact (List.count_pos_iff.mpr hS).ne' (Nat.le_zero.mp hle)
    obtain ⟨q, hq⟩ := Option.isSome_iff_exists.mp hlive
    exact Lib.mem_setsAbove.mpr
      ⟨Finmap.mem_keys.mpr (Finmap.mem_of_lookup_eq_some hq), h.transGen S hS⟩
  calc notified.length = ∑ S ∈ notified.toFinset, notified.count S :=
        (List.sum_toFinset_count_eq_length notified).symm
    _ ≤ ∑ S ∈ notified.toFinset, s.freeSlotsAt S :=
        Finset.sum_le_sum fun S _ => h.count_notified_le S
    _ ≤ ∑ S ∈ s.setsAbove queue, s.freeSlotsAt S := Finset.sum_le_sum_of_subset hmem

/-- They are at most all free slots, which is why the budget of the model is enough. -/
theorem Lib.Sends.length_notified_le_freeSlots (h : s.Sends queue item pos stored notified r) :
    notified.length ≤ s.freeSlots :=
  h.length_notified_le.trans
    (Finset.sum_le_sum_of_subset fun _ hS => (Lib.mem_setsAbove.mp hS).1)

theorem Lib.Sends.run_xQueueGenericSend (h : s.Sends queue item pos stored notified r) :
    EStateM.run (xQueueGenericSend queue item pos) s = r := by
  have hle := h.length_notified_le_freeSlots
  have hone := length_storedIn_le stored queue
  rw [run_xQueueGenericSend_eq]
  exact h.run_eq (by omega)

end

/-- The queue is live, or null, the item holds `itemSize` bytes, or is null, and what is
overwritten is not empty. -/
def Lib.SendsProperly (s : Lib) (queue : Handle) (item : Buffer) (pos : BaseType) : Prop :=
  queue = nullptr ∨ ∃ q, s.lookup queue = some q ∧ (item = none ∨ ItemFits item q.itemSize) ∧
    (pos = queueOVERWRITE → q.queue ≠ [])

/-- Such a call is defined. -/
theorem Lib.SendsProperly.not_undefined {s : Lib} (hs : s.Legal) {queue : Handle} {item : Buffer}
    {pos : BaseType} (h : s.SendsProperly queue item pos) (s' : Lib) :
    EStateM.run (xQueueGenericSend queue item pos) s ≠ .error .undefined s' := by
  intro hrun
  rw [run_xQueueGenericSend_eq] at hrun
  rcases h with rfl | ⟨q, hq, hitem, hover⟩
  · simp [xQueueGenericSendFuel] at hrun
  have hn := hs.wellFormed.ne_nullptr hq
  by_cases hnull : item = none ∧ q.itemSize ≠ 0
  · simp [xQueueGenericSendFuel, hn, hq, hnull] at hrun
  have hi : ItemFits item q.itemSize := by
    rcases hitem with rfl | hi
    · exact itemFits_zero none (not_not.mp fun h0 => hnull ⟨rfl, h0⟩)
    · exact hi
  rcases exists_sendCopy (p := .user item) hs.setsLive hn hq hrun with
    ⟨k, hk, hfits⟩ | ⟨he, hempty⟩
  · refine hfits (hk.inside hs.setsLive fun q' hq' => ?_).fits
    obtain rfl := Option.some.inj (hq.symm.trans hq')
    exact ⟨hi, trivial⟩
  · exact hover he hempty

/-- **Set notification always terminates.** In every legal memory, whatever chains and cycles its
sets form, every proper call of `xQueueGenericSend` ends, in a defined way; the handles that its
recursion pushes are at most the free slots of the sets that can be reached from the queue; and
the function is what the derivation says, with any budget that covers them. -/
theorem notification_terminates {s : Lib} (hs : s.Legal) {queue : Handle} {item : Buffer}
    {pos : BaseType} (h : s.SendsProperly queue item pos) :
    ∃ stored notified r, s.Sends queue item pos stored notified r ∧
      (∀ s', r ≠ .error .undefined s') ∧
      notified.length ≤ ∑ S ∈ s.setsAbove queue, s.freeSlotsAt S ∧
      EStateM.run (xQueueGenericSend queue item pos) s = r ∧
      ∀ fuel, notified.length + 1 < fuel →
        EStateM.run (xQueueGenericSendFuel fuel queue item pos) s = r := by
  obtain ⟨stored, notified, r, hsends⟩ := exists_sends s queue item pos
  have hrun := hsends.run_xQueueGenericSend
  have hone := length_storedIn_le stored queue
  exact ⟨stored, notified, r, hsends, hrun ▸ h.not_undefined hs, hsends.length_notified_le, hrun,
    fun fuel hfuel => hsends.run_eq (by omega)⟩

/-- A queue of two one-byte messages at 1, in a set of length 2 at 2, which is in itself. -/
def queueInCycle : Lib :=
  (Lib.init.write 1 { freshQueue 2 1 queueQUEUE_TYPE_BASE with queueSetContainer := 2 }).write 2
    { freshQueue 2 (UInt8.ofNat sizeofHandle) queueQUEUE_TYPE_SET with queueSetContainer := 2 }

theorem queueInCycle_legal : queueInCycle.Legal := by
  let S : FakeQueue := freshQueue 2 (UInt8.ofNat sizeofHandle) queueQUEUE_TYPE_SET
  let s₁ : Lib := Lib.init.write 1 (freshQueue 2 1 queueQUEUE_TYPE_BASE)
  let s₂ : Lib := s₁.write 2 S
  let s₃ : Lib := s₂.write 1 { freshQueue 2 1 queueQUEUE_TYPE_BASE with queueSetContainer := 2 }
  have h₁ : Lib.init.Step (.create 1 2 1 queueQUEUE_TYPE_BASE) (.returned (.handle 1)) s₁ := by
    decide +kernel
  have h₂ : s₁.Step (.createSet 2 2) (.returned (.handle 2)) s₂ := by decide +kernel
  have h₃ : s₂.Step (.addToSet 1 2) (.returned (.code pdPASS)) s₃ := by decide +kernel
  have h₄ : s₃.Step (.addToSet 2 2) (.returned (.code pdPASS)) queueInCycle := by decide +kernel
  have hset₂ : s₂.IsSet 2 := ⟨S, by decide +kernel, by decide⟩
  have hset₃ : s₃.IsSet 2 := ⟨S, by decide +kernel, by decide⟩
  have hbase : (Call.create 1 2 1 queueQUEUE_TYPE_BASE).MutexesByCreateMutex :=
    ⟨by decide, by decide⟩
  exact (((Lib.legal_init.step h₁ trivial hbase (by decide)).step h₂ trivial trivial
    (by decide)).step h₃ (.inr hset₂) trivial (by decide)).step h₄ (.inr hset₃) trivial (by decide)

/-- The notification goes round in the set until it is full. -/
theorem notification_terminates_cycle : queueInCycle.setOf 2 = some 2 ∧
    ∃ stored notified r, queueInCycle.Sends 1 (some [7]) queueSEND_TO_BACK stored notified r ∧
      (∀ s', r ≠ .error .undefined s') ∧
      notified.length ≤ ∑ S ∈ queueInCycle.setsAbove 1, queueInCycle.freeSlotsAt S ∧
      EStateM.run (xQueueGenericSend 1 (some [7]) queueSEND_TO_BACK) queueInCycle = r ∧
      ∀ fuel, notified.length + 1 < fuel →
        EStateM.run (xQueueGenericSendFuel fuel 1 (some [7]) queueSEND_TO_BACK) queueInCycle = r :=
  ⟨by decide +kernel, notification_terminates queueInCycle_legal
    (.inr ⟨{ freshQueue 2 1 queueQUEUE_TYPE_BASE with queueSetContainer := 2 }, by decide +kernel,
      .inr (by decide), fun h => absurd h (by decide)⟩)⟩

end FakeFreeRtos
