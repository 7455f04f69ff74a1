import FakeFreeRtos.Queue.Receive

/-!
# Queues of the size that was asked for

A caller asks `xQueueCreate` for a queue of `n` messages of `size` bytes and should get a deque of
`n` messages, each handed over whole (`AsAsked`). The port's `UBaseType_t` has 8 bits, so the queue
that is made holds `n % 256` messages of `size % 256` bytes (`step_send`, `step_receive`).
`created_asAsked_iff` says when that is what was asked for.
-/

namespace FakeFreeRtos

open Foundations

/-! ## What is asked for -/

/-- Sends to the back or the front of whole messages, and receives into whole messages. -/
def IsMessageCall (queue : Handle) (size : ℕ) : Call → Prop
  | .send queue' item pos =>
    queue' = queue ∧ (∃ e, pos = copyPosition e) ∧ (item.getD []).length = size
  | .receive queue' buffer => queue' = queue ∧ ∃ b, buffer = some b ∧ b.length = size
  | _ => False

/-- What such a call answers on a deque of whole messages. -/
inductive AskedStep (queue : Handle) : BoundedDeque Bytes → Call → Reply → BoundedDeque Bytes → Prop
  | stored {d d' : BoundedDeque Bytes} {item : Buffer} {e : Side}
      (h : d.push? e (item.getD []) = some d') :
      AskedStep queue d (.send queue item (copyPosition e)) (.returned (.code pdTRUE)) d'
  | full {d : BoundedDeque Bytes} {item : Buffer} {e : Side} (h : d.push? e (item.getD []) = none) :
      AskedStep queue d (.send queue item (copyPosition e)) (.returned (.code errQUEUE_FULL)) d
  | received {d d' : BoundedDeque Bytes} {b m : Bytes} (h : d.pop? = some (m, d')) :
      AskedStep queue d (.receive queue (some b)) (.returned (.data pdTRUE (some m))) d'
  | nothing {d : BoundedDeque Bytes} {b : Bytes} (h : d.pop? = none) :
      AskedStep queue d (.receive queue (some b)) (.returned (.data pdFALSE (some b))) d

theorem AskedStep.of_send {queue : Handle} {d d' : BoundedDeque Bytes} {item : Buffer} {e : Side}
    {r : Reply} (h : AskedStep queue d (.send queue item (copyPosition e)) r d') :
    (d.push? e (item.getD []) = some d' ∧ r = .returned (.code pdTRUE)) ∨
      (d.push? e (item.getD []) = none ∧ r = .returned (.code errQUEUE_FULL) ∧ d' = d) := by
  generalize hpos : copyPosition e = pos at h
  cases h with
  | stored h =>
    obtain rfl := copyPosition_injective hpos
    exact .inl ⟨h, rfl⟩
  | full h =>
    obtain rfl := copyPosition_injective hpos
    exact .inr ⟨h, rfl, rfl⟩

/-- The empty deque with room for `n` messages. -/
def emptyDeque (n : ℕ) : BoundedDeque Bytes := ⟨n, [], Nat.zero_le n⟩

/-- The queue answers every sequence of sends and receives as a deque of `n` whole messages
does. -/
def AsAsked (s : Lib) (queue : Handle) (n size : ℕ) : Prop :=
  ∀ cs, (∀ c ∈ cs, IsMessageCall queue size c) →
    ∃ tr s' d, tr.map Prod.fst = cs ∧ Run Lib.Step s tr s' ∧
      Run (AskedStep queue) (emptyDeque n) tr d

/-! ## What is made -/

/-- The queue that is made for `n` messages of `size` bytes, with the messages `l`. -/
def madeQueue (n size : ℕ) (l : List Bytes) : FakeQueue :=
  { freshQueue (UInt8.ofNat n) (UInt8.ofNat size) queueQUEUE_TYPE_BASE with queue := l }

theorem toNat_queueLength_madeQueue (n size : ℕ) (l : List Bytes) :
    (madeQueue n size l).queueLength.toNat = n % 256 := UInt8.toNat_ofNat'

theorem toNat_itemSize_madeQueue (n size : ℕ) (l : List Bytes) :
    (madeQueue n size l).itemSize.toNat = size % 256 := UInt8.toNat_ofNat'

section Made

variable {s : Lib} {queue : Handle} (hn : queue ≠ nullptr) {n size : ℕ} {l : List Bytes}

theorem write_madeQueue (l' : List Bytes) : (s.write queue (madeQueue n size l)).write queue
    { madeQueue n size l with queue := l' } = s.write queue (madeQueue n size l') :=
  Lib.write_write ..

include hn

/-- A send keeps the first `size % 256` bytes, while fewer than `n % 256` messages wait. -/
theorem step_send_room {item : Buffer} (hitem : (item.getD []).length = size) (e : Side)
    (hroom : l.length < n % 256) :
    (s.write queue (madeQueue n size l)).Step (.send queue item (copyPosition e))
      (.returned (.code pdTRUE)) (s.write queue (madeQueue n size
        (BoundedDeque.pushItems l e ((item.getD []).take (size % 256))))) := by
  have hi : ItemFits item (madeQueue n size l).itemSize := by
    rw [ItemFits, toNat_itemSize_madeQueue, hitem]
    exact Nat.mod_le size 256
  have hroom' : (madeQueue n size l).queue.length < (madeQueue n size l).queueLength.toNat := by
    rwa [toNat_queueLength_madeQueue]
  have hcont : (madeQueue n size l).queueSetContainer = nullptr := rfl
  rw [Lib.step_returned_iff, Call.exec, run_map, run_xQueueGenericSend_eq,
    run_xQueueGenericSendFuel_room hn (Lib.lookup_write_self ..) hi e hroom',
    if_neg (not_not_intro hcont), pushed, write_madeQueue, message, toNat_itemSize_madeQueue]
  rfl

theorem step_send_full {item : Buffer} (hitem : (item.getD []).length = size) (e : Side)
    (hfull : n % 256 ≤ l.length) :
    (s.write queue (madeQueue n size l)).Step (.send queue item (copyPosition e))
      (.returned (.code errQUEUE_FULL)) (s.write queue (madeQueue n size l)) := by
  have hi : ItemFits item (madeQueue n size l).itemSize := by
    rw [ItemFits, toNat_itemSize_madeQueue, hitem]
    exact Nat.mod_le size 256
  have hfull' : (madeQueue n size l).queueLength.toNat ≤ (madeQueue n size l).queue.length := by
    rwa [toNat_queueLength_madeQueue]
  rw [Lib.step_returned_iff, Call.exec, run_map, run_xQueueGenericSend_eq,
    run_xQueueGenericSendFuel_full hn (Lib.lookup_write_self ..) hi e hfull']

theorem step_receive_nil (b : Bytes) :
    (s.write queue (madeQueue n size [])).Step (.receive queue (some b))
      (.returned (.data pdFALSE (some b))) (s.write queue (madeQueue n size [])) := by
  rw [Lib.step_returned_iff, Call.exec, run_map,
    run_xQueueReceive_nil hn (Lib.lookup_write_self ..) rfl]

/-- A receive fills the first `size % 256` bytes. -/
theorem step_receive_cons {m b : Bytes} (hm : m.length = size % 256) (hb : b.length = size) :
    (s.write queue (madeQueue n size (m :: l))).Step (.receive queue (some b))
      (.returned (.data pdTRUE (some (filled b m)))) (s.write queue (madeQueue n size l)) := by
  have hsize := toNat_itemSize_madeQueue n size (m :: l)
  rw [Lib.step_returned_iff, Call.exec, run_map, run_xQueueReceive_eq hn,
    run_internalQueueReceive_of_length hn (Lib.lookup_write_self ..) rfl (hm.trans hsize.symm)
      (by rw [hb, hsize]; exact Nat.mod_le size 256), write_madeQueue]

end Made

/-! ## Sizes that fit -/

/-- One call on a queue of a size that fits. -/
theorem exists_askedStep {s : Lib} {queue : Handle} (hn : queue ≠ nullptr) {n size : ℕ}
    (hlen : n < 256) (hsize : size < 256 ∨ n = 0) {d : BoundedDeque Bytes} (hcap : d.capacity = n)
    (hwhole : ∀ m ∈ d.items, m.length = size) {c : Call} (hc : IsMessageCall queue size c) :
    ∃ r d', (s.write queue (madeQueue n size d.items)).Step c r
        (s.write queue (madeQueue n size d'.items)) ∧
      AskedStep queue d c r d' ∧ d'.capacity = n ∧ ∀ m ∈ d'.items, m.length = size := by
  have hmod : n % 256 = n := Nat.mod_eq_of_lt hlen
  have hfits := d.fits
  cases c with
  | send queue' item pos =>
    obtain ⟨rfl, ⟨e, rfl⟩, hitem⟩ := hc
    by_cases hroom : d.items.length < n
    · -- a deque with room has room for whole messages
      have htake : (item.getD []).take (size % 256) = item.getD [] := by
        rw [Nat.mod_eq_of_lt (hsize.resolve_right (by omega)), ← hitem, List.take_length]
      have hpush : (d.push? e (item.getD [])).isSome := by
        rw [Option.isSome_iff_ne_none, Ne, BoundedDeque.push?_eq_none_iff, BoundedDeque.waiting]
        omega
      obtain ⟨d', hd'⟩ := Option.isSome_iff_exists.mp hpush
      obtain ⟨-, hcap', hitems⟩ := BoundedDeque.push?_eq_some_iff.mp hd'
      refine ⟨_, d', ?_, .stored hd', hcap'.trans hcap, fun m hm => ?_⟩
      · have hstep := step_send_room (s := s) hn (l := d.items) hitem e (hmod.symm ▸ hroom)
        rwa [htake, ← hitems] at hstep
      · rw [hitems] at hm
        rcases BoundedDeque.mem_pushItems.mp hm with rfl | hm
        · exact hitem
        · exact hwhole m hm
    · refine ⟨_, d, step_send_full hn hitem e (by omega), .full ?_, hcap, hwhole⟩
      rw [BoundedDeque.push?_eq_none_iff, BoundedDeque.waiting]
      omega
  | receive queue' buffer =>
    obtain ⟨rfl, b, rfl, hb⟩ := hc
    cases hitems : d.items with
    | nil =>
      refine ⟨_, d, ?_, .nothing (BoundedDeque.pop?_eq_none_iff.mpr hitems), hcap, hwhole⟩
      rw [hitems]
      exact step_receive_nil hn b
    | cons m rest =>
      rw [hitems] at hwhole hfits
      rw [List.length_cons] at hfits
      have hm := hwhole m List.mem_cons_self
      have hmod' : size % 256 = size := Nat.mod_eq_of_lt (hsize.resolve_right (by omega))
      have hfill : filled b m = m := by
        rw [filled, hm, ← hb, List.drop_length, List.append_nil]
      refine ⟨.returned (.data pdTRUE (some m)), ⟨d.capacity, rest, by omega⟩, ?_,
        .received (BoundedDeque.pop?_eq_some_iff.mpr ⟨rfl, hitems⟩), hcap,
        fun m' hm' => hwhole m' (List.mem_cons_of_mem _ hm')⟩
      have hstep := step_receive_cons (s := s) hn (n := n) (l := rest) (hm.trans hmod'.symm) hb
      rwa [hfill] at hstep
  | _ => exact absurd hc id

/-- A queue of a size that fits is as asked for. -/
theorem asAsked_of_lt {s : Lib} {queue : Handle} (hn : queue ≠ nullptr) {n size : ℕ}
    (hlen : n < 256) (hsize : size < 256 ∨ n = 0) :
    AsAsked (s.write queue (madeQueue n size [])) queue n size := by
  intro cs hcs
  -- the messages in memory are those of the deque, each of `size` bytes
  let R : Lib → BoundedDeque Bytes → Prop := fun s' d =>
    s' = s.write queue (madeQueue n size d.items) ∧ d.capacity = n ∧ ∀ m ∈ d.items, m.length = size
  have hstep : ∀ s' d c, R s' d → IsMessageCall queue size c →
      ∃ r s'' d', s'.Step c r s'' ∧ AskedStep queue d c r d' ∧ R s'' d' := by
    rintro _ d c ⟨rfl, hcap, hwhole⟩ hc
    obtain ⟨r, d', h, hasked, hcap', hwhole'⟩ := exists_askedStep hn hlen hsize hcap hwhole hc
    exact ⟨r, _, d', h, hasked, rfl, hcap', hwhole'⟩
  have h₀ : R (s.write queue (madeQueue n size [])) (emptyDeque n) :=
    ⟨rfl, rfl, fun _ hm => by cases hm⟩
  obtain ⟨tr, s', d, htr, hrun, hasked, -⟩ := Run.exists_simulating hstep h₀ cs hcs
  exact ⟨tr, s', d, htr, hrun, hasked⟩

/-! ## Sizes that do not fit -/

/-- A call that is answered by `yes` while fewer than `cap` items wait, and by `no` after, is made
over and over: `no` comes exactly when there are more calls than there is room for. -/
theorem refused_iff {σ : Type} {step : σ → Call → Reply → σ → Prop} {W : σ → ℕ → Prop} {c : Call}
    {yes no : Reply} (cap : ℕ) (hne : yes ≠ no)
    (hstep : ∀ s k r s', W s k → step s c r s' →
      (k < cap ∧ r = yes ∧ W s' (k + 1)) ∨ (cap ≤ k ∧ r = no ∧ W s' k))
    {s s' : σ} {tr : List (Call × Reply)} (h : Run step s tr s') (hc : ∀ cr ∈ tr, cr.1 = c) {k : ℕ}
    (hk : k ≤ cap) (hW : W s k) : no ∈ tr.map Prod.snd ↔ cap < k + tr.length := by
  induction h generalizing k with
  | nil => simp [hk]
  | @cons s s₁ s' c' r tr hs _ ih =>
    obtain rfl : c' = c := hc _ List.mem_cons_self
    have hc' : ∀ cr ∈ tr, cr.1 = c' := fun cr hcr => hc cr (List.mem_cons_of_mem _ hcr)
    rcases hstep s k r s₁ hW hs with ⟨hlt, rfl, hW'⟩ | ⟨hle, rfl, -⟩
    · rw [List.map_cons, List.mem_cons, or_iff_right hne.symm, ih hc' hlt hW', List.length_cons]
      omega
    · refine iff_of_true List.mem_cons_self ?_
      rw [List.length_cons]
      omega

/-- A queue whose length does not fit refuses a message too early. -/
theorem not_asAsked_of_length {s : Lib} {queue : Handle} (hn : queue ≠ nullptr) {n : ℕ}
    (hlen : 256 ≤ n) (size : ℕ) : ¬ AsAsked (s.write queue (madeQueue n size [])) queue n size := by
  intro hall
  have hlt : n % 256 < n := (Nat.mod_lt n (by decide)).trans_le hlen
  let item : Buffer := some (List.replicate size 0)
  have hitem : (item.getD []).length = size := List.length_replicate
  let c : Call := .send queue item (copyPosition .back)
  -- one call more than there is room for in memory
  obtain ⟨tr, s', d, htr, hrun, hasked⟩ := hall (List.replicate (n % 256 + 1) c) fun c' hc' => by
    rw [List.eq_of_mem_replicate hc']
    exact ⟨rfl, ⟨.back, rfl⟩, hitem⟩
  have hcalls : ∀ cr ∈ tr, cr.1 = c := fun cr hcr =>
    List.eq_of_mem_replicate (htr ▸ List.mem_map_of_mem hcr)
  have hcount : tr.length = n % 256 + 1 := by
    rw [← List.length_map (f := Prod.fst), htr, List.length_replicate]
  have hne : Reply.returned (.code pdTRUE) ≠ .returned (.code errQUEUE_FULL) := by decide
  have hmemory := refused_iff (n % 256) hne (W := fun s' k => ∃ l : List Bytes,
    s' = s.write queue (madeQueue n size l) ∧ l.length = k) (c := c) ?_ hrun hcalls
    (Nat.zero_le _) ⟨[], rfl, rfl⟩
  have hdeque := refused_iff n hne
    (W := fun d k => d.capacity = n ∧ d.items.length = k) (c := c) ?_ hasked hcalls
    (Nat.zero_le _) ⟨rfl, rfl⟩
  · have := hdeque.mp (hmemory.mpr (by omega))
    omega
  · rintro d k r d' ⟨hcap, rfl⟩ hs
    rcases AskedStep.of_send hs with ⟨h, rfl⟩ | ⟨h, rfl, rfl⟩
    · obtain ⟨hroom, hcap', hitems⟩ := BoundedDeque.push?_eq_some_iff.mp h
      refine .inl ⟨hcap ▸ hroom, rfl, hcap'.trans hcap, ?_⟩
      rw [hitems, BoundedDeque.length_pushItems]
    · have hfull := BoundedDeque.push?_eq_none_iff.mp h
      rw [BoundedDeque.waiting] at hfull
      exact .inr ⟨by omega, rfl, hcap, rfl⟩
  · rintro _ k r s' ⟨l, rfl, rfl⟩ hs
    by_cases hroom : l.length < n % 256
    · obtain ⟨rfl, rfl⟩ := hs.deterministic (step_send_room hn hitem .back hroom)
      exact .inl ⟨hroom, rfl, _, rfl, BoundedDeque.length_pushItems ..⟩
    · obtain ⟨rfl, rfl⟩ := hs.deterministic (step_send_full hn hitem .back (by omega))
      exact .inr ⟨by omega, rfl, l, rfl, rfl⟩

/-- Zeros of which only the first `k` are filled with ones. -/
theorem filled_ne_ones {k size : ℕ} (hk : k < size) :
    filled (List.replicate size 0) ((List.replicate size 1).take k) ≠ List.replicate size 1 := by
  intro he
  have hzero : (0 : UInt8) ∈ filled (List.replicate size 0) ((List.replicate size 1).take k) := by
    refine List.mem_append_right _ ?_
    rw [List.length_take, List.length_replicate, Nat.min_eq_left hk.le, List.drop_replicate,
      List.mem_replicate]
    exact ⟨Nat.sub_ne_zero_of_lt hk, rfl⟩
  rw [he, List.mem_replicate] at hzero
  exact absurd hzero.2 (by decide)

/-- A queue whose item size does not fit hands over the first bytes of a message only. -/
theorem not_asAsked_of_size {s : Lib} {queue : Handle} (hn : queue ≠ nullptr) {n size : ℕ}
    (hpos : 0 < n) (hlen : n < 256) (hsize : 256 ≤ size) :
    ¬ AsAsked (s.write queue (madeQueue n size [])) queue n size := by
  intro hall
  have hlt : size % 256 < size := (Nat.mod_lt size (by decide)).trans_le hsize
  obtain ⟨ones, hones'⟩ : ∃ ones : Bytes, ones = List.replicate size 1 := ⟨_, rfl⟩
  obtain ⟨zeros, hzeros'⟩ : ∃ zeros : Bytes, zeros = List.replicate size 0 := ⟨_, rfl⟩
  have hones : ones.length = size := by rw [hones', List.length_replicate]
  have hzeros : zeros.length = size := by rw [hzeros', List.length_replicate]
  obtain ⟨tr, s', d, htr, hrun, hasked⟩ := hall [.send queue (some ones) (copyPosition .back),
      .receive queue (some zeros)] fun c hc => by
    rcases List.mem_pair.mp hc with rfl | rfl
    · exact ⟨rfl, ⟨.back, rfl⟩, hones⟩
    · exact ⟨rfl, zeros, rfl, hzeros⟩
  have hitem : ((some ones : Buffer).getD []).length = size := hones
  have hsend := step_send_room (s := s) hn (n := n) (l := []) hitem .back
    (by rw [Nat.mod_eq_of_lt hlen]; exact hpos)
  have htake : (ones.take (size % 256)).length = size % 256 := by
    rw [List.length_take, hones, Nat.min_eq_left hlt.le]
  have hreceive := step_receive_cons (s := s) hn (n := n) (l := []) htake hzeros
  obtain ⟨⟨c₁, r₁⟩, ⟨c₂, r₂⟩, rfl⟩ := List.length_eq_two.mp
    ((List.length_map (f := Prod.fst)).symm.trans (congrArg List.length htr))
  obtain ⟨rfl, rfl⟩ : c₁ = .send queue (some ones) (copyPosition .back) ∧
      c₂ = .receive queue (some zeros) := by simpa using htr
  cases hrun with
  | cons hs₁ hrun =>
    obtain ⟨rfl, rfl⟩ := hs₁.deterministic hsend
    cases hrun with
    | cons hs₂ _ =>
      obtain ⟨rfl, -⟩ := hs₂.deterministic hreceive
      cases hasked with
      | cons ha₁ hasked =>
        -- the deque holds the whole message after the send
        have hyes : Reply.returned (.code pdTRUE) ≠ .returned (.code errQUEUE_FULL) := by decide
        obtain ⟨hpush, -⟩ := (AskedStep.of_send ha₁).resolve_right fun h => hyes h.2.1
        obtain ⟨-, -, hitems⟩ := BoundedDeque.push?_eq_some_iff.mp hpush
        cases hasked with
        | cons ha₂ _ =>
          obtain ⟨m, d', hpop, hm⟩ : ∃ m d', BoundedDeque.pop? _ = some (m, d') ∧
              some (filled zeros (ones.take (size % 256))) = some m := by
            cases ha₂ with
            | received h => exact ⟨_, _, h, rfl⟩
          obtain ⟨-, hcons⟩ := BoundedDeque.pop?_eq_some_iff.mp hpop
          obtain ⟨rfl, -⟩ := List.cons_eq_cons.mp (hitems.symm.trans hcons)
          have hfilled := Option.some.inj hm
          rw [hones', hzeros'] at hfilled
          exact filled_ne_ones hlt hfilled

/-! ## When a queue is as asked for -/

/-- Both creators make the same queue. -/
theorem eq_of_created {s s₁ : Lib} {addr queue : Handle} {n size : ℕ}
    (h : EStateM.run (xQueueCreate addr n size) s = .ok queue s₁ ∨
      EStateM.run (xQueueCreateStatic addr n size) s = .ok queue s₁) :
    queue ≠ nullptr ∧ s₁ = s.write queue (madeQueue n size []) := by
  have hrun : EStateM.run (xQueueGenericCreate addr (UInt8.ofNat n) (UInt8.ofNat size)
      queueQUEUE_TYPE_BASE) s = .ok queue s₁ := h.elim id id
  by_cases hf : s.Fresh addr
  · rw [run_xQueueGenericCreate hf] at hrun
    obtain ⟨rfl, rfl⟩ := EStateM.Result.ok.inj hrun
    exact ⟨hf.1, rfl⟩
  · rw [run_xQueueGenericCreate_not_fresh hf] at hrun
    cases hrun

/-- **A created queue has the size that was asked for** exactly when its length and its item size
fit in 8 bits, or no messages were asked for. -/
theorem created_asAsked_iff {s s₁ : Lib} {addr queue : Handle} {n size : ℕ}
    (hcreate : EStateM.run (xQueueCreate addr n size) s = .ok queue s₁ ∨
      EStateM.run (xQueueCreateStatic addr n size) s = .ok queue s₁) :
    AsAsked s₁ queue n size ↔ n < 256 ∧ (size < 256 ∨ n = 0) := by
  obtain ⟨hn, rfl⟩ := eq_of_created hcreate
  constructor
  · intro hall
    have hlen : n < 256 := by
      by_contra hge
      exact not_asAsked_of_length hn (Nat.le_of_not_lt hge) size hall
    refine ⟨hlen, ?_⟩
    by_contra hsize
    obtain ⟨hge, hpos⟩ := not_or.mp hsize
    exact not_asAsked_of_size hn (Nat.pos_of_ne_zero hpos) hlen (Nat.le_of_not_lt hge) hall
  · rintro ⟨hlen, hsize⟩
    exact asAsked_of_lt hn hlen hsize

/-- A queue for 255 messages of 255 bytes, the most that fits. -/
theorem created_asAsked_largest : ∃ s₁,
    EStateM.run (xQueueCreate 1 255 255) Lib.init = .ok 1 s₁ ∧ AsAsked s₁ 1 255 255 := by
  have hrun : EStateM.run (xQueueCreate 1 255 255) Lib.init =
      .ok 1 (Lib.init.write 1 (madeQueue 255 255 [])) := by decide +kernel
  exact ⟨_, hrun, (created_asAsked_iff (.inl hrun)).mpr (by decide)⟩

/-- A queue for 256 messages holds none, and a queue for one message of 257 bytes hands over its
first byte only. -/
theorem created_not_asAsked :
    (∃ s₁, EStateM.run (xQueueCreate 1 256 1) Lib.init = .ok 1 s₁ ∧ ¬ AsAsked s₁ 1 256 1) ∧
    (∃ s₁, EStateM.run (xQueueCreate 1 1 257) Lib.init = .ok 1 s₁ ∧ ¬ AsAsked s₁ 1 1 257) := by
  have hn : (1 : Handle) ≠ nullptr := by decide
  refine ⟨⟨Lib.init.write 1 (madeQueue 256 1 []), by decide +kernel, ?_⟩,
    ⟨Lib.init.write 1 (madeQueue 1 257 []), by decide +kernel, ?_⟩⟩
  · exact not_asAsked_of_length hn (by decide) 1
  · exact not_asAsked_of_size hn (by decide) (by decide) (by decide)

end FakeFreeRtos
