import FakeFreeRtos.Queue.Lifecycle

/-!
# Invariants of reachable memories

Every memory that a program can build, whatever it passes, is `Lib.Sound`: the queues are within
their bounds and a recursive mutex is a semaphore of one token (`Lib.Reachable.sound`). A program
that adds queues only to sets, and deletes no set that has members, keeps every set live
(`Lib.Legal.setsLive`).
-/

namespace FakeFreeRtos

open Foundations

/-! ## Reachable memories are sound -/

/-- The queues are within their bounds, and a recursive mutex is a semaphore of one token. -/
structure Lib.Sound (s : Lib) : Prop where
  wellFormed : s.WellFormed
  recursive : ∀ h q, s.lookup h = some q → q.queueType = queueQUEUE_TYPE_RECURSIVE_MUTEX →
    q.queueLength = 1 ∧ q.itemSize = 0

theorem Lib.sound_init : Lib.init.Sound :=
  ⟨⟨fun _ _ hq => (by cases hq), rfl⟩, fun _ _ hq => by cases hq⟩

/-- A queue within its bounds that is a recursive mutex only in the right form. -/
def FakeQueue.Sound (q : FakeQueue) : Prop :=
  q.WellFormed ∧
    (q.queueType = queueQUEUE_TYPE_RECURSIVE_MUTEX → q.queueLength = 1 ∧ q.itemSize = 0)

theorem Lib.Sound.write {s : Lib} (hs : s.Sound) {h : Handle} {q : FakeQueue} (hn : h ≠ nullptr)
    (hq : q.Sound) : (s.write h q).Sound := by
  refine ⟨hs.wellFormed.write hn hq.1, fun x q' hq' ht => ?_⟩
  by_cases hx : x = h
  · subst hx
    rw [lookup_write_self, Option.some.injEq] at hq'
    exact hq' ▸ hq.2 (hq' ▸ ht)
  · rw [lookup_write_of_ne _ _ hx] at hq'
    exact hs.recursive x q' hq' ht

theorem FakeQueue.wellFormed_replicate {q : FakeQueue} {n : ℕ} (hi : q.itemSize = 0)
    (hq : q.queue = List.replicate n []) (hn : n ≤ q.queueLength.toNat) : q.WellFormed := by
  refine ⟨by rw [hq, List.length_replicate]; exact hn, fun m hm => ?_⟩
  rw [hq] at hm
  rw [List.eq_of_mem_replicate hm, hi]
  rfl

theorem freshQueue_wellFormed (l n : UBaseType) (t : UInt8) : (freshQueue l n t).WellFormed :=
  ⟨Nat.zero_le _, fun m hm => by cases hm⟩

theorem Call.Creates.wellFormed {c : Call} {addr : Handle} {q : FakeQueue}
    (h : c.Creates addr q) : q.WellFormed := by
  cases c with
  | create => obtain ⟨-, rfl⟩ := h; exact freshQueue_wellFormed ..
  | createSet => obtain ⟨-, rfl⟩ := h; exact freshQueue_wellFormed ..
  | createCountingSemaphore =>
    obtain ⟨-, rfl⟩ := h
    exact FakeQueue.wellFormed_replicate rfl rfl (Nat.min_le_right ..)
  | createMutex => obtain ⟨-, -, rfl⟩ := h; exact freshQueue_wellFormed ..
  | _ => exact absurd h id

theorem Call.Creates.sound {c : Call} {addr : Handle} {q : FakeQueue} (h : c.Creates addr q)
    (hc : c.MutexesByCreateMutex) : q.Sound := by
  refine ⟨h.wellFormed, fun ht => absurd ht ?_⟩
  cases c with
  | create =>
    obtain ⟨-, rfl⟩ := h
    exact hc.2
  | createSet =>
    obtain ⟨-, rfl⟩ := h
    exact (by decide : queueQUEUE_TYPE_SET ≠ queueQUEUE_TYPE_RECURSIVE_MUTEX)
  | createCountingSemaphore =>
    obtain ⟨-, rfl⟩ := h
    exact (by decide : queueQUEUE_TYPE_BASE ≠ queueQUEUE_TYPE_RECURSIVE_MUTEX)
  | createMutex =>
    obtain ⟨-, hmt, rfl⟩ := h
    exact fun ht => hmt (.inr ht)
  | _ => exact absurd h id

theorem freshMutex_sound (t : UInt8) : (freshMutex t).Sound :=
  ⟨FakeQueue.wellFormed_replicate (n := 1) rfl rfl (Nat.le_refl 1), fun _ => ⟨rfl, rfl⟩⟩

theorem Lib.lookup_of_lookup_free {s : Lib} {h x : Handle} {q : FakeQueue}
    (hq : (s.free h).lookup x = some q) : s.lookup x = some q := by
  by_cases hx : x = h
  · subst hx
    rw [lookup_free_self] at hq
    cases hq
  · rwa [lookup_free_of_ne _ hx] at hq

theorem Lib.WellFormed.free {s : Lib} (hs : s.WellFormed) (h : Handle) : (s.free h).WellFormed := by
  refine ⟨fun x q hq => hs.queue x q (lookup_of_lookup_free hq), ?_⟩
  by_contra hne
  obtain ⟨q, hq⟩ := Option.ne_none_iff_exists'.mp hne
  exact hs.ne_nullptr (lookup_of_lookup_free hq) rfl

/-- Well-formedness does not depend on the tracked mutexes. -/
theorem Lib.WellFormed.congr {s s' : Lib} (hs : s.WellFormed) (h : ∀ x, s'.lookup x = s.lookup x) :
    s'.WellFormed :=
  ⟨fun x q hq => hs.queue x q (h x ▸ hq), by rw [h, hs.null]⟩

theorem Lib.Sound.free {s : Lib} (hs : s.Sound) (h : Handle) : (s.free h).Sound :=
  ⟨hs.wellFormed.free h, fun x q hq => hs.recursive x q (lookup_of_lookup_free hq)⟩

theorem Lib.Sound.congr {s s' : Lib} (hs : s.Sound) (h : ∀ x, s'.lookup x = s.lookup x) :
    s'.Sound :=
  ⟨hs.wellFormed.congr h, fun x q hq => hs.recursive x q (h x ▸ hq)⟩

theorem Lib.Retains.sound {s s' : Lib} (h : s.Evolves s') (hs : s.Sound) : s'.Sound := by
  refine ⟨h.wellFormed hs.wellFormed, fun x q' hq' ht => ?_⟩
  obtain ⟨q, hq, hk⟩ := h.exists_lookup_of_after hq'
  obtain ⟨hlen, hitem, htype⟩ : q'.queueLength = q.queueLength ∧ q'.itemSize = q.itemSize ∧
      q'.queueType = q.queueType := by simpa [FakeQueue.kind] using hk
  rw [hlen, hitem]
  exact hs.recursive x q hq (htype ▸ ht)

theorem Lib.Effect.sound {s s' : Lib} {c : Call} (h : s.Effect c s')
    (hc : c.MutexesByCreateMutex) (hs : s.Sound) : s'.Sound := by
  cases h with
  | evolves _ h => exact h.sound hs
  | unchanged => exact hs
  | creates hcr hf => exact hs.write hf.1 (hcr.sound hc)
  | createsMutex ht hf => exact (hs.write hf.1 (freshMutex_sound _)).congr fun _ => rfl
  | deletes hq =>
    refine Lib.Sound.free ?_ _
    split
    · exact hs.congr fun _ => rfl
    · exact hs
  | tracksOn => exact hs.congr fun _ => rfl
  | tracksOff => exact hs.congr fun _ => rfl

/-- Every call keeps the queues within their bounds, also when a mutex is made in another way. -/
theorem Lib.Effect.wellFormed {s s' : Lib} {c : Call} (h : s.Effect c s') (hs : s.WellFormed) :
    s'.WellFormed := by
  cases h with
  | evolves _ h => exact Lib.Retains.wellFormed h hs
  | unchanged => exact hs
  | creates hcr hf => exact hs.write hf.1 hcr.wellFormed
  | createsMutex ht hf => exact (hs.write hf.1 (freshMutex_sound _).1).congr fun _ => rfl
  | deletes hq =>
    refine Lib.WellFormed.free ?_ _
    split
    · exact hs.congr fun _ => rfl
    · exact hs
  | tracksOn => exact hs.congr fun _ => rfl
  | tracksOff => exact hs.congr fun _ => rfl

/-- Only the setup and the teardown of the tracking turn it on and off. -/
theorem Lib.Effect.isSome_s_mutexes {s s' : Lib} {c : Call} (h : s.Effect c s')
    (hi : c ≠ .trackingInit) (ht : c ≠ .trackingTeardown) :
    s'.s_mutexes.isSome = s.s_mutexes.isSome := by
  cases h with
  | evolves _ h => rw [Lib.Retains.s_mutexes h]
  | unchanged => rfl
  | creates => rfl
  | createsMutex => exact Option.isSome_map ..
  | deletes =>
    rw [s_mutexes_free]
    split
    · exact Option.isSome_map ..
    · rfl
  | tracksOn => exact absurd rfl hi
  | tracksOff => exact absurd rfl ht

/-- **Every memory that a program can build is sound.** -/
theorem Lib.Reachable.sound {s : Lib} (h : s.Reachable) : s.Sound := by
  obtain ⟨tr, hrun⟩ := h
  exact hrun.invariant (fun _ _ _ _ hs ⟨hc, hstep, hd⟩ => (hstep.effect hd).sound hc hs)
    Lib.sound_init

/-- One more call. -/
theorem Lib.Reachable.step {s s' : Lib} (h : s.Reachable) {c : Call} {r : Reply}
    (hstep : s.Step c r s') (hc : c.MutexesByCreateMutex) (hd : r.Defined) : s'.Reachable := by
  obtain ⟨tr, hrun⟩ := h
  exact ⟨_, hrun.snoc ⟨hc, hstep, hd⟩⟩

/-! ## Legal memories keep their sets live -/

theorem Lib.legal_init : Lib.init.Legal := ⟨[], .nil _⟩

theorem Lib.Legal.step {s s' : Lib} (h : s.Legal) {c : Call} {r : Reply} (hstep : s.Step c r s')
    (hset : s.SetDiscipline c) (hc : c.MutexesByCreateMutex) (hd : r.Defined) : s'.Legal := by
  obtain ⟨tr, hrun⟩ := h
  exact ⟨_, hrun.snoc ⟨hset, hc, hstep, hd⟩⟩

/-- A queue or set may be created at any time. -/
theorem Lib.Legal.create {s : Lib} (h : s.Legal) {addr : Handle} (hf : s.Fresh addr)
    (l n : UBaseType) {t : UInt8}
    (ht : t ≠ queueQUEUE_TYPE_MUTEX ∧ t ≠ queueQUEUE_TYPE_RECURSIVE_MUTEX) :
    (s.write addr (freshQueue l n t)).Legal := by
  have hstep : s.Step (.create addr l n t) (.returned (.handle addr))
      (s.write addr (freshQueue l n t)) :=
    Lib.step_of_ok rfl (run_xQueueGenericCreate hf ..)
  exact h.step hstep trivial ht (by simp [Reply.Defined])

theorem Call.Creates.container {c : Call} {addr : Handle} {q : FakeQueue}
    (h : c.Creates addr q) : q.queueSetContainer = nullptr := by
  cases c with
  | create => obtain ⟨-, rfl⟩ := h; rfl
  | createSet => obtain ⟨-, rfl⟩ := h; rfl
  | createCountingSemaphore => obtain ⟨-, rfl⟩ := h; rfl
  | createMutex => obtain ⟨-, -, rfl⟩ := h; rfl
  | _ => exact absurd h id

/-- A queue of two one-byte messages at 1, and a semaphore of one token at 2. -/
def queueAndSemaphore : Lib := (Lib.init.write 1 (freshQueue 2 1 0)).write 2 (freshQueue 1 0 0)

theorem queueAndSemaphore_legal : queueAndSemaphore.Legal :=
  (Lib.legal_init.create (by simp [Lib.Fresh, nullptr]) 2 1 (by decide)).create
    ⟨by decide, by decide⟩ 1 0 (by decide)

/-- A fresh queue is in no set, and no set is hidden by it. -/
theorem Lib.SetsLive.write_fresh {s : Lib} (hs : s.SetsLive) {addr : Handle} (hf : s.Fresh addr)
    {q : FakeQueue} (hq : q.queueSetContainer = nullptr) : (s.write addr q).SetsLive := by
  intro x q' hq' hne
  by_cases hx : x = addr
  · subst hx
    rw [lookup_write_self, Option.some.injEq] at hq'
    exact absurd (hq' ▸ hq) hne
  · rw [lookup_write_of_ne _ _ hx] at hq'
    obtain ⟨S, hS, hsize⟩ := hs x q' hq' hne
    refine ⟨S, ?_, hsize⟩
    rw [lookup_write_of_ne, hS]
    rintro he
    rw [he, hf.2] at hS
    cases hS

/-- Changing the set of a queue to null or to a set. -/
theorem Lib.SetsLive.write_container {s : Lib} (hs : s.SetsLive) {h : Handle} {q : FakeQueue}
    (hq : s.lookup h = some q) {set : Handle} (hset : set = nullptr ∨ s.IsSet set) :
    (s.write h { q with queueSetContainer := set }).SetsLive := by
  have hlive : ∀ k S, s.lookup k = some S → S.itemSize.toNat = sizeofHandle →
      ∃ S', (s.write h { q with queueSetContainer := set }).lookup k = some S' ∧
        S'.itemSize.toNat = sizeofHandle := by
    intro k S hS hsize
    by_cases hk : k = h
    · subst hk
      obtain rfl : q = S := Option.some.inj (hq.symm.trans hS)
      exact ⟨_, lookup_write_self .., hsize⟩
    · exact ⟨S, by rw [lookup_write_of_ne _ _ hk, hS], hsize⟩
  intro x q' hq' hne
  by_cases hx : x = h
  · subst hx
    rw [lookup_write_self, Option.some.injEq] at hq'
    subst hq'
    obtain ⟨S, hS, hsize⟩ := hset.resolve_left hne
    exact hlive _ S hS hsize
  · rw [lookup_write_of_ne _ _ hx] at hq'
    obtain ⟨S, hS, hsize⟩ := hs x q' hq' hne
    exact hlive _ S hS hsize

theorem Lib.Retains.setsLive {s s' : Lib} (h : s.Retains FakeQueue.membership s')
    (hs : s.SetsLive) : s'.SetsLive := by
  intro x q' hq' hne
  obtain ⟨q, hq, hm⟩ := h.exists_lookup_of_after hq'
  have hc : q'.queueSetContainer = q.queueSetContainer := congrArg Prod.snd hm
  rw [hc] at hne ⊢
  obtain ⟨S, hS, hsize⟩ := hs x q hq hne
  obtain ⟨S', hS', hm'⟩ := h.exists_lookup hS
  have hi : S'.itemSize = S.itemSize := congrArg (fun m => m.1.2.1) hm'
  exact ⟨S', hS', hi ▸ hsize⟩

theorem Lib.Step.setsLive {s s' : Lib} {c : Call} {r : Reply} (h : s.Step c r s')
    (hd : r.Defined) (hset : s.SetDiscipline c) (hs : s.SetsLive) : s'.SetsLive := by
  by_cases hk : c.KeepsSets
  · exact (h.retains hk).setsLive hs
  cases h.effect hd with
  | unchanged => exact hs
  | creates hcr hf => exact hs.write_fresh hf hcr.container
  | createsMutex ht hf => exact hs.write_fresh hf rfl
  | @deletes queue q hq =>
    have hlookup : ∀ x, ((if q.queueType = queueQUEUE_TYPE_MUTEX then s.untrack queue
        else s).free queue).lookup x = (s.free queue).lookup x := fun x => by split <;> rfl
    intro x q' hq' hne
    rw [hlookup] at hq'
    have hx : x ≠ queue := by
      rintro rfl
      rw [lookup_free_self] at hq'
      cases hq'
    rw [lookup_free_of_ne _ hx] at hq'
    obtain ⟨S, hS, hsize⟩ := hs x q' hq' hne
    refine ⟨S, ?_, hsize⟩
    rw [hlookup, lookup_free_of_ne, hS]
    exact fun he => hne (he.trans (hset x q' hq' he))
  | tracksOn => exact hs
  | tracksOff => exact hs
  | evolves hc =>
    cases c with
    | addToSet item set =>
      rcases run_xQueueAddToSet_cases s item set with
        hrun | ⟨-, -, hrun⟩ | hrun | ⟨q, -, -, hq, -, -, hrun⟩
      · exact (h.deterministic (Lib.step_of_error rfl hrun)).2 ▸ hs
      · exact (h.deterministic (Lib.step_of_error rfl hrun)).2 ▸ hs
      · exact (h.deterministic (Lib.step_of_ok rfl hrun)).2 ▸ hs
      · exact (h.deterministic (Lib.step_of_ok rfl hrun)).2 ▸ hs.write_container hq hset
    | removeFromSet item set =>
      rcases run_xQueueRemoveFromSet_cases s item set with
        hrun | ⟨-, -, hrun⟩ | hrun | ⟨q, -, -, hq, -, -, hrun⟩
      · exact (h.deterministic (Lib.step_of_error rfl hrun)).2 ▸ hs
      · exact (h.deterministic (Lib.step_of_error rfl hrun)).2 ▸ hs
      · exact (h.deterministic (Lib.step_of_ok rfl hrun)).2 ▸ hs
      · exact (h.deterministic (Lib.step_of_ok rfl hrun)).2 ▸ hs.write_container hq (.inl rfl)
    | _ => exact absurd hc hk

/-- **A program that keeps the discipline on sets keeps every set live.** -/
theorem Lib.Legal.setsLive {s : Lib} (h : s.Legal) : s.SetsLive := by
  obtain ⟨tr, hrun⟩ := h
  refine hrun.invariant (fun _ _ _ _ hs ⟨hset, _, hstep, hd⟩ => hstep.setsLive hd hset hs) ?_
  exact fun _ _ hq => by cases hq

theorem Lib.Legal.wellFormed {s : Lib} (h : s.Legal) : s.WellFormed :=
  h.reachable.sound.wellFormed

end FakeFreeRtos
