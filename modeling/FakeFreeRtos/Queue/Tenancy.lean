import FakeFreeRtos.Queue.Tasks

/-!
# Tenants of the library

A service is a tenant of the library: it keeps at most one queue, under a handle in a variable of
its own, puts it in no set, and deletes it before it clears the variable. The rest of the program
does not pass that handle while the service has it. Then the service cannot be told from outside:
whatever it does (`Tenancy.Discreet`), the calls of the rest answer as they do without it, and away
from its queue the memory is what the rest has made of it (`Tenancy.leavesNoTrace`). It spares the
queues of other tenants as well, which keep to theirs in the same way.
-/

namespace FakeFreeRtos

open Foundations

/-- The queue at `h`, if there is one, is in no set and no standard mutex. -/
def Lib.Standalone (s : Lib) (h : Handle) : Prop :=
  h ≠ nullptr → ∀ q, s.lookup h = some q →
    q.queueSetContainer = nullptr ∧ q.queueType ≠ queueQUEUE_TYPE_MUTEX

/-- Only the queue at `h`, which is not null, is touched, and it is standalone afterwards. -/
structure Lib.OnlyAt (h : Handle) (s s' : Lib) : Prop where
  lookup : ∀ x, x ≠ h ∨ x = nullptr → s'.lookup x = s.lookup x
  s_mutexes : s'.s_mutexes = s.s_mutexes
  standalone : s'.Standalone h

/-- Only the queue at `h` is touched, if it is standalone. -/
def Lib.Serves (h : Handle) (s s' : Lib) : Prop := s.Standalone h → s.OnlyAt h s'

instance (h : Handle) : IsPreorder Lib (Lib.Serves h) where
  refl _ hs := ⟨fun _ _ => rfl, rfl, hs⟩
  trans _ _ _ h₁ h₂ hs := by
    obtain ⟨hlookup, hmutexes, hs'⟩ := h₁ hs
    obtain ⟨hlookup', hmutexes', hs''⟩ := h₂ hs'
    exact ⟨fun x hx => (hlookup' x hx).trans (hlookup x hx), hmutexes'.trans hmutexes, hs''⟩

/-- The queue at another address is spared. -/
theorem Lib.OnlyAt.spares {h x : Handle} {s s' : Lib} (hat : s.OnlyAt h s') (hne : x ≠ h)
    (hn : x ≠ nullptr) : Lib.Spares x s s' := by
  refine fun hno => ⟨fun y q hq => ?_, hat.lookup x (.inl hne)⟩
  by_cases hy : y ≠ h ∨ y = nullptr
  · rw [hat.lookup y hy] at hq
    exact hno y q hq
  · obtain ⟨rfl, hy'⟩ := (not_or.mp hy).imp_left not_not.mp
    rw [(hat.standalone hy' q hq).1]
    exact hn.symm

/-! ## Functions that work on one queue -/

section Functions

variable {s : Lib} {h : Handle} {q : FakeQueue}

theorem ne_of_ne_nullptr {x : Handle} (hn : h ≠ nullptr) (hx : x ≠ h ∨ x = nullptr) : x ≠ h :=
  hx.elim id fun he => he ▸ hn.symm

theorem Lib.onlyAt_write (s : Lib) (hn : h ≠ nullptr) (hc : q.queueSetContainer = nullptr)
    (ht : q.queueType ≠ queueQUEUE_TYPE_MUTEX) : s.OnlyAt h (s.write h q) where
  lookup _ hx := Lib.lookup_write_of_ne _ _ (ne_of_ne_nullptr hn hx)
  s_mutexes := rfl
  standalone _ q' hq' := by
    rw [Lib.lookup_write_self] at hq'
    exact Option.some.inj hq' ▸ ⟨hc, ht⟩

theorem Lib.onlyAt_free (s : Lib) (hn : h ≠ nullptr) : s.OnlyAt h (s.free h) where
  lookup _ hx := Lib.lookup_free_of_ne _ (ne_of_ne_nullptr hn hx)
  s_mutexes := rfl
  standalone _ q' hq' := by
    rw [Lib.lookup_free_self] at hq'
    cases hq'

/-- Other messages are written to a queue. -/
theorem Lib.serves_write (hn : h ≠ nullptr) (hq : s.lookup h = some q) (l : List Bytes) :
    Lib.Serves h s (s.write h { q with queue := l }) := fun hs =>
  Lib.onlyAt_write s hn (hs hn q hq).1 (hs hn q hq).2

theorem serves_xQueueGenericSend (item : Buffer) (pos : BaseType) :
    Ensures (Lib.Serves h) (xQueueGenericSend h item pos) := by
  intro s hs
  rw [run_xQueueGenericSend_eq]
  rcases run_xQueueGenericSendFuel_cases (s.freeSlots + 1) s h item pos with
    ⟨x, -, hrun⟩ | ⟨-, hrun⟩ | ⟨q, l, hn, hq, -, -, hrun⟩
  · rw [hrun]; exact refl_of (Lib.Serves h) s hs
  · rw [hrun]; exact refl_of (Lib.Serves h) s hs
  · rw [hrun, if_neg fun hne => hne (hs hn q hq).1]
    exact Lib.serves_write hn hq l hs

theorem serves_internalQueueReceive (buffer : Buffer) :
    Ensures (Lib.Serves h) (internalQueueReceive h buffer) := by
  intro s
  rcases run_internalQueueReceive_cases s h buffer with
    ⟨x, hrun⟩ | hrun | ⟨q, m, rest, b, hn, hq, -, -, hrun⟩
  · rw [hrun]; exact refl_of _ s
  · rw [hrun]; exact refl_of _ s
  · rw [hrun]; exact Lib.serves_write hn hq rest

theorem serves_xQueueReceive (buffer : Buffer) :
    Ensures (Lib.Serves h) (xQueueReceive h buffer) :=
  (ensures_configASSERT _).bind fun _ => (ensures_configASSERT _).bind fun _ =>
    serves_internalQueueReceive _

theorem serves_xQueueSemaphoreTake : Ensures (Lib.Serves h) (xQueueSemaphoreTake h) :=
  (ensures_configASSERT _).bind fun _ => (ensures_deref _).bind fun _ =>
    (ensures_configASSERT _).bind fun _ => (ensures_configASSERT _).bind fun _ =>
      (serves_internalQueueReceive _).bind fun _ => .pure _

theorem serves_xQueueGiveFromISR : Ensures (Lib.Serves h) (xQueueGiveFromISR h) :=
  (ensures_configASSERT _).bind fun _ => (ensures_deref _).bind fun _ =>
    (ensures_configASSERT _).bind fun _ => serves_xQueueGenericSend _ _

theorem serves_vQueueDelete : Ensures (Lib.Serves h) (vQueueDelete h) := by
  intro s hs
  by_cases hn : h = nullptr
  · simp only [vQueueDelete, EStateM.run_bind, run_configASSERT_of_not (not_not.mpr hn)]
    exact refl_of (Lib.Serves h) s hs
  cases hq : s.lookup h with
  | none =>
    rw [run_vQueueDelete_of_none hn hq]
    exact refl_of (Lib.Serves h) s hs
  | some q =>
    rw [run_vQueueDelete hn hq, if_neg (hs hn q hq).2]
    exact Lib.onlyAt_free s hn

end Functions

/-- A queue that was deleted is gone. -/
theorem lookup_of_run_vQueueDelete {s s' : Lib} {h : Handle} {u : Unit}
    (hrun : EStateM.run (vQueueDelete h) s = .ok u s') : s'.lookup h = none := by
  by_cases hn : h = nullptr
  · simp [vQueueDelete, hn] at hrun
  cases hq : s.lookup h with
  | none =>
    rw [run_vQueueDelete_of_none hn hq] at hrun
    cases hrun
  | some q =>
    rw [run_vQueueDelete hn hq] at hrun
    cases hrun
    exact Lib.lookup_free_self ..

/-- Nothing in the memory refers to the address that the allocator answers. -/
structure Lib.Vacant (s : Lib) (addr : Handle) : Prop extends s.Unused addr where
  untracked : ∀ l, s.s_mutexes = some l → addr ∉ l

/-- A memory without standard mutexes can be searched for what refers to an address. -/
theorem Lib.vacant_of_allLive {s : Lib} {addr : Handle} (hn : addr ≠ nullptr)
    (hfree : s.lookup addr = none)
    (hlive : s.AllLive fun x => (s.lookup x).all fun q => q.queueSetContainer ≠ addr)
    (hmutexes : s.s_mutexes = none) : s.Vacant addr where
  toUnused := Lib.unused_of_allLive hn hfree hlive
  untracked l hl := by
    rw [hmutexes] at hl
    cases hl

/-! ## The tenants and the others -/

/-- The memory, and the handle in the tenant's variable. -/
structure Tenancy where
  handle : Handle
  lib : Lib

namespace Tenancy

variable {v addr : Handle} {U V : Set Handle} {w : Tenancy} {s s' t : Lib}

theorem handles_of_all {c : Call}
    (h : c.handles.all fun h => decide (h = nullptr ∨ h ≠ v)) :
    ∀ h ∈ c.handles, h = nullptr ∨ h ≠ v := fun x hx =>
  of_decide_eq_true (List.all_eq_true.mp h x hx)

/-- What is not the tenants', whose queues are at `V`. -/
def others (V : Set Handle) : View where
  sees h := h ≠ nullptr ∧ h ∉ V
  name := id
  tracking := True
  not_null hh := hh.1 rfl

theorem knows_others_iff {h : Handle} : (others V).Knows h ↔ h = nullptr ∨ h ∉ V := by
  by_cases hn : h = nullptr
  · exact iff_of_true (.inl hn) (.inl hn)
  · exact ⟨fun hh => .inr (hh.resolve_left hn).2, fun hh => .inr ⟨hn, hh.resolve_left hn⟩⟩

/-- The tenants keep to their queues; the others know nothing of these, and see the same as in `t`,
where there are none. -/
structure Hidden (V : Set Handle) (s t : Lib) : Prop where
  standalone : ∀ v ∈ V, s.Standalone v
  tied : (others V).Tied s s t
  absent : ∀ v ∈ V, v ≠ nullptr → t.lookup v = none

/-- Before a tenant moves in. -/
theorem hidden_empty (s : Lib) : Hidden ∅ s s where
  standalone _ hv := hv.elim
  tied :=
    { queues := fun _ _ => View.rel_sameQueue_refl _
      containers := fun _ _ _ _ => knows_others_iff.mpr (.inr id)
      unseen := fun _ _ => rfl
      mutexes := fun _ => rfl
      tracked := fun _ _ _ _ _ => knows_others_iff.mpr (.inr id) }
  absent _ hv := hv.elim

theorem Hidden.standalone_of (h : Hidden V s t) (hv : v ≠ nullptr → v ∈ V) : s.Standalone v :=
  fun hn => h.standalone v (hv hn) hn

/-- A tenant works on its queue, or deletes it. -/
theorem Hidden.works (h : Hidden V s t) (hv : v ≠ nullptr → v ∈ V) (hserves : Lib.Serves v s s') :
    Hidden V s' t := by
  obtain ⟨hlookup, hmutexes, hs'⟩ := hserves (h.standalone_of hv)
  refine ⟨fun u hu => ?_, h.tied.of_seen (fun x hx => hlookup x (.inl ?_)) fun _ => hmutexes,
    h.absent⟩
  · by_cases huv : u = v
    · exact huv ▸ hs'
    · intro hn q hq
      rw [hlookup u (.inl huv)] at hq
      exact h.standalone u hu hn q hq
  · rintro rfl
    exact hx.2 (hv hx.1)

/-- A tenant gets a queue at an address that is vacant. -/
theorem Hidden.rents (h : Hidden V s t) (ha : s.Vacant addr) (hat : s.OnlyAt addr s') :
    Hidden (insert addr V) s' t := by
  obtain ⟨hstandalone, htied, habsent⟩ := h
  have hsees : ∀ x, (others (insert addr V)).sees x → x ≠ addr ∧ (others V).sees x := fun x hx =>
    ⟨fun he => hx.2 (.inl he), hx.1, fun hV => hx.2 (.inr hV)⟩
  have hknows : ∀ x, x ≠ addr → (others V).Knows x → (others (insert addr V)).Knows x :=
    fun x hne hx => knows_others_iff.mpr ((knows_others_iff.mp hx).imp_right fun hV hmem =>
      hmem.elim hne hV)
  refine ⟨fun u hu => ?_, ⟨fun x hx => ?_, fun x q hx hq => ?_, fun _ _ => rfl,
    fun htrack => hat.s_mutexes.trans (htied.mutexes htrack), fun htrack l hl x hx => ?_⟩,
    fun u hu hn => ?_⟩
  · by_cases hua : u = addr
    · exact hua ▸ hat.standalone
    · intro hn q hq
      rw [hat.lookup u (.inl hua)] at hq
      exact hstandalone u (hu.resolve_left hua) hn q hq
  · rw [hat.lookup x (.inl (hsees x hx).1)]
    exact htied.queues x (hsees x hx).2
  · rw [hat.lookup x (.inl (hsees x hx).1)] at hq
    exact hknows _ (fun hc => ha.noMember x q hq hc) (htied.containers x q (hsees x hx).2 hq)
  · rw [hat.s_mutexes] at hl
    refine hknows x ?_ (htied.tracked htrack l hl x hx)
    rintro rfl
    exact ha.untracked l hl hx
  · by_cases hV : u ∈ V
    · exact habsent u hV hn
    · obtain rfl := hu.resolve_right hV
      exact (htied.lookup_eq_none ⟨hn, hV⟩).mp ha.fresh.2

/-- A tenant clears its variable when it has no queue. -/
theorem Hidden.forgets (h : Hidden V s t) (hgone : v = nullptr ∨ s.lookup v = none) :
    Hidden (V \ {v}) s t := by
  obtain ⟨hstandalone, htied, habsent⟩ := h
  have hknows : ∀ x, (others V).Knows x → (others (V \ {v})).Knows x := fun x hx =>
    knows_others_iff.mpr ((knows_others_iff.mp hx).imp_right fun hV hmem => hV hmem.1)
  have hsees : ∀ x, (others (V \ {v})).sees x → (others V).sees x ∨ x = v ∧ x ∈ V := fun x hx => by
    by_cases hV : x ∈ V
    · exact .inr ⟨by_contra fun hne => hx.2 ⟨hV, hne⟩, hV⟩
    · exact .inl ⟨hx.1, hV⟩
  refine ⟨fun u hu => hstandalone u hu.1, ⟨fun x hx => ?_, fun x q hx hq => ?_, fun _ _ => rfl,
    htied.mutexes, fun htrack l hl x hx => hknows x (htied.tracked htrack l hl x hx)⟩,
    fun u hu => habsent u hu.1⟩
  · rcases hsees x hx with hx' | ⟨rfl, hV⟩
    · exact htied.queues x hx'
    · rw [hgone.resolve_left hx.1, habsent x hV hx.1]
      exact .none
  · rcases hsees x hx with hx' | ⟨rfl, -⟩
    · exact hknows _ (htied.containers x q hx' hq)
    · rw [hgone.resolve_left hx.1] at hq
      cases hq

/-- **A call of the others** answers as it does without the tenants, whose queues it leaves
alone. -/
theorem Hidden.call (h : Hidden V s t) {c : Call} {r : Reply}
    (hh : ∀ h ∈ c.handles, h = nullptr ∨ h ∉ V) (hstep : s.Step c r s') :
    ∃ t', t.Step c r t' ∧ Hidden V s' t' := by
  have hadmits : (others V).Admits c :=
    ⟨fun x hx => knows_others_iff.mpr (hh x hx), fun _ => trivial⟩
  obtain ⟨t', htstep, htied⟩ := h.tied.step hadmits hstep
  have hV : ∀ u ∈ V, ¬ (others V).sees u := fun u hu hsees => hsees.2 hu
  refine ⟨t', htstep, fun u hu hn q hq => ?_, htied.rebase, fun u hu hn => ?_⟩
  · exact h.standalone u hu hn q ((htied.unseen u (hV u hu)).symm.trans hq)
  · exact (h.tied.lookup_eq_of_unseen hadmits htstep (hV u hu)).trans (h.absent u hu hn)

/-- Away from the queues of the tenants the memory is that without the tenants. -/
theorem Hidden.lookup_eq (h : Hidden V s t) {x : Handle} (hn : x ≠ nullptr) (hx : x ∉ V) :
    s.lookup x = t.lookup x :=
  (h.tied.lookup_eq rfl ⟨hn, hx⟩).symm

theorem Hidden.s_mutexes (h : Hidden V s t) : s.s_mutexes = t.s_mutexes := h.tied.mutexes trivial

/-- Where the queue of a tenant is, if it has one. -/
def room (v : Handle) : Set Handle := {h | h ≠ nullptr ∧ h = v}

theorem room_nullptr : room nullptr = ∅ :=
  Set.eq_empty_of_forall_notMem fun _ h => h.1 h.2

theorem mem_room (hn : v ≠ nullptr) : v ∈ room v := ⟨hn, rfl⟩

theorem insert_room (hn : addr ≠ nullptr) : insert addr (room nullptr ∪ U) = room addr ∪ U := by
  ext h
  constructor
  · rintro (rfl | hroom | hU)
    · exact .inl (mem_room hn)
    · exact absurd hroom.2 hroom.1
    · exact .inr hU
  · rintro (⟨-, rfl⟩ | hU)
    · exact .inl rfl
    · exact .inr (.inr hU)

theorem room_diff (hv : v ∉ U) : (room v ∪ U) \ {v} = room nullptr ∪ U := by
  ext h
  constructor
  · rintro ⟨⟨-, rfl⟩ | hU, hne⟩
    · exact absurd rfl hne
    · exact .inr hU
  · rintro (hroom | hU)
    · exact absurd hroom.2 hroom.1
    · exact ⟨.inr hU, fun he => hv (he ▸ hU)⟩

theorem not_mem_room {x : Handle} (h : x = nullptr ∨ x ≠ v) : x = nullptr ∨ x ∉ room v :=
  h.imp_right fun hne hroom => hne hroom.2

/-- The tenant has a queue of its own; those of the other tenants are at `U`. -/
structure Apart (U : Set Handle) (w : Tenancy) : Prop where
  standalone : w.lib.Standalone w.handle
  ne_nullptr : ∀ u ∈ U, u ≠ nullptr
  ne_handle : ∀ u ∈ U, u ≠ w.handle
  live : ∀ u ∈ U, (w.lib.lookup u).isSome

theorem apart_empty (h : Hidden (room w.handle) w.lib t) : Apart ∅ w :=
  ⟨h.standalone_of mem_room, fun _ hu => hu.elim, fun _ hu => hu.elim, fun _ hu => hu.elim⟩

theorem Apart.onlyAt (h : Apart U ⟨v, s⟩) (hat : s.OnlyAt addr s') (hne : ∀ u ∈ U, u ≠ addr) :
    Apart U ⟨addr, s'⟩ where
  standalone := hat.standalone
  ne_nullptr := h.ne_nullptr
  ne_handle := hne
  live u hu := by
    rw [hat.lookup u (.inl (hne u hu))]
    exact h.live u hu

theorem Apart.forgets (h : Apart U ⟨v, s⟩) : Apart U ⟨nullptr, s⟩ :=
  ⟨fun hn => absurd rfl hn, h.ne_nullptr, h.ne_nullptr, h.live⟩

/-! ## A program with a tenant -/

section Program

variable {σ κ : Type}

/-- A step of the tenant spares the other tenants, whose queues are at `U`, and stays hidden from
the rest, whatever that has done. -/
def Discreet (U : Set Handle) (tenancy : σ → Tenancy) (m m' : σ) : Prop :=
  (tenancy m).Apart U → (tenancy m').Apart U ∧
    (∀ u ∈ U, Lib.Spares u (tenancy m).lib (tenancy m').lib) ∧
    ∀ t, Hidden (room (tenancy m).handle ∪ U) (tenancy m).lib t →
      Hidden (room (tenancy m').handle ∪ U) (tenancy m').lib t

instance (U : Set Handle) (tenancy : σ → Tenancy) : IsPreorder σ (Discreet U tenancy) where
  refl m h := ⟨h, fun u _ => refl_of (Lib.Spares u) (tenancy m).lib, fun _ => id⟩
  trans _ _ _ h h' hm := by
    obtain ⟨hm₁, hu₁, ht₁⟩ := h hm
    obtain ⟨hm₂, hu₂, ht₂⟩ := h' hm₁
    exact ⟨hm₂, fun u hu => trans_of _ (hu₁ u hu) (hu₂ u hu), fun t => ht₂ t ∘ ht₁ t⟩

variable {tenancy : σ → Tenancy} {step : σ → κ ⊕ Call → Reply → σ → Prop}

/-- Nothing but the queue of the tenant is touched. -/
structure Uses (tenancy : σ → Tenancy) (m m' : σ) : Prop where
  handle : (tenancy m').handle = (tenancy m).handle
  serves : Lib.Serves (tenancy m).handle (tenancy m).lib (tenancy m').lib

instance (tenancy : σ → Tenancy) : IsPreorder σ (Uses tenancy) where
  refl m := ⟨rfl, refl_of (Lib.Serves _) (tenancy m).lib⟩
  trans _ _ _ h h' := ⟨h'.handle.trans h.handle, trans_of _ h.serves (h.handle ▸ h'.serves)⟩

/-- A relation in which the whole life of the tenant takes place. -/
structure Lease (tenancy : σ → Tenancy) (Q : σ → σ → Prop) : Prop where
  uses : ∀ m m', Uses tenancy m m' → Q m m'
  rents : ∀ m m', (tenancy m).handle = nullptr → (tenancy m).lib.Vacant (tenancy m').handle →
    (tenancy m).lib.OnlyAt (tenancy m').handle (tenancy m').lib → Q m m'
  forgets : ∀ m m', (tenancy m).handle = nullptr ∨
    (tenancy m).lib.lookup (tenancy m).handle = none → (tenancy m').handle = nullptr →
    (tenancy m').lib = (tenancy m).lib → Q m m'

theorem discreet_lease (U : Set Handle) : Lease tenancy (Discreet U tenancy) where
  uses m m' h hm := by
    obtain ⟨hhandle, hserves⟩ := h
    have hat := hserves hm.standalone
    have hm' := Apart.onlyAt hm hat hm.ne_handle
    rw [← hhandle] at hm'
    rw [hhandle]
    exact ⟨hm', fun u hu => hat.spares (hm.ne_handle u hu) (hm.ne_nullptr u hu),
      fun t ht => ht.works (fun hn => .inl (mem_room hn)) hserves⟩
  rents m m' hdown ha hat hm := by
    have hne : ∀ u ∈ U, u ≠ (tenancy m').handle := by
      rintro u hu rfl
      have hlive := hm.live _ hu
      rw [ha.fresh.2] at hlive
      cases hlive
    refine ⟨Apart.onlyAt hm hat hne, fun u hu => hat.spares (hne u hu) (hm.ne_nullptr u hu),
      fun t ht => ?_⟩
    rw [hdown] at ht
    rw [← insert_room ha.fresh.1]
    exact ht.rents ha hat
  forgets m m' hgone hdown hlib hm := by
    have hm' := Apart.forgets hm
    rw [← hdown, ← hlib] at hm'
    refine ⟨hm', fun u _ => by rw [hlib]; exact refl_of _ _, fun t ht => ?_⟩
    rw [hdown, hlib, ← room_diff fun hu => hm.ne_handle _ hu rfl]
    exact ht.forgets hgone

/-- The same while the queue is at `h`. -/
def UsesAt (tenancy : σ → Tenancy) (h : Handle) (m m' : σ) : Prop :=
  (tenancy m).handle = h → Uses tenancy m m'

instance (tenancy : σ → Tenancy) (h : Handle) : IsPreorder σ (UsesAt tenancy h) where
  refl m _ := refl_of (Uses tenancy) m
  trans _ _ _ h₁ h₂ hm := trans_of _ (h₁ hm) (h₂ ((h₁ hm).handle.trans hm))

theorem ensures_usesAt {α : Type} {h : Handle} {x : EStateM Exit σ α}
    (hx : Ensures (Uses tenancy) x) : Ensures (UsesAt tenancy h) x := hx.mono fun _ _ h _ => h

/-- A step that keeps the handle and the library uses nothing. -/
theorem uses_of_eq {m m' : σ} (h : tenancy m' = tenancy m) : Uses tenancy m m' :=
  ⟨by rw [h], h ▸ refl_of _ _⟩

/-- **A tenant leaves no trace.** When its steps are discreet and the others are not given its
handle, the calls of the others are a run of their own, from whose memory the tenant is hidden. -/
theorem leavesNoTrace (hown : ∀ m c r m', step m (.inl c) r m' → Discreet ∅ tenancy m m')
    (hothers : ∀ m c r m', step m (.inr c) r m' → (tenancy m').handle = (tenancy m).handle ∧
      (∀ h ∈ c.handles, h = nullptr ∨ h ≠ (tenancy m).handle) ∧
      (tenancy m).lib.Step c r (tenancy m').lib)
    {m m' : σ} {tr : List ((κ ⊕ Call) × Reply)} (hrun : Run step m tr m')
    (hdown : (tenancy m).handle = nullptr) :
    ∃ t, Run Lib.Step (tenancy m).lib (project Sum.getRight? tr) t ∧
      Hidden (room (tenancy m').handle) (tenancy m').lib t := by
  refine hrun.unwind (R := fun m t => Hidden (room (tenancy m).handle) (tenancy m).lib t) ?_ ?_ ?_
  · rintro m t (c | c) c' r m' hsee hm hstep
    · cases hsee
    · obtain rfl : c = c' := Option.some.inj hsee
      obtain ⟨hhandle, hh, hlib⟩ := hothers m c r m' hstep
      obtain ⟨t', htstep, ht'⟩ := hm.call (fun h hmem => not_mem_room (hh h hmem)) hlib
      rw [← hhandle] at ht'
      exact ⟨t', htstep, ht'⟩
  · rintro m t (c | c) r m' hsee hm hstep
    · have hm' := (hown m c r m' hstep (apart_empty hm)).2.2 t
      rw [Set.union_empty, Set.union_empty] at hm'
      exact hm' hm
    · cases hsee
  · rw [hdown, room_nullptr]
    exact hidden_empty _

/-- After an assertion that has not been tripped. -/
theorem ensures_configASSERT_bind {α : Type} {Q : σ → σ → Prop} [IsPreorder σ Q] {p : Prop}
    [Decidable p] {f : Unit → EStateM Exit σ α} {m : σ}
    (hf : p → Q m (finalState (EStateM.run (f ()) m))) :
    Q m (finalState (EStateM.run (configASSERT p >>= f) m)) := by
  rw [EStateM.run_bind]
  by_cases hp : p
  · rw [run_configASSERT_of hp]
    exact hf hp
  · rw [run_configASSERT_of_not hp]
    exact refl_of Q m

end Program

end Tenancy

end FakeFreeRtos
