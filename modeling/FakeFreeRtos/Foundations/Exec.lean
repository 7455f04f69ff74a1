import Mathlib.Order.Defs.Unbundled

/-!
# Programs over a state that may leave early

`EStateM ε σ` is the core library's monad of programs that read and write a state and may leave
early with an exit, keeping the state. What is missing there: the run of a mapped program, and
the rules for a relation between the states before and after that a program ensures however it
ends (`Ensures`), for an exit by which a program never leaves (`NeverLeavesBy`), and for a program
whose failures leave no trace (`AtomicAt`) or do not occur (`NeverFails`).
-/

namespace Foundations

variable {ε σ α β : Type}

/-- Two results can be compared. -/
instance decidableEqResult [DecidableEq ε] [DecidableEq σ] [DecidableEq α] :
    DecidableEq (EStateM.Result ε σ α)
  | .ok a s, .ok a' s' =>
    decidable_of_iff (a = a' ∧ s = s') (Iff.of_eq (EStateM.Result.ok.injEq ..).symm)
  | .error e s, .error e' s' =>
    decidable_of_iff (e = e' ∧ s = s') (Iff.of_eq (EStateM.Result.error.injEq ..).symm)
  | .ok .., .error .. => .isFalse nofun
  | .error .., .ok .. => .isFalse nofun

@[simp] theorem run_map (f : α → β) (x : EStateM ε σ α) (s : σ) :
    EStateM.run (f <$> x) s =
      match EStateM.run x s with
      | .ok a s => .ok (f a) s
      | .error e s => .error e s := rfl

/-- A sequence returns when both parts do. -/
theorem run_bind_eq_ok {x : EStateM ε σ α} {f : α → EStateM ε σ β} {s s' : σ} {b : β} :
    EStateM.run (x >>= f) s = .ok b s' ↔
      ∃ a s₁, EStateM.run x s = .ok a s₁ ∧ EStateM.run (f a) s₁ = .ok b s' := by
  constructor
  · intro h
    rw [EStateM.run_bind] at h
    cases hx : EStateM.run x s with
    | ok a s₁ => exact ⟨a, s₁, rfl, by rwa [hx] at h⟩
    | error e s₁ => rw [hx] at h; cases h
  · rintro ⟨a, s₁, hx, hf⟩
    rw [EStateM.run_bind, hx]
    exact hf

/-- A sequence leaves early when one of the parts does. -/
theorem run_bind_eq_error {x : EStateM ε σ α} {f : α → EStateM ε σ β} {s s' : σ} {e : ε} :
    EStateM.run (x >>= f) s = .error e s' ↔ EStateM.run x s = .error e s' ∨
      ∃ a s₁, EStateM.run x s = .ok a s₁ ∧ EStateM.run (f a) s₁ = .error e s' := by
  constructor
  · intro h
    rw [EStateM.run_bind] at h
    cases hx : EStateM.run x s with
    | ok a s₁ => exact .inr ⟨a, s₁, rfl, by rwa [hx] at h⟩
    | error e' s₁ =>
      rw [hx] at h
      cases h
      exact .inl rfl
  · rintro (hx | ⟨a, s₁, hx, hf⟩)
    · rw [EStateM.run_bind, hx]
    · rw [EStateM.run_bind, hx]
      exact hf

theorem run_map_eq_ok {f : α → β} {x : EStateM ε σ α} {s s' : σ} {b : β} :
    EStateM.run (f <$> x) s = .ok b s' ↔ ∃ a, EStateM.run x s = .ok a s' ∧ f a = b := by
  constructor
  · intro h
    rw [run_map] at h
    cases hx : EStateM.run x s with
    | ok a s₁ => rw [hx] at h; cases h; exact ⟨a, rfl, rfl⟩
    | error e s₁ => rw [hx] at h; cases h
  · rintro ⟨a, hx, rfl⟩
    rw [run_map, hx]

/-- The state in which a program ended, early or not. -/
def finalState : EStateM.Result ε σ α → σ
  | .ok _ s => s
  | .error _ s => s

@[simp] theorem finalState_ok (a : α) (s : σ) :
    finalState (EStateM.Result.ok a s : EStateM.Result ε σ α) = s := rfl

@[simp] theorem finalState_error (e : ε) (s : σ) :
    finalState (EStateM.Result.error e s : EStateM.Result ε σ α) = s := rfl

@[simp] theorem finalState_run_map (f : α → β) (x : EStateM ε σ α) (s : σ) :
    finalState (EStateM.run (f <$> x) s) = finalState (EStateM.run x s) := by
  rw [run_map]
  cases EStateM.run x s <;> rfl

/-- However `x` ends, `R` relates the state before to the state after. -/
def Ensures (R : σ → σ → Prop) (x : EStateM ε σ α) : Prop :=
  ∀ s, R s (finalState (EStateM.run x s))

namespace Ensures

theorem of_run_eq_ok {R : σ → σ → Prop} {x : EStateM ε σ α} (hx : Ensures R x) {s s' : σ} {a : α}
    (h : EStateM.run x s = .ok a s') : R s s' := by
  have hs := hx s
  rwa [h] at hs

variable {R : σ → σ → Prop} [IsPreorder σ R]

/-- A program that only reads ensures every reflexive relation. -/
theorem of_reads {x : EStateM ε σ α} (h : ∀ s, finalState (EStateM.run x s) = s) :
    Ensures R x := fun s => by
  rw [h s]
  exact refl_of R s

theorem pure (a : α) : Ensures R (Pure.pure a : EStateM ε σ α) := of_reads fun _ => rfl

/-- From one state, the rest may use how the first part has returned. -/
theorem bind_at {x : EStateM ε σ α} {f : α → EStateM ε σ β} {s : σ}
    (hx : R s (finalState (EStateM.run x s)))
    (hf : ∀ a s', EStateM.run x s = .ok a s' → R s' (finalState (EStateM.run (f a) s'))) :
    R s (finalState (EStateM.run (x >>= f) s)) := by
  rw [EStateM.run_bind]
  cases hr : EStateM.run x s with
  | ok a s' =>
    rw [hr] at hx
    exact trans_of R hx (hf a s' hr)
  | error e s' =>
    rw [hr] at hx
    exact hx

/-- After a part that only reads, the rest starts in the same state. -/
theorem bind_reads {x : EStateM ε σ α} {f : α → EStateM ε σ β} {s : σ}
    (hx : finalState (EStateM.run x s) = s)
    (hf : ∀ a, EStateM.run x s = .ok a s → R s (finalState (EStateM.run (f a) s))) :
    R s (finalState (EStateM.run (x >>= f) s)) := by
  refine bind_at (hx.symm ▸ refl_of R s) fun a s' hr => ?_
  obtain rfl : s' = s := by rw [hr] at hx; exact hx
  exact hf a hr

theorem bind {x : EStateM ε σ α} {f : α → EStateM ε σ β} (hx : Ensures R x)
    (hf : ∀ a, Ensures R (f a)) : Ensures R (x >>= f) := fun s =>
  bind_at (hx s) fun a s' _ => hf a s'

omit [IsPreorder σ R] in
theorem map (f : α → β) {x : EStateM ε σ α} (hx : Ensures R x) : Ensures R (f <$> x) := by
  intro s
  have h := hx s
  rw [run_map]
  cases hr : EStateM.run x s with
  | ok a s' =>
    rw [hr] at h
    exact h
  | error e s' =>
    rw [hr] at h
    exact h

omit [IsPreorder σ R] in
theorem ite {c : Prop} [Decidable c] {x y : EStateM ε σ α} (hx : c → Ensures R x)
    (hy : ¬ c → Ensures R y) : Ensures R (if c then x else y) := by
  split
  · exact hx ‹_›
  · exact hy ‹_›

omit [IsPreorder σ R] in
theorem mono {R' : σ → σ → Prop} {x : EStateM ε σ α} (hx : Ensures R x)
    (h : ∀ s s', R s s' → R' s s') : Ensures R' x := fun s => h _ _ (hx s)

end Ensures

/-- `x` does not leave early by `e`. -/
def NeverLeavesBy (e : ε) (x : EStateM ε σ α) : Prop := ∀ s s', EStateM.run x s ≠ .error e s'

namespace NeverLeavesBy

variable {e : ε}

theorem pure (a : α) : NeverLeavesBy e (Pure.pure a : EStateM ε σ α) := fun _ _ h => by cases h

theorem bind {x : EStateM ε σ α} {f : α → EStateM ε σ β} (hx : NeverLeavesBy e x)
    (hf : ∀ a, NeverLeavesBy e (f a)) : NeverLeavesBy e (x >>= f) := by
  intro s s'
  rw [EStateM.run_bind]
  cases hr : EStateM.run x s with
  | ok a s₁ => exact hf a s₁ s'
  | error e' s₁ =>
    intro h
    cases h
    exact hx s s' hr

theorem map (f : α → β) {x : EStateM ε σ α} (hx : NeverLeavesBy e x) :
    NeverLeavesBy e (f <$> x) := by
  intro s s'
  rw [run_map]
  cases hr : EStateM.run x s with
  | ok a s₁ => exact fun h => by cases h
  | error e' s₁ =>
    intro h
    cases h
    exact hx s s' hr

theorem ite {c : Prop} [Decidable c] {x y : EStateM ε σ α} (hx : c → NeverLeavesBy e x)
    (hy : ¬ c → NeverLeavesBy e y) : NeverLeavesBy e (if c then x else y) := by
  split
  · exact hx ‹_›
  · exact hy ‹_›

end NeverLeavesBy

/-- From `s`, `x` neither answers anything `bad` nor leaves early by `e`. -/
def NeverFails (bad : α → Prop) (e : ε) (x : EStateM ε σ α) (s : σ) : Prop :=
  (∀ a s', EStateM.run x s = .ok a s' → ¬ bad a) ∧ ∀ s', EStateM.run x s ≠ .error e s'

/-- From `s`, whenever `x` answers something `bad` or leaves early by `e`, the state is
still `s`. -/
def AtomicAt (bad : α → Prop) (e : ε) (x : EStateM ε σ α) (s : σ) : Prop :=
  (∀ a s', EStateM.run x s = .ok a s' → bad a → s' = s) ∧
    ∀ s', EStateM.run x s = .error e s' → s' = s

namespace AtomicAt

variable {bad : α → Prop} {e : ε} {s : σ}

theorem of_reads {x : EStateM ε σ α} (h : finalState (EStateM.run x s) = s) :
    AtomicAt bad e x s := by
  constructor
  · intro a s' hr _
    rwa [hr] at h
  · intro s' hr
    rwa [hr] at h

theorem of_never {x : EStateM ε σ α} (h : NeverFails bad e x s) : AtomicAt bad e x s :=
  ⟨fun a s' hr hb => absurd hb (h.1 a s' hr), fun s' hr => absurd hr (h.2 s')⟩

theorem ite {c : Prop} [Decidable c] {x y : EStateM ε σ α} (hx : c → AtomicAt bad e x s)
    (hy : ¬ c → AtomicAt bad e y s) : AtomicAt bad e (if c then x else y) s := by
  split
  · exact hx ‹_›
  · exact hy ‹_›

/-- After a part whose failures leave no trace, the rest only reads if that part failed, and never
fails itself otherwise. -/
theorem bind {bad' : β → Prop} {x : EStateM ε σ α} {f : α → EStateM ε σ β} (hx : AtomicAt bad e x s)
    (hf : ∀ a s', EStateM.run x s = .ok a s' →
      (bad a ∧ finalState (EStateM.run (f a) s') = s') ∨ NeverFails bad' e (f a) s') :
    AtomicAt bad' e (x >>= f) s := by
  cases hr : EStateM.run x s with
  | ok a s' =>
    have hbind : EStateM.run (x >>= f) s = EStateM.run (f a) s' := by rw [EStateM.run_bind, hr]
    rcases hf a s' hr with ⟨hbad, hreads⟩ | hnever
    · obtain rfl := hx.1 a s' hr hbad
      exact of_reads (by rw [hbind, hreads])
    · refine of_never ⟨fun b s'' h => ?_, fun s'' h => ?_⟩
      · exact hnever.1 b s'' (hbind.symm.trans h)
      · exact hnever.2 s'' (hbind.symm.trans h)
  | error e' s' =>
    have hbind : EStateM.run (x >>= f) s = .error e' s' := by rw [EStateM.run_bind, hr]
    refine ⟨fun b s'' h _ => ?_, fun s'' h => ?_⟩
    · cases hbind.symm.trans h
    · cases hbind.symm.trans h
      exact hx.2 _ hr

/-- After a part that only reads, the rest starts in the same state. -/
theorem bind_reads {bad : β → Prop} {x : EStateM ε σ α} {f : α → EStateM ε σ β}
    (hx : finalState (EStateM.run x s) = s)
    (hf : ∀ a, EStateM.run x s = .ok a s → AtomicAt bad e (f a) s) :
    AtomicAt bad e (x >>= f) s := by
  cases hr : EStateM.run x s with
  | ok a s' =>
    obtain rfl : s' = s := by rw [hr] at hx; exact hx
    have hfa := hf a hr
    simp only [AtomicAt, EStateM.run_bind, hr]
    exact hfa
  | error e' s' =>
    refine of_reads ?_
    rw [EStateM.run_bind, hr]
    rw [hr] at hx
    exact hx

theorem map {B : β → Prop} {f : α → β} (hbad : ∀ a, B (f a) → bad a) {x : EStateM ε σ α}
    (hx : AtomicAt bad e x s) : AtomicAt B e (f <$> x) s := by
  obtain ⟨hok, herr⟩ := hx
  constructor
  · intro b s' hr hb
    rw [run_map] at hr
    cases hx : EStateM.run x s with
    | ok a s₁ =>
      rw [hx] at hr
      cases hr
      exact hok a _ hx (hbad a hb)
    | error e' s₁ => rw [hx] at hr; cases hr
  · intro s' hr
    rw [run_map] at hr
    cases hx : EStateM.run x s with
    | ok a s₁ => rw [hx] at hr; cases hr
    | error e' s₁ =>
      rw [hx] at hr
      cases hr
      exact herr _ hx

end AtomicAt

end Foundations
