import FakeFreeRtos.Foundations.Exec
import FakeFreeRtos.Foundations.Run

/-!
# Programs and systems in lockstep

Two programs run in lockstep when from related states they end alike, with related values, in
related states (`Lockstep`). A program that is put together from parts in lockstep is in lockstep.

Two systems: when an observer of one system sees only some of its calls (`project`), the steps that
it sees can be followed by the other system, and those it does not see keep the states related, then
what it sees of a run is a run of the other system (`Run.unwind`). An observer that sees everything
finds the same run of the other system (`Run.simulate`). Two systems that have nothing to do with
each other can be taken as one (`Parallel`).
-/

namespace Foundations

/-! ## Programs -/

section Programs

variable {ε σ τ α β α' β' : Type} {R : σ → τ → Prop} {Q : α → β → Prop} {Q' : α' → β' → Prop}

/-- Both programs return, with values related by `Q`, or both leave by the same exit; the states
are related by `R`. -/
inductive Alike (R : σ → τ → Prop) (Q : α → β → Prop) :
    EStateM.Result ε σ α → EStateM.Result ε τ β → Prop
  | ok {a : α} {b : β} {s : σ} {t : τ} (hQ : Q a b) (hR : R s t) : Alike R Q (.ok a s) (.ok b t)
  | error {e : ε} {s : σ} {t : τ} (hR : R s t) : Alike R Q (.error e s) (.error e t)

/-- From related states, both programs end alike. -/
def Lockstep (R : σ → τ → Prop) (Q : α → β → Prop) (x : EStateM ε σ α) (y : EStateM ε τ β) :
    Prop :=
  ∀ s t, R s t → Alike R Q (EStateM.run x s) (EStateM.run y t)

namespace Lockstep

variable {x : EStateM ε σ α} {y : EStateM ε τ β}

theorem pure {a : α} {b : β} (h : Q a b) :
    Lockstep R Q (Pure.pure a : EStateM ε σ α) (Pure.pure b) :=
  fun _ _ hR => .ok h hR

theorem throws (e : ε) : Lockstep R Q (throw e : EStateM ε σ α) (throw e) :=
  fun _ _ hR => .error hR

theorem modifies {f : σ → σ} {g : τ → τ} (h : ∀ s t, R s t → R (f s) (g t)) :
    Lockstep R Eq (modify f : EStateM ε σ PUnit) (modify g) :=
  fun s t hR => .ok rfl (h s t hR)

theorem bind {f : α → EStateM ε σ α'} {g : β → EStateM ε τ β'} (h : Lockstep R Q x y)
    (hf : ∀ a b, Q a b → Lockstep R Q' (f a) (g b)) : Lockstep R Q' (x >>= f) (y >>= g) := by
  intro s t hR
  have hxy := h s t hR
  rw [EStateM.run_bind, EStateM.run_bind]
  cases hx : EStateM.run x s with
  | ok a s' =>
    cases hy : EStateM.run y t with
    | ok b t' =>
      rw [hx, hy] at hxy
      cases hxy with
      | ok hQ hR' => exact hf a b hQ s' t' hR'
    | error e t' =>
      rw [hx, hy] at hxy
      cases hxy
  | error e s' =>
    cases hy : EStateM.run y t with
    | ok b t' =>
      rw [hx, hy] at hxy
      cases hxy
    | error e' t' =>
      rw [hx, hy] at hxy
      cases hxy with
      | error hR' => exact .error hR'

/-- After a part that returns the same value on both sides. -/
theorem bind_eq {y : EStateM ε τ α} {f : α → EStateM ε σ α'} {g : α → EStateM ε τ β'}
    (h : Lockstep R Eq x y) (hf : ∀ a, Lockstep R Q' (f a) (g a)) :
    Lockstep R Q' (x >>= f) (y >>= g) :=
  h.bind fun a _ he => he ▸ hf a

theorem mono {Q₂ : α → β → Prop} (h : Lockstep R Q x y) (hQ : ∀ a b, Q a b → Q₂ a b) :
    Lockstep R Q₂ x y := by
  intro s t hR
  have hxy := h s t hR
  cases hx : EStateM.run x s <;> cases hy : EStateM.run y t <;> rw [hx, hy] at hxy <;> cases hxy
  · exact .ok (hQ _ _ ‹_›) ‹_›
  · exact .error ‹_›

theorem map {f : α → α'} {g : β → β'} (h : Lockstep R Q x y) (hf : ∀ a b, Q a b → Q' (f a) (g b)) :
    Lockstep R Q' (f <$> x) (g <$> y) :=
  h.bind fun _ _ hQ => .pure (hf _ _ hQ)

theorem map_eq {y : EStateM ε τ α} (f : α → α') (h : Lockstep R Eq x y) :
    Lockstep R Eq (f <$> x) (f <$> y) :=
  h.map fun _ _ he => congrArg f he

theorem ite {p : Prop} [Decidable p] {x' : EStateM ε σ α} {y' : EStateM ε τ β}
    (h : p → Lockstep R Q x y) (h' : ¬ p → Lockstep R Q x' y') :
    Lockstep R Q (if p then x else x') (if p then y else y') := by
  split
  · exact h ‹_›
  · exact h' ‹_›

end Lockstep

end Programs

/-! ## Systems -/

section Systems

variable {σ τ κ κ' ρ : Type*}

/-- What is seen of the calls of a run, with their answers. -/
def project (see : κ → Option κ') (tr : List (κ × ρ)) : List (κ' × ρ) :=
  tr.filterMap fun cr => (see cr.1).map fun c => (c, cr.2)

variable {see : κ → Option κ'} {tr : List (κ × ρ)} {c : κ} {c' : κ'} {r : ρ}

@[simp] theorem project_nil : project see ([] : List (κ × ρ)) = [] := rfl

theorem project_cons_of_some (h : see c = some c') :
    project see ((c, r) :: tr) = (c', r) :: project see tr := by
  simp [project, h]

theorem project_cons_of_none (h : see c = none) : project see ((c, r) :: tr) = project see tr := by
  simp [project, h]

theorem mem_project {cr : κ' × ρ} (h : cr ∈ project see tr) :
    ∃ c, see c = some cr.1 ∧ (c, cr.2) ∈ tr := by
  obtain ⟨⟨c, r⟩, hmem, he⟩ := List.mem_filterMap.mp h
  obtain ⟨c', hc', rfl⟩ := Option.map_eq_some_iff.mp he
  exact ⟨c, hc', hmem⟩

variable {step : σ → κ → ρ → σ → Prop} {step' : τ → κ' → ρ → τ → Prop} {R : σ → τ → Prop}
  {s s' : σ} {t : τ}

/-- **The unwinding rule**: what is seen of a run is a run of the other system. -/
theorem Run.unwind
    (hseen : ∀ s t c c' r s', see c = some c' → R s t → step s c r s' →
      ∃ t', step' t c' r t' ∧ R s' t')
    (hhidden : ∀ s t c r s', see c = none → R s t → step s c r s' → R s' t)
    (h : Run step s tr s') (hR : R s t) : ∃ t', Run step' t (project see tr) t' ∧ R s' t' := by
  induction h generalizing t with
  | nil => exact ⟨t, .nil t, hR⟩
  | @cons s s₁ s' c r tr hs _ ih =>
    cases hc : see c with
    | none =>
      obtain ⟨t', hrun, hR'⟩ := ih (hhidden _ _ _ _ _ hc hR hs)
      exact ⟨t', by rwa [project_cons_of_none hc], hR'⟩
    | some c' =>
      obtain ⟨t₁, ht, hR₁⟩ := hseen _ _ _ _ _ _ hc hR hs
      obtain ⟨t', hrun, hR'⟩ := ih hR₁
      exact ⟨t', by rw [project_cons_of_some hc]; exact .cons ht hrun, hR'⟩

/-- **The simulation rule**: the other system follows every step. -/
theorem Run.simulate {step' : τ → κ → ρ → τ → Prop}
    (hstep : ∀ s t c r s', R s t → step s c r s' → ∃ t', step' t c r t' ∧ R s' t')
    (h : Run step s tr s') (hR : R s t) : ∃ t', Run step' t tr t' ∧ R s' t' := by
  induction h generalizing t with
  | nil => exact ⟨t, .nil t, hR⟩
  | cons hs _ ih =>
    obtain ⟨t₁, ht, hR₁⟩ := hstep _ _ _ _ _ hR hs
    obtain ⟨t', hrun, hR'⟩ := ih hR₁
    exact ⟨t', .cons ht hrun, hR'⟩

/-- Two systems side by side: each call is for one of them, and the other does not notice. -/
inductive Parallel (step : σ → κ → ρ → σ → Prop) (step' : τ → κ' → ρ → τ → Prop) :
    σ × τ → κ ⊕ κ' → ρ → σ × τ → Prop
  | left {s s' : σ} {t : τ} {c : κ} {r : ρ} (h : step s c r s') :
      Parallel step step' (s, t) (.inl c) r (s', t)
  | right {s : σ} {t t' : τ} {c : κ'} {r : ρ} (h : step' t c r t') :
      Parallel step step' (s, t) (.inr c) r (s, t')

end Systems

end Foundations
