import Mathlib.Data.List.Basic

/-!
# Runs of labelled transition systems

A transition system is a relation `step s c r s'`: in state `s` the call `c` may answer `r` and
leave state `s'`. `Run step s tr s'` chains finitely many steps and records the calls with their
answers. The rules below are the ones used to carry a fact from one step to a whole run:

* `Run.invariant`, an invariant of the steps holds at the end of every run;
* `Run.history`, the same for an invariant that speaks of the calls made so far;
* `Run.conserves`, what goes in comes out in order, or is still there;
* `Run.exists_repeated`, repeating calls that lower a measure comes to an end;
* `everyState_iff_everyStep`, a property holds in every state of a run exactly when no step breaks
  it;
* `everyStep_congr`, conditions on the steps that agree under an invariant hold of the same runs;
* `Run.exists_simulating`, when every admissible call can be answered on both sides alike, every
  list of admissible calls has a run on both sides with the same answers.
-/

namespace Foundations

variable {σ τ κ ρ : Type*}

/-- `Run step s tr s'`: the calls and answers `tr`, in order, lead from `s` to `s'`. -/
inductive Run (step : σ → κ → ρ → σ → Prop) : σ → List (κ × ρ) → σ → Prop
  | nil (s : σ) : Run step s [] s
  | cons {s s' s'' : σ} {c : κ} {r : ρ} {tr : List (κ × ρ)} (h : step s c r s')
      (t : Run step s' tr s'') : Run step s ((c, r) :: tr) s''

namespace Run

variable {step : σ → κ → ρ → σ → Prop} {step' : τ → κ → ρ → τ → Prop}

theorem append {s s' s'' : σ} {tr tr' : List (κ × ρ)} (h : Run step s tr s')
    (h' : Run step s' tr' s'') : Run step s (tr ++ tr') s'' := by
  induction h with
  | nil => exact h'
  | cons hs _ ih => exact .cons hs (ih h')

theorem snoc {s s' s'' : σ} {tr : List (κ × ρ)} {c : κ} {r : ρ} (h : Run step s tr s')
    (hs : step s' c r s'') : Run step s (tr ++ [(c, r)]) s'' :=
  h.append (.cons hs (.nil _))

/-- **The invariant rule**: what every step keeps, every run keeps. -/
theorem invariant {I : σ → Prop} (hstep : ∀ s c r s', I s → step s c r s' → I s') {s s' : σ}
    {tr : List (κ × ρ)} (h : Run step s tr s') (h₀ : I s) : I s' := by
  induction h with
  | nil => exact h₀
  | cons hs _ ih => exact ih (hstep _ _ _ _ h₀ hs)

/-- The rule for facts about a state and the calls that led to it. -/
theorem history {I : List (κ × ρ) → σ → Prop}
    (hstep : ∀ tr s c r s', I tr s → step s c r s' → I (tr ++ [(c, r)]) s') {s s' : σ}
    {tr : List (κ × ρ)} (h : Run step s tr s') (h₀ : I [] s) : I tr s' := by
  suffices hall : ∀ tr₀, I tr₀ s → I (tr₀ ++ tr) s' from hall [] h₀
  clear h₀
  induction h with
  | nil =>
    intro tr₀ h₀
    rwa [List.append_nil]
  | cons hs _ ih =>
    intro tr₀ h₀
    rw [List.append_cons]
    exact ih _ (hstep _ _ _ _ _ h₀ hs)

/-- **The conservation rule**: when in every step what is there and what goes in is what comes out
and what is there afterwards, in this order, the same is true of runs. -/
theorem conserves {α : Type*} {contents : σ → List α} {inflow outflow : κ × ρ → List α}
    {I : σ → Prop}
    (hstep : ∀ s c r s', I s → step s c r s' →
      I s' ∧ contents s ++ inflow (c, r) = outflow (c, r) ++ contents s')
    {s s' : σ} {tr : List (κ × ρ)} (h : Run step s tr s') (h₀ : I s) :
    I s' ∧ contents s ++ tr.flatMap inflow = tr.flatMap outflow ++ contents s' := by
  induction h with
  | nil s => exact ⟨h₀, by simp⟩
  | @cons s s₁ s' c r tr hs _ ih =>
    obtain ⟨hI, hone⟩ := hstep _ _ _ _ h₀ hs
    obtain ⟨hI', hrest⟩ := ih hI
    refine ⟨hI', ?_⟩
    rw [List.flatMap_cons, List.flatMap_cons, ← List.append_assoc, hone, List.append_assoc, hrest,
      List.append_assoc]

/-- The same call again and again, through the states `f 0`, `f 1`, … -/
theorem replicate {c : κ} {r : ρ} {n : ℕ} (f : ℕ → σ) (h : ∀ i < n, step (f i) c r (f (i + 1))) :
    Run step (f 0) (List.replicate n (c, r)) (f n) := by
  induction n with
  | zero => exact .nil _
  | succ n ih =>
    rw [List.replicate_succ']
    exact (ih fun i hi => h i (Nat.lt_succ_of_lt hi)).snoc (h n (Nat.lt_succ_self n))

/-- A run of one system is a run of any system that has its steps. -/
theorem mono {step₂ : σ → κ → ρ → σ → Prop} (hstep : ∀ s c r s', step s c r s' → step₂ s c r s')
    {s s' : σ} {tr : List (κ × ρ)} (h : Run step s tr s') : Run step₂ s tr s' := by
  induction h with
  | nil => exact .nil _
  | cons hs _ ih => exact .cons (hstep _ _ _ _ hs) ih

/-- When related states answer every admissible call alike, a list of admissible calls has a run
on both sides with the same answers. -/
theorem exists_simulating {R : σ → τ → Prop} {ok : κ → Prop}
    (hstep : ∀ s t c, R s t → ok c → ∃ r s' t', step s c r s' ∧ step' t c r t' ∧ R s' t')
    {s : σ} {t : τ} (h₀ : R s t) (cs : List κ) (hcs : ∀ c ∈ cs, ok c) :
    ∃ tr s' t', tr.map Prod.fst = cs ∧ Run step s tr s' ∧ Run step' t tr t' ∧ R s' t' := by
  induction cs generalizing s t with
  | nil => exact ⟨[], s, t, rfl, .nil s, .nil t, h₀⟩
  | cons c cs ih =>
    obtain ⟨r, s₁, t₁, hs, ht, hR⟩ := hstep s t c h₀ (hcs c List.mem_cons_self)
    obtain ⟨tr, s₂, t₂, htr, hrs, hrt, hR'⟩ :=
      ih hR (fun c' hc' => hcs c' (List.mem_cons_of_mem _ hc'))
    exact ⟨(c, r) :: tr, s₂, t₂, by rw [List.map_cons, htr], .cons hs hrs, .cons ht hrt, hR'⟩

end Run

/-! ## Repeating a call -/

/-- The calls `c 0`, `c 1`, … answered by `yes` `n` times, and then once by `no`. -/
def repeated (c : ℕ → κ) (yes no : ρ) (n : ℕ) : List (κ × ρ) :=
  (List.range n).map (fun i => (c i, yes)) ++ [(c n, no)]

theorem repeated_succ (c : ℕ → κ) (yes no : ρ) (n : ℕ) :
    repeated c yes no (n + 1) = (c 0, yes) :: repeated (fun i => c (i + 1)) yes no n := by
  simp only [repeated, List.range_succ_eq_map, List.map_cons, List.map_map, List.cons_append]
  rfl

/-- **The repetition rule**: when every call is answered by `yes` and lowers a measure, or is
answered by `no` and leaves a state in `Q`, repeating the calls comes to an end, in `Q`. -/
theorem Run.exists_repeated {step : σ → κ → ρ → σ → Prop} {I Q : σ → Prop} {yes no : ρ}
    {ok : κ → Prop} (μ : σ → ℕ)
    (hstep : ∀ s c, I s → ok c →
      (∃ s', step s c yes s' ∧ I s' ∧ μ s' < μ s) ∨ ∃ s', step s c no s' ∧ Q s')
    {s : σ} (h₀ : I s) (c : ℕ → κ) (hc : ∀ i, ok (c i)) :
    ∃ n s', n ≤ μ s ∧ Run step s (repeated c yes no n) s' ∧ Q s' := by
  induction hμ : μ s using Nat.strongRecOn generalizing s c with
  | ind k ih =>
    rcases hstep s (c 0) h₀ (hc 0) with ⟨s₁, hs, hI, hlt⟩ | ⟨s₁, hs, hQ⟩
    · obtain ⟨n, s', hn, hrun, hQ⟩ :=
        ih (μ s₁) (hμ ▸ hlt) hI (fun i => c (i + 1)) (fun i => hc (i + 1)) rfl
      exact ⟨n + 1, s', by omega, repeated_succ c yes no n ▸ .cons hs hrun, hQ⟩
    · exact ⟨0, s₁, Nat.zero_le _, .cons hs (.nil _), hQ⟩

/-! ## Facts about every state and every step of a run -/

/-- Every state that the calls and answers `tr` pass through from `s` satisfies `P`. -/
def EveryState (step : σ → κ → ρ → σ → Prop) (P : σ → Prop) (s : σ) (tr : List (κ × ρ)) : Prop :=
  ∀ tr₁ tr₂ s₁, tr = tr₁ ++ tr₂ → Run step s tr₁ s₁ → P s₁

/-- Every step that `tr` takes from `s` satisfies `ok`. -/
def EveryStep (step : σ → κ → ρ → σ → Prop) (ok : σ → κ → Prop) (s : σ) (tr : List (κ × ρ)) :
    Prop :=
  ∀ tr₁ c r tr₂ s₁, tr = tr₁ ++ (c, r) :: tr₂ → Run step s tr₁ s₁ → ok s₁ c

section Every

variable {step : σ → κ → ρ → σ → Prop} {P I : σ → Prop} {ok : σ → κ → Prop} {s s' : σ} {c : κ}
  {r : ρ} {tr : List (κ × ρ)}

theorem EveryState.head (h : EveryState step P s tr) : P s := h [] tr s rfl (.nil s)

theorem everyState_nil : EveryState step P s [] ↔ P s := by
  refine ⟨EveryState.head, fun h tr₁ tr₂ s₁ he hrun => ?_⟩
  obtain ⟨rfl, -⟩ := List.append_eq_nil_iff.mp he.symm
  cases hrun
  exact h

theorem everyState_cons (hdet : ∀ s₁ s₂, step s c r s₁ → step s c r s₂ → s₁ = s₂)
    (hs : step s c r s') :
    EveryState step P s ((c, r) :: tr) ↔ P s ∧ EveryState step P s' tr := by
  constructor
  · refine fun h => ⟨h.head, fun tr₁ tr₂ s₁ he hrun => ?_⟩
    exact h ((c, r) :: tr₁) tr₂ s₁ (by rw [he]; rfl) (.cons hs hrun)
  · rintro ⟨hP, h⟩ tr₁ tr₂ s₁ he hrun
    cases hrun with
    | nil => exact hP
    | @cons _ m _ c' r' tr₁ hs' hrun =>
      obtain ⟨hcr, htl⟩ := List.cons_eq_cons.mp he
      obtain ⟨rfl, rfl⟩ := Prod.mk.inj hcr
      obtain rfl := hdet _ _ hs hs'
      exact h tr₁ tr₂ s₁ htl hrun

/-- The steps of the first part of a run are steps of the run. -/
theorem EveryStep.of_append {tr' : List (κ × ρ)} (h : EveryStep step ok s (tr ++ tr')) :
    EveryStep step ok s tr := fun tr₁ c r tr₂ s₁ he hrun =>
  h tr₁ c r (tr₂ ++ tr') s₁ (by rw [he, List.append_assoc, List.cons_append]) hrun

theorem everyStep_nil : EveryStep step ok s [] := fun tr₁ c r tr₂ s₁ he _ => by simp at he

theorem everyStep_cons (hdet : ∀ s₁ s₂, step s c r s₁ → step s c r s₂ → s₁ = s₂)
    (hs : step s c r s') :
    EveryStep step ok s ((c, r) :: tr) ↔ ok s c ∧ EveryStep step ok s' tr := by
  constructor
  · refine fun h => ⟨h [] c r tr s rfl (.nil s), fun tr₁ c' r' tr₂ s₁ he hrun => ?_⟩
    exact h ((c, r) :: tr₁) c' r' tr₂ s₁ (by rw [he]; rfl) (.cons hs hrun)
  · rintro ⟨hok, h⟩ tr₁ c' r' tr₂ s₁ he hrun
    cases hrun with
    | nil =>
      rw [List.nil_append] at he
      obtain ⟨hcr, -⟩ := List.cons_eq_cons.mp he
      exact (Prod.mk.inj hcr).1 ▸ hok
    | @cons _ m _ c'' r'' tr₁ hs' hrun =>
      obtain ⟨hcr, htl⟩ := List.cons_eq_cons.mp he
      obtain ⟨rfl, rfl⟩ := Prod.mk.inj hcr
      obtain rfl := hdet _ _ hs hs'
      exact h tr₁ c' r' tr₂ s₁ htl hrun

/-- **The exactness rule**: if an invariant `I` that implies `P` is kept by the steps that are
`ok`, and every other step from it breaks `P`, then `P` holds throughout a run exactly when every
step is `ok`. -/
theorem everyState_iff_everyStep
    (hdet : ∀ s c r s₁ s₂, step s c r s₁ → step s c r s₂ → s₁ = s₂) (hI : ∀ s, I s → P s)
    (hok : ∀ s c r s', I s → step s c r s' → ok s c → I s')
    (hbad : ∀ s c r s', I s → step s c r s' → ¬ ok s c → ¬ P s')
    (h : Run step s tr s') (h₀ : I s) : EveryState step P s tr ↔ EveryStep step ok s tr := by
  induction h with
  | nil => exact iff_of_true (everyState_nil.mpr (hI _ h₀)) everyStep_nil
  | @cons s s₁ s' c r tr hs _ ih =>
    rw [everyState_cons (hdet s c r) hs, everyStep_cons (hdet s c r) hs]
    constructor
    · rintro ⟨-, hall⟩
      have hc : ok s c := by
        by_contra hc
        exact hbad s c r s₁ h₀ hs hc hall.head
      exact ⟨hc, (ih (hok s c r s₁ h₀ hs hc)).mp hall⟩
    · rintro ⟨hc, hall⟩
      exact ⟨hI s h₀, (ih (hok s c r s₁ h₀ hs hc)).mpr hall⟩

/-- Two conditions on steps that agree under an invariant, which the steps that satisfy one of them
keep, hold of the same runs. -/
theorem everyStep_congr {ok' : σ → κ → Prop}
    (hdet : ∀ s c r s₁ s₂, step s c r s₁ → step s c r s₂ → s₁ = s₂)
    (hiff : ∀ s c r s', I s → step s c r s' → (ok s c ↔ ok' s c))
    (hok : ∀ s c r s', I s → step s c r s' → ok s c → I s')
    (h : Run step s tr s') (h₀ : I s) : EveryStep step ok s tr ↔ EveryStep step ok' s tr := by
  induction h with
  | nil => exact iff_of_true everyStep_nil everyStep_nil
  | @cons s s₁ s' c r tr hs _ ih =>
    rw [everyStep_cons (hdet s c r) hs, everyStep_cons (hdet s c r) hs, hiff s c r s₁ h₀ hs]
    refine and_congr_right fun hc => ih (hok s c r s₁ h₀ hs ?_)
    exact (hiff s c r s₁ h₀ hs).mpr hc

end Every

end Foundations
