import FakeFreeRtos.Foundations.Run

/-!
# Pools of permits

A pool hands out permits to clients, as long as it has any, and takes them back from those that
hold one (`Pool.Step`). No permit is lost or made up (`Pool.total_of_run`); and a client holds as
many as it has taken and not given back (`Pool.count_of_run`).
-/

namespace Foundations

variable {ι : Type*}

/-- The permits that are free, and the holders of the others, with one entry for each permit. -/
structure Pool (ι : Type*) where
  free : ℕ
  holders : List ι

inductive PoolCall (ι : Type*)
  | take (client : ι)
  | give (client : ι)
  deriving DecidableEq

namespace Pool

/-- The permits of the pool, free or held. -/
def total (p : Pool ι) : ℕ := p.free + p.holders.length

/-- While a permit is held, not all are free. -/
theorem free_lt_total {p : Pool ι} {i : ι} (hi : i ∈ p.holders) : p.free < p.total := by
  unfold total
  have hpos := List.length_pos_of_mem hi
  omega

variable [DecidableEq ι]

/-- A permit is taken, or refused when there is none, or given back by a holder. -/
inductive Step : Pool ι → PoolCall ι → Bool → Pool ι → Prop
  | take (n : ℕ) (l : List ι) (i : ι) : Step ⟨n + 1, l⟩ (.take i) true ⟨n, i :: l⟩
  | refuse (l : List ι) (i : ι) : Step ⟨0, l⟩ (.take i) false ⟨0, l⟩
  | give {n : ℕ} {l : List ι} {i : ι} (hi : i ∈ l) : Step ⟨n, l⟩ (.give i) true ⟨n + 1, l.erase i⟩

variable {p p' : Pool ι} {c : PoolCall ι} {b : Bool} {tr : List (PoolCall ι × Bool)}

theorem Step.total_eq (h : p.Step c b p') : p'.total = p.total := by
  cases h with
  | take n l i =>
    simp only [total, List.length_cons]
    omega
  | refuse => rfl
  | @give n l i hi =>
    have hlen := List.length_erase_add_one hi
    simp only [total]
    omega

/-- **No permit is lost or made up.** -/
theorem total_of_run (h : Run Step p tr p') : p'.total = p.total :=
  h.invariant (I := fun q => q.total = p.total) (fun _ _ _ _ hq hs => hs.total_eq.trans hq) rfl

/-- A holder can always give its permit back. -/
theorem not_refused_give (h : Run Step p tr p') (i : ι) : (.give i, false) ∉ tr := by
  induction h with
  | nil => exact List.not_mem_nil
  | cons hs _ ih =>
    rw [List.mem_cons, not_or]
    refine ⟨?_, ih⟩
    rintro ⟨⟩
    cases hs

/-- The permits that a client was given, and those that it gave back. -/
def taken (i : ι) (tr : List (PoolCall ι × Bool)) : ℕ := tr.count (.take i, true)

def given (i : ι) (tr : List (PoolCall ι × Bool)) : ℕ := tr.count (.give i, true)

theorem Step.count_eq (h : p.Step c b p') (i : ι) :
    p'.holders.count i + given i [(c, b)] = p.holders.count i + taken i [(c, b)] := by
  cases h with
  | take n l j =>
    by_cases hij : j = i
    · subst hij
      simp [taken, given]
    · simp [taken, given, hij]
  | refuse => simp [taken, given]
  | @give n l j hj =>
    by_cases hij : j = i
    · subst hij
      have hpos : 0 < l.count j := List.count_pos_iff.mpr hj
      simp only [taken, given, List.count_erase_self, List.count_singleton_self]
      simp
      omega
    · simp [taken, given, hij, List.count_erase_of_ne (Ne.symm hij)]

/-- **A client holds the permits that it has taken and not given back.** -/
theorem count_of_run (h : Run Step p tr p') (i : ι) :
    p'.holders.count i + given i tr = p.holders.count i + taken i tr := by
  refine h.history (I := fun tr q => q.holders.count i + given i tr =
    p.holders.count i + taken i tr) ?_ (by simp [taken, given])
  intro tr q c b q' hq hs
  have hone := hs.count_eq i
  simp only [taken, given, List.count_append] at hq hone ⊢
  omega

end Pool

end Foundations
