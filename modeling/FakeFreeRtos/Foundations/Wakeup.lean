import Mathlib.Data.List.Induction
import Mathlib.Order.BoundedOrder.Lattice

/-!
# Wake-ups that coalesce

Whoever has news leaves it in a mailbox, where it is merged with what lies there, and raises a flag
in the same step. A server that finds the flag raised lowers it and after that empties the mailbox;
news may come in between, and raises the flag again. Any number of news raises one flag.

Nothing is lost (`Mailbox.Sound`): what lies in the mailbox is announced by the flag, or the server
is about to collect it; each collection takes out what was posted since the last one, merged. So
when the server finds the flag down, it has collected everything (`Mailbox.Sound.asleep`).
-/

namespace Foundations

variable {M : Type*}

/-- What happens to a mailbox: news is posted in it, or its contents are collected. -/
inductive Mail (M : Type*)
  | posted (m : M)
  | collected (m : M)

/-- The news in the order of posting, cut at the collections. -/
structure Windows (M : Type*) where
  closed : List (List M)
  current : List M

def Windows.add (w : Windows M) : Mail M → Windows M
  | .posted m => { w with current := w.current ++ [m] }
  | .collected _ => { closed := w.closed ++ [w.current], current := [] }

def windows (mail : List (Mail M)) : Windows M := mail.foldl Windows.add ⟨[], []⟩

def Mail.news : Mail M → List M
  | .posted m => [m]
  | .collected _ => []

def Mail.contents : Mail M → List M
  | .posted _ => []
  | .collected m => [m]

theorem windows_append (mail new : List (Mail M)) :
    windows (mail ++ new) = new.foldl Windows.add (windows mail) := List.foldl_append

/-- Every piece of news is in exactly one window. -/
theorem flatten_foldl_add (mail : List (Mail M)) (w : Windows M) :
    (mail.foldl Windows.add w).closed.flatten ++ (mail.foldl Windows.add w).current =
      w.closed.flatten ++ w.current ++ mail.flatMap Mail.news := by
  induction mail generalizing w with
  | nil => simp
  | cons e mail ih =>
    rw [List.foldl_cons, ih, List.flatMap_cons]
    cases e <;> simp [Windows.add, Mail.news]

theorem flatten_windows (mail : List (Mail M)) :
    (windows mail).closed.flatten ++ (windows mail).current = mail.flatMap Mail.news :=
  flatten_foldl_add mail _

/-- Windows that are closed stay as they are. -/
theorem foldl_add (mail : List (Mail M)) (w : Windows M) : mail.foldl Windows.add w =
    ⟨w.closed ++ (mail.foldl Windows.add ⟨[], w.current⟩).closed,
      (mail.foldl Windows.add ⟨[], w.current⟩).current⟩ := by
  induction mail generalizing w with
  | nil => simp
  | cons e mail ih =>
    rw [List.foldl_cons, ih, List.foldl_cons, ih (Windows.add ⟨[], w.current⟩ e)]
    cases e <;> simp [Windows.add]

/-- News that is not in the current window is in a window that was closed after it. -/
theorem exists_window_after {before after : List (Mail M)} {m : M}
    (hm : m ∉ (windows (before ++ .posted m :: after)).current) :
    ∃ later, (windows (before ++ .posted m :: after)).closed = (windows before).closed ++ later ∧
      ∃ w ∈ later, m ∈ w := by
  set w : Windows M := after.foldl Windows.add ⟨[], (windows before).current ++ [m]⟩ with hw
  have hwindows : windows (before ++ .posted m :: after) =
      ⟨(windows before).closed ++ w.closed, w.current⟩ :=
    (windows_append ..).trans (foldl_add after ((windows before).add (.posted m)))
  have hmem : m ∈ w.closed.flatten ++ w.current := by
    rw [hw, flatten_foldl_add]
    simp
  rw [hwindows] at hm ⊢
  rcases List.mem_append.mp hmem with hclosed | hcurrent
  · exact ⟨w.closed, rfl, List.mem_flatten.mp hclosed⟩
  · exact absurd hcurrent hm

/-- There is one window for each collection. -/
theorem length_closed_windows (mail : List (Mail M)) :
    (windows mail).closed.length = (mail.flatMap Mail.contents).length := by
  induction mail using List.reverseRecOn with
  | nil => rfl
  | append_singleton mail e ih =>
    rw [windows_append, List.flatMap_append, List.length_append, ← ih]
    cases e <;> simp [Windows.add, Mail.contents]

/-- Groups that each start with a head, read in a row: a part with as many heads as there are groups
in `A` does not reach into the groups that follow. -/
theorem mem_of_append_eq {α β : Type*} {p : β → Bool} {g : α → List β}
    (hhead : ∀ a, ∃ x l, g a = x :: l ∧ p x = true) (hcount : ∀ a, (g a).countP p = 1)
    {u v : List β} {A B : List α} (h : u ++ v = A.flatMap g ++ B.flatMap g)
    (hu : u.countP p = A.length) {a : α} (ha : a ∈ B) {y : β} (hy : y ∈ g a) : y ∈ v := by
  have hA : (A.flatMap g).countP p = A.length := by
    clear h hu
    induction A with
    | nil => rfl
    | cons a A ih => rw [List.flatMap_cons, List.countP_append, hcount, ih, List.length_cons,
        Nat.add_comm]
  have hB : y ∈ B.flatMap g := List.mem_flatMap.mpr ⟨a, ha, hy⟩
  rcases List.append_eq_append_iff.mp h with ⟨l, hl, rfl⟩ | ⟨l, rfl, hl⟩
  · exact List.mem_append_right l hB
  · have hzero : l.countP p = 0 := by
      rw [List.countP_append, hA] at hu
      exact Nat.add_eq_left.mp hu
    -- a part that went on would start with the head of the next group
    cases l with
    | nil => rwa [hl] at hB
    | cons z l =>
      cases B with
      | nil => cases ha
      | cons b B =>
        obtain ⟨x, l', hg, hx⟩ := hhead b
        rw [List.flatMap_cons, hg] at hl
        obtain ⟨rfl, -⟩ := List.cons.inj hl
        rw [List.countP_cons_of_pos hx] at hzero
        cases hzero

section Merge

variable [SemilatticeSup M] [OrderBot M]

/-- All the news of a list. -/
def merge (news : List M) : M := news.foldr (· ⊔ ·) ⊥

@[simp] theorem merge_nil : merge ([] : List M) = ⊥ := rfl

@[simp] theorem merge_cons (m : M) (news : List M) : merge (m :: news) = m ⊔ merge news := rfl

theorem merge_concat (news : List M) (m : M) : merge (news ++ [m]) = merge news ⊔ m := by
  induction news with
  | nil => simp
  | cons n news ih => rw [List.cons_append, merge_cons, ih, merge_cons, sup_assoc]

theorem le_merge {m : M} {news : List M} (h : m ∈ news) : m ≤ merge news := by
  induction news with
  | nil => cases h
  | cons n news ih =>
    rcases List.mem_cons.mp h with rfl | h
    · exact le_sup_left
    · exact (ih h).trans le_sup_right

/-- A mailbox with its flag; `serving` while the server has lowered the flag and not yet collected
the contents. -/
structure Mailbox (M : Type*) where
  contents : M
  flag : Bool
  serving : Bool

namespace Mailbox

/-- The steps, with the mail in each. -/
inductive Step (b : Mailbox M) : List (Mail M) → Mailbox M → Prop
  | post (m : M) : Step b [.posted m] { b with contents := b.contents ⊔ m, flag := true }
  | lower (h : b.flag = true) : Step b [] { b with flag := false, serving := true }
  | collect (h : b.serving = true) :
    Step b [.collected b.contents] { b with contents := ⊥, serving := false }
  | rest : Step b [] b

/-- The mail so far accounts for the mailbox. -/
structure Sound (mail : List (Mail M)) (b : Mailbox M) : Prop where
  contents : b.contents = merge (windows mail).current
  collected : mail.flatMap Mail.contents = (windows mail).closed.map merge
  announced : b.contents ≠ ⊥ → b.flag = true ∨ b.serving = true

variable {mail new : List (Mail M)} {b b' : Mailbox M}

/-- An empty mailbox to which nothing has happened. -/
theorem sound_nil (flag serving : Bool) : Sound [] (⟨⊥, flag, serving⟩ : Mailbox M) :=
  ⟨rfl, rfl, fun h => absurd rfl h⟩

/-- **No step loses news.** -/
theorem Sound.step (h : Sound mail b) (hs : b.Step new b') : Sound (mail ++ new) b' := by
  cases hs with
  | post m =>
    refine ⟨?_, ?_, fun _ => .inl rfl⟩
    · rw [windows_append, List.foldl_cons, List.foldl_nil, Windows.add, merge_concat, h.contents]
    · simpa [windows_append, Windows.add, Mail.contents] using h.collected
  | lower hf =>
    rw [List.append_nil]
    exact ⟨h.contents, h.collected, fun _ => .inr rfl⟩
  | collect hserving =>
    refine ⟨?_, ?_, fun hne => absurd rfl hne⟩
    · rw [windows_append, List.foldl_cons, List.foldl_nil, Windows.add, merge_nil]
    · simp [windows_append, Windows.add, Mail.contents, h.collected, h.contents]
  | rest =>
    rw [List.append_nil]
    exact h

/-- When the server rests and the flag is down, there is no news. -/
theorem Sound.asleep (h : Sound mail b) (hf : b.flag = false) (hs : b.serving = false) :
    ∀ m ∈ (windows mail).current, m = ⊥ := by
  have hempty : b.contents = ⊥ := by
    by_contra hne
    rcases h.announced hne with hf' | hs'
    · rw [hf] at hf'
      exact Bool.noConfusion hf'
    · rw [hs] at hs'
      exact Bool.noConfusion hs'
  intro m hm
  have hle := le_merge hm
  rw [← h.contents, hempty] at hle
  exact le_bot_iff.mp hle

end Mailbox

end Merge

end Foundations
