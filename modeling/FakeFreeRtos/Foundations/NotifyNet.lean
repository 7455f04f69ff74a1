import FakeFreeRtos.Foundations.BoundedDeque
import Mathlib.Logic.Function.Basic

/-!
# Networks of deques that announce what they accept

A node of a network is a bounded deque with an optional link to another node. Posting an item at
a node pushes it there if there is room; when the push is accepted and the node is linked, the
node's own token is posted at the back of the linked node, which may announce it further
(`Post`). The announcement is best effort: a full node downstream refuses the token, and the
original post still counts as accepted.

`Post.frame` says which nodes a post can change: only those in a set that contains the posted
node and is closed under links. Its use is `Post.eq_of_leaf_members`: a node whose members are
announced to by nobody is changed only by a post at the node itself or at one of its members.
-/

namespace Foundations

/-- A node: its deque, and the node it announces to. -/
structure Node (κ α : Type*) where
  deque : BoundedDeque α
  link : Option κ

/-- A network: the nodes that exist, by key. -/
abbrev Net (κ α : Type*) := κ → Option (Node κ α)

namespace Net

variable {κ α : Type*}

/-- `k` is a node linked to `S`. -/
def Member (net : Net κ α) (S k : κ) : Prop := ∃ n, net k = some n ∧ n.link = some S

/-- Nobody announces to a member of `S`. -/
def LeafMembers (net : Net κ α) (S : κ) : Prop :=
  ∀ m, net.Member S m → ∀ x, ¬ net.Member m x

/-- The same nodes with the same capacities and links; only the contents may differ. -/
def SameShape (net net' : Net κ α) : Prop :=
  ∀ k, (net' k).map (fun n => (n.deque.capacity, n.link)) =
    (net k).map (fun n => (n.deque.capacity, n.link))

theorem SameShape.refl (net : Net κ α) : SameShape net net := fun _ => rfl

theorem SameShape.trans {net₁ net₂ net₃ : Net κ α} (h : SameShape net₁ net₂)
    (h' : SameShape net₂ net₃) : SameShape net₁ net₃ := fun k => (h' k).trans (h k)

theorem SameShape.exists_node {net net' : Net κ α} (h : SameShape net net') {k : κ}
    {n : Node κ α} (hn : net k = some n) :
    ∃ n', net' k = some n' ∧ n'.deque.capacity = n.deque.capacity ∧ n'.link = n.link := by
  have hk := h k
  rw [hn] at hk
  obtain ⟨n', hn', he⟩ := Option.map_eq_some_iff.mp hk
  rw [Prod.mk.injEq] at he
  exact ⟨n', hn', he.1, he.2⟩

theorem SameShape.symm {net net' : Net κ α} (h : SameShape net net') : SameShape net' net :=
  fun k => (h k).symm

theorem SameShape.member_iff {net net' : Net κ α} (h : SameShape net net') (S k : κ) :
    net'.Member S k ↔ net.Member S k := by
  constructor
  · rintro ⟨n', hn', hl⟩
    obtain ⟨n, hn, -, hl'⟩ := h.symm.exists_node hn'
    exact ⟨n, hn, hl'.trans hl⟩
  · rintro ⟨n, hn, hl⟩
    obtain ⟨n', hn', -, hl'⟩ := h.exists_node hn
    exact ⟨n', hn', hl'.trans hl⟩

theorem SameShape.leafMembers {net net' : Net κ α} (h : SameShape net net') {S : κ}
    (hS : net.LeafMembers S) : net'.LeafMembers S := fun m hm x hx =>
  hS m ((h.member_iff S m).mp hm) x ((h.member_iff m x).mp hx)

variable [DecidableEq κ]

/-- The network with the contents of the node `n` at `k` replaced by `d`. -/
def setDeque (net : Net κ α) (k : κ) (n : Node κ α) (d : BoundedDeque α) : Net κ α :=
  Function.update net k (some { n with deque := d })

@[simp] theorem setDeque_self (net : Net κ α) (k : κ) (n : Node κ α) (d : BoundedDeque α) :
    net.setDeque k n d k = some { n with deque := d } := Function.update_self ..

theorem setDeque_of_ne (net : Net κ α) {k h : κ} (n : Node κ α) (d : BoundedDeque α)
    (hne : h ≠ k) : net.setDeque k n d h = net h := Function.update_of_ne hne ..

/-- The network with the link of the node `n` at `k` replaced by `l`. -/
def setLink (net : Net κ α) (k : κ) (n : Node κ α) (l : Option κ) : Net κ α :=
  Function.update net k (some { n with link := l })

@[simp] theorem setLink_self (net : Net κ α) (k : κ) (n : Node κ α) (l : Option κ) :
    net.setLink k n l k = some { n with link := l } := Function.update_self ..

theorem setLink_of_ne (net : Net κ α) {k h : κ} (n : Node κ α) (l : Option κ) (hne : h ≠ k) :
    net.setLink k n l h = net h := Function.update_of_ne hne ..

theorem sameShape_setDeque {net : Net κ α} {k : κ} {n : Node κ α} {d : BoundedDeque α}
    (hn : net k = some n) (hd : d.capacity = n.deque.capacity) :
    SameShape net (net.setDeque k n d) := by
  intro h
  by_cases hk : h = k
  · subst hk
    rw [setDeque_self, hn, Option.map_some, Option.map_some, hd]
  · rw [setDeque_of_ne _ _ _ hk]

end Net

open Net

variable {κ α : Type*} [DecidableEq κ]

/-- `Post token net k e a b net'`: posting `a` at the end `e` of node `k` of `net` answers `b`
(accepted or refused) and leaves `net'`. -/
inductive Post (token : κ → α) : Net κ α → κ → Side → α → Bool → Net κ α → Prop
  | refused {net : Net κ α} {k : κ} {e : Side} {a : α} {n : Node κ α} (hn : net k = some n)
      (hp : n.deque.push? e a = none) : Post token net k e a false net
  | stored {net : Net κ α} {k : κ} {e : Side} {a : α} {n : Node κ α} {d : BoundedDeque α}
      (hn : net k = some n) (hp : n.deque.push? e a = some d) (hl : n.link = none) :
      Post token net k e a true (net.setDeque k n d)
  | announced {net net' : Net κ α} {k c : κ} {e : Side} {a : α} {n : Node κ α}
      {d : BoundedDeque α} {b : Bool} (hn : net k = some n) (hp : n.deque.push? e a = some d)
      (hl : n.link = some c) (ht : Post token (net.setDeque k n d) c .back (token k) b net') :
      Post token net k e a true net'

namespace Post

variable {token : κ → α} {net net' net'' : Net κ α} {k : κ} {e : Side} {a : α} {b b' : Bool}

/-- A post has one answer and one outcome. -/
theorem deterministic (h : Post token net k e a b net') (h' : Post token net k e a b' net'') :
    b = b' ∧ net' = net'' := by
  induction h generalizing b' net'' with
  | refused hn hp =>
    cases h' with
    | refused => exact ⟨rfl, rfl⟩
    | stored hn' hp' => rw [hn] at hn'; cases hn'; rw [hp] at hp'; cases hp'
    | announced hn' hp' => rw [hn] at hn'; cases hn'; rw [hp] at hp'; cases hp'
  | stored hn hp hl =>
    cases h' with
    | refused hn' hp' => rw [hn] at hn'; cases hn'; rw [hp] at hp'; cases hp'
    | stored hn' hp' => rw [hn] at hn'; cases hn'; rw [hp] at hp'; cases hp'; exact ⟨rfl, rfl⟩
    | announced hn' hp' hl' => rw [hn] at hn'; cases hn'; rw [hl] at hl'; cases hl'
  | announced hn hp hl _ ih =>
    cases h' with
    | refused hn' hp' => rw [hn] at hn'; cases hn'; rw [hp] at hp'; cases hp'
    | stored hn' _ hl' => rw [hn] at hn'; cases hn'; rw [hl] at hl'; cases hl'
    | announced hn' hp' hl' ht' =>
      rw [hn] at hn'; cases hn'
      rw [hp] at hp'; cases hp'
      rw [hl] at hl'; cases hl'
      exact ⟨rfl, (ih ht').2⟩

/-- A post is refused exactly when the node is full, and then changes nothing. -/
theorem answer_eq_false_iff (h : Post token net k e a b net') {n : Node κ α}
    (hn : net k = some n) : b = false ↔ n.deque.waiting = n.deque.capacity := by
  cases h with
  | refused hn' hp =>
    rw [hn] at hn'; cases hn'
    exact ⟨fun _ => BoundedDeque.push?_eq_none_iff.mp hp, fun _ => rfl⟩
  | stored hn' hp =>
    rw [hn] at hn'; cases hn'
    have := (BoundedDeque.push?_eq_some_iff.mp hp).1
    simp only [Bool.true_eq_false, BoundedDeque.waiting, false_iff]
    omega
  | announced hn' hp =>
    rw [hn] at hn'; cases hn'
    have := (BoundedDeque.push?_eq_some_iff.mp hp).1
    simp only [Bool.true_eq_false, BoundedDeque.waiting, false_iff]
    omega

theorem eq_of_refused (h : Post token net k e a false net') : net' = net := by
  cases h; rfl

theorem sameShape (h : Post token net k e a b net') : SameShape net net' := by
  induction h with
  | refused => exact .refl _
  | stored hn hp _ =>
    exact sameShape_setDeque hn (BoundedDeque.push?_eq_some_iff.mp hp).2.1
  | announced hn hp _ _ ih =>
    exact (sameShape_setDeque hn (BoundedDeque.push?_eq_some_iff.mp hp).2.1).trans ih

/-- **The frame rule**: a post changes no node outside a set that contains the posted node and
is closed under links. -/
theorem frame {P : κ → Prop} (h : Post token net k e a b net')
    (hP : ∀ x c, P x → net.Member c x → P c) (hk : P k) {x : κ} (hx : ¬ P x) :
    net' x = net x := by
  induction h with
  | refused => rfl
  | stored => exact setDeque_of_ne _ _ _ (fun he => hx (he ▸ hk))
  | announced hn hp hl _ ih =>
    have hs := sameShape_setDeque hn (BoundedDeque.push?_eq_some_iff.mp hp).2.1
    rw [ih (fun y c hy hm => hP y c hy ((hs.member_iff c y).mp hm)) (hP _ _ hk ⟨_, hn, hl⟩)]
    exact setDeque_of_ne _ _ _ (fun he => hx (he ▸ hk))

/-- A full node is never changed, whatever comes back to it. -/
theorem eq_of_full (h : Post token net k e a b net') {x : κ} {N : Node κ α} (hN : net x = some N)
    (hfull : N.deque.items.length = N.deque.capacity) : net' x = net x := by
  have hne : ∀ {k : κ} {n : Node κ α} {d : BoundedDeque α} {e : Side} {a : α}
      {net : Net κ α}, net x = some N → net k = some n → n.deque.push? e a = some d → x ≠ k := by
    rintro k n d e a net hN hn hp rfl
    rw [hN] at hn
    cases hn
    exact Nat.ne_of_lt (BoundedDeque.push?_eq_some_iff.mp hp).1 hfull
  induction h with
  | refused => rfl
  | stored hn hp => exact setDeque_of_ne _ _ _ (hne hN hn hp)
  | @announced net _ _ _ _ _ n d _ hn hp _ _ ih =>
    have hk := setDeque_of_ne net n d (hne hN hn hp)
    rw [ih (hk.trans hN), hk]

/-- An accepted post that fills its node leaves exactly the pushed item there. -/
theorem filled (h : Post token net k e a true net') {n : Node κ α} (hn : net k = some n)
    (hlast : n.deque.items.length + 1 = n.deque.capacity) :
    ∃ d, n.deque.push? e a = some d ∧ net' k = some { n with deque := d } := by
  cases h with
  | stored hn' hp => rw [hn] at hn'; cases hn'; exact ⟨_, hp, setDeque_self ..⟩
  | announced hn' hp hl ht =>
    rw [hn] at hn'; cases hn'
    obtain ⟨-, hcap, hitems⟩ := BoundedDeque.push?_eq_some_iff.mp hp
    refine ⟨_, hp, (ht.eq_of_full (setDeque_self ..) ?_).trans (setDeque_self ..)⟩
    rw [hcap, hitems, BoundedDeque.length_pushItems, hlast]

/-- A node whose members nobody announces to is unchanged by a post at another node that is not
one of its members. -/
theorem eq_of_leaf_members (h : Post token net k e a b net') {x : κ} (hne : x ≠ k)
    (hx : net.LeafMembers x) (hk : ¬ net.Member x k) : net' x = net x := by
  refine h.frame (P := fun y => y ≠ x ∧ (y = k ∨ ∃ z, net.Member y z)) ?_ ?_ ?_
  · rintro y c ⟨hyx, hy⟩ hm
    refine ⟨?_, Or.inr ⟨y, hm⟩⟩
    rintro rfl
    -- `y` is a member of `c`, so it is announced to by nobody and can only be `k`
    rcases hy with rfl | ⟨z, hz⟩
    · exact hk hm
    · exact hx y hm z hz
  · exact ⟨hne.symm, Or.inl rfl⟩
  · exact fun hp => hp.1 rfl

/-- A node nobody announces to is changed only by a post at itself. -/
theorem eq_of_no_member (h : Post token net k e a b net') {x : κ} (hne : x ≠ k)
    (hx : ∀ y, ¬ net.Member x y) : net' x = net x :=
  h.eq_of_leaf_members hne (fun m hm => absurd hm (hx m)) (hx k)

/-- An accepted post at a node whose members nobody announces to leaves exactly the pushed item
there: no announcement comes back. -/
theorem posted (h : Post token net k e a true net') (hleaf : net.LeafMembers k) {n : Node κ α}
    (hn : net k = some n) :
    ∃ d, n.deque.push? e a = some d ∧ net' k = some { n with deque := d } := by
  cases h with
  | stored hn' hp => rw [hn] at hn'; cases hn'; exact ⟨_, hp, setDeque_self ..⟩
  | @announced _ _ _ c _ _ _ _ _ hn' hp hl ht =>
    rw [hn] at hn'; cases hn'
    refine ⟨_, hp, ?_⟩
    have hs := sameShape_setDeque hn (BoundedDeque.push?_eq_some_iff.mp hp).2.1
    have hkk : ¬ net.Member k k := fun hkk => hleaf k hkk k hkk
    have hkc : k ≠ c := fun he => hkk ⟨n, hn, he ▸ hl⟩
    have hck : ¬ net.Member k c := fun hck => hleaf c hck k ⟨n, hn, hl⟩
    rw [ht.eq_of_leaf_members hkc (hs.leafMembers hleaf)
      (fun hm => hck ((hs.member_iff k c).mp hm)), setDeque_self]

/-- An accepted post at a node nobody announces to leaves exactly the pushed item there. -/
theorem source (h : Post token net k e a true net') (hk : ∀ y, ¬ net.Member k y) {n : Node κ α}
    (hn : net k = some n) :
    ∃ d, n.deque.push? e a = some d ∧ net' k = some { n with deque := d } :=
  h.posted (fun y hy => absurd hy (hk y)) hn

/-- An accepted post at a member of a node with room, whose members nobody announces to, leaves
the member's token once more at the back of that node, and nothing after it. -/
theorem target (h : Post token net k e a true net') {S : κ} {n N : Node κ α}
    (hn : net k = some n) (hl : n.link = some S) (hN : net S = some N)
    (hroom : N.deque.items.length < N.deque.capacity) (hleaf : net.LeafMembers S) :
    ∃ D, N.deque.push? .back (token k) = some D ∧ net' S = some { N with deque := D } := by
  have hm : net.Member S k := ⟨n, hn, hl⟩
  have hSk : S ≠ k := fun he => hleaf k hm k (he ▸ hm)
  cases h with
  | stored hn' _ hl' => rw [hn] at hn'; cases hn'; rw [hl] at hl'; cases hl'
  | @announced _ _ _ c _ _ n' d b hn' hp hl' ht =>
    rw [hn] at hn'; cases hn'
    rw [hl] at hl'; cases hl'
    have hs := sameShape_setDeque hn (BoundedDeque.push?_eq_some_iff.mp hp).2.1
    have hN' := (setDeque_of_ne net n d hSk).trans hN
    cases b with
    | false =>
      have := (ht.answer_eq_false_iff hN').mp rfl
      simp only [BoundedDeque.waiting] at this
      omega
    | true => exact ht.posted (hs.leafMembers hleaf) hN'

end Post

end Foundations
