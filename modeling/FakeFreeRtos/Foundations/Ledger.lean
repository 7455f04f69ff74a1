import FakeFreeRtos.Foundations.NotifyNet
import Mathlib.Algebra.BigOperators.Group.Finset.Basic
import Mathlib.Algebra.Order.BigOperators.Group.Finset
import Mathlib.Data.Finset.Card
import Mathlib.Algebra.Order.Group.Nat

/-!
# The ledger of an announcement node

A consumer of a network watches one node `S`: it takes a token from `S` and later takes one item
from the member the token names. `Ledger token S net pending opened` balances the books: `pending`
lists the members whose tokens wait in `S`, `opened k` counts the tokens of `k` taken from `S` and
not yet answered, and together they are the items waiting in `k`.

The books stay balanced under posts (`Ledger.post_member`, `Ledger.post_other`), takes at `S`
(`Ledger.take`), answers (`Ledger.answer`), takes elsewhere (`Ledger.take_other`), and links made
and removed at empty nodes (`Ledger.relink`). When the capacity of `S` is at least the sum of its
members' capacities (`Roomy`), a member with room never finds `S` full (`Ledger.room`).
-/

namespace Foundations

open Net BoundedDeque

variable {κ α : Type*} [DecidableEq κ]

namespace Net

/-- The capacity of a node; a missing node has none. -/
def cap (net : Net κ α) (k : κ) : ℕ := (net k).elim 0 (·.deque.capacity)

/-- The items waiting at a node. -/
def itemsAt (net : Net κ α) (k : κ) : List α := (net k).elim [] (·.deque.items)

omit [DecidableEq κ] in
theorem cap_of_node {net : Net κ α} {k : κ} {n : Node κ α} (hn : net k = some n) :
    net.cap k = n.deque.capacity := by
  rw [cap, hn, Option.elim_some]

omit [DecidableEq κ] in
theorem itemsAt_of_node {net : Net κ α} {k : κ} {n : Node κ α} (hn : net k = some n) :
    net.itemsAt k = n.deque.items := by
  rw [itemsAt, hn, Option.elim_some]

omit [DecidableEq κ] in
theorem length_itemsAt_le (net : Net κ α) (k : κ) : (net.itemsAt k).length ≤ net.cap k := by
  cases hn : net k with
  | none => simp [itemsAt, cap, hn]
  | some n => rw [itemsAt_of_node hn, cap_of_node hn]; exact n.deque.fits

/-- The capacity of `S` is at least the sum of the capacities of its members. -/
def Roomy (net : Net κ α) (S : κ) : Prop :=
  ∀ F : Finset κ, (∀ k ∈ F, net.Member S k) → ∑ k ∈ F, net.cap k ≤ net.cap S

end Net

/-- The books of the node `S`, balanced. -/
structure Ledger (token : κ → α) (S : κ) (net : Net κ α) (pending : List κ) (opened : κ → ℕ) :
    Prop where
  /-- What waits in `S` are the tokens of `pending`. -/
  items : net.itemsAt S = pending.map token
  /-- Only members are pending. -/
  pending_member : ∀ k ∈ pending, net.Member S k
  /-- An item waiting in a member is announced in `S`, or announced and taken. -/
  balance : ∀ k, net.Member S k → pending.count k + opened k = (net.itemsAt k).length
  /-- Nothing is open at a node that is not a member. -/
  opened_other : ∀ k, ¬ net.Member S k → opened k = 0

namespace Ledger

variable {token : κ → α} {S k : κ} {net net' : Net κ α} {pending : List κ} {opened : κ → ℕ}
  {e : Side} {a : α} {b : Bool}

/-- Books opened at an empty node without members. -/
theorem of_empty (hS : net.itemsAt S = []) (hm : ∀ k, ¬ net.Member S k) :
    Ledger token S net [] (fun _ => 0) where
  items := by simpa using hS
  pending_member := by simp
  balance k hk := absurd hk (hm k)
  opened_other _ _ := rfl

theorem count_add_opened_other (h : Ledger token S net pending opened) (hk : ¬ net.Member S k) :
    pending.count k = 0 ∧ opened k = 0 :=
  ⟨List.count_eq_zero.mpr fun hp => hk (h.pending_member k hp), h.opened_other k hk⟩

/-- **No token is lost**: in a roomy node, a member with room for one more item leaves `S` room
for one more token. -/
theorem room (h : Ledger token S net pending opened) (hr : net.Roomy S) (hk : net.Member S k)
    (hlt : (net.itemsAt k).length < net.cap k) : (net.itemsAt S).length < net.cap S := by
  classical
  -- the members concerned: those pending, and `k`
  have hF : ∀ x ∈ insert k pending.toFinset, net.Member S x := by
    intro x hx
    rcases Finset.mem_insert.mp hx with rfl | hx
    · exact hk
    · exact h.pending_member x (List.mem_toFinset.mp hx)
  have hle : ∀ x ∈ insert k pending.toFinset, pending.count x ≤ (net.itemsAt x).length :=
    fun x hx => by have := h.balance x (hF x hx); omega
  have hlen : (net.itemsAt S).length = ∑ x ∈ insert k pending.toFinset, pending.count x := by
    rw [h.items, List.length_map]
    refine (List.sum_toFinset_count_eq_length pending).symm.trans
      (Finset.sum_subset (Finset.subset_insert ..) fun x _ hx => ?_)
    exact List.count_eq_zero.mpr fun hp => hx (List.mem_toFinset.mpr hp)
  calc (net.itemsAt S).length = ∑ x ∈ insert k pending.toFinset, pending.count x := hlen
    _ < ∑ x ∈ insert k pending.toFinset, net.cap x := by
      refine Finset.sum_lt_sum (fun x hx => (hle x hx).trans (net.length_itemsAt_le x)) ?_
      exact ⟨k, Finset.mem_insert_self .., (hle k (Finset.mem_insert_self ..)).trans_lt hlt⟩
    _ ≤ net.cap S := hr _ hF

/-- The books depend only on the members, on what waits in `S` and on what waits in its
members. -/
theorem congr (h : Ledger token S net pending opened)
    (hm : ∀ x, net'.Member S x ↔ net.Member S x) (hS : net'.itemsAt S = net.itemsAt S)
    (hi : ∀ x, net.Member S x → net'.itemsAt x = net.itemsAt x) :
    Ledger token S net' pending opened where
  items := hS.trans h.items
  pending_member x hx := (hm x).mpr (h.pending_member x hx)
  balance x hx := by
    rw [hi x ((hm x).mp hx)]
    exact h.balance x ((hm x).mp hx)
  opened_other x hx := h.opened_other x (fun hx' => hx ((hm x).mpr hx'))

/-- A post at a node that is neither `S` nor a member of `S` leaves the books as they are. -/
theorem post_other (h : Ledger token S net pending opened) (hp : Post token net k e a b net')
    (hkS : k ≠ S) (hk : ¬ net.Member S k) (hleaf : net.LeafMembers S) :
    Ledger token S net' pending opened := by
  refine h.congr (hp.sameShape.member_iff S) ?_ fun x hx => ?_
  · rw [itemsAt, itemsAt, hp.eq_of_leaf_members hkS.symm hleaf hk]
  · have hxk : x ≠ k := fun he => hk (he ▸ hx)
    rw [itemsAt, itemsAt, hp.eq_of_no_member hxk (hleaf x hx)]

/-- A post accepted at a member of a roomy node is entered as pending. -/
theorem post_member (h : Ledger token S net pending opened) (hp : Post token net k e a true net')
    (hk : net.Member S k) (hr : net.Roomy S) (hS : (net S).isSome) (hleaf : net.LeafMembers S) :
    Ledger token S net' (pending ++ [k]) opened := by
  obtain ⟨n, hn, hl⟩ := hk
  obtain ⟨N, hN⟩ := Option.isSome_iff_exists.mp hS
  have hk : net.Member S k := ⟨n, hn, hl⟩
  obtain ⟨d, hd, hn'⟩ := hp.source (hleaf k hk) hn
  obtain ⟨hlt, -, hdi⟩ := push?_eq_some_iff.mp hd
  have hroom := h.room hr hk (by rwa [itemsAt_of_node hn, cap_of_node hn])
  rw [itemsAt_of_node hN, cap_of_node hN] at hroom
  obtain ⟨D, hD, hN'⟩ := hp.target hn hl hN hroom hleaf
  obtain ⟨-, -, hDi⟩ := push?_eq_some_iff.mp hD
  have hm := hp.sameShape.member_iff S
  constructor
  · rw [itemsAt_of_node hN', hDi, pushItems, List.map_append, ← h.items, itemsAt_of_node hN]
    rfl
  · intro x hx
    rcases List.mem_append.mp hx with hx | hx
    · exact (hm x).mpr (h.pending_member x hx)
    · obtain rfl := List.mem_singleton.mp hx
      exact (hm x).mpr hk
  · intro x hx
    have hx' := (hm x).mp hx
    have hbal := h.balance x hx'
    by_cases hxk : x = k
    · subst hxk
      rw [itemsAt_of_node hn'] at *
      rw [itemsAt_of_node hn] at hbal
      simp only [hdi, length_pushItems, List.count_append, List.count_singleton_self]
      omega
    · have hcount : [k].count x = 0 := List.count_eq_zero.mpr (by simpa using hxk)
      rw [itemsAt, hp.eq_of_no_member hxk (hleaf x hx'), List.count_append, hcount]
      exact hbal
  · exact fun x hx => h.opened_other x (fun hx' => hx ((hm x).mpr hx'))

/-- Taking a token at `S` opens its member. -/
theorem take (h : Ledger token S net pending opened) {N : Node κ α} {D : BoundedDeque α}
    (hN : net S = some N) (hp : N.deque.pop? = some (a, D)) (hSS : ¬ net.Member S S) :
    ∃ x rest, pending = x :: rest ∧ a = token x ∧
      Ledger token S (net.setDeque S N D) rest (Function.update opened x (opened x + 1)) := by
  obtain ⟨hc, hi⟩ := pop?_eq_some_iff.mp hp
  have hitems := h.items
  rw [itemsAt_of_node hN, hi] at hitems
  cases pending with
  | nil => simp at hitems
  | cons x rest =>
    rw [List.map_cons, List.cons.injEq] at hitems
    obtain ⟨rfl, hrest⟩ := hitems
    refine ⟨x, rest, rfl, rfl, ?_⟩
    have hm := (sameShape_setDeque hN hc).member_iff S
    constructor
    · rw [itemsAt_of_node (setDeque_self ..)]
      exact hrest
    · exact fun y hy => (hm y).mpr (h.pending_member y (List.mem_cons_of_mem _ hy))
    · intro y hy
      have hy' := (hm y).mp hy
      have hbal := h.balance y hy'
      have hyS : y ≠ S := fun he => hSS (he ▸ hy')
      rw [itemsAt, setDeque_of_ne _ _ _ hyS]
      by_cases hyx : y = x
      · subst hyx
        rw [List.count_cons_self] at hbal
        rw [Function.update_self, ← itemsAt]
        omega
      · rw [List.count_cons_of_ne (Ne.symm hyx)] at hbal
        rw [Function.update_of_ne hyx]
        exact hbal
    · intro y hy
      have hy' : ¬ net.Member S y := fun hy' => hy ((hm y).mpr hy')
      have hyx : y ≠ x := fun he => hy' (he ▸ h.pending_member x List.mem_cons_self)
      rw [Function.update_of_ne hyx]
      exact h.opened_other y hy'

/-- Taking an item at an open member succeeds, and answers one token. -/
theorem answer (h : Ledger token S net pending opened) {n : Node κ α} (hn : net k = some n)
    (hl : n.link = some S) (ho : 0 < opened k) (hkS : k ≠ S) :
    ∃ x d, n.deque.pop? = some (x, d) ∧
      Ledger token S (net.setDeque k n d) pending (Function.update opened k (opened k - 1)) := by
  have hk : net.Member S k := ⟨n, hn, hl⟩
  have hbal := h.balance k hk
  rw [itemsAt_of_node hn] at hbal
  cases hp : n.deque.pop? with
  | none =>
    rw [pop?_eq_none_iff.mp hp, List.length_nil] at hbal
    omega
  | some xd =>
    obtain ⟨x, d⟩ := xd
    obtain ⟨hc, hi⟩ := pop?_eq_some_iff.mp hp
    refine ⟨x, d, rfl, ?_⟩
    have hm := (sameShape_setDeque hn hc).member_iff S
    constructor
    · rw [itemsAt, setDeque_of_ne _ _ _ hkS.symm]
      exact h.items
    · exact fun y hy => (hm y).mpr (h.pending_member y hy)
    · intro y hy
      have hy' := (hm y).mp hy
      by_cases hyk : y = k
      · subst hyk
        rw [hi, List.length_cons] at hbal
        rw [itemsAt_of_node (setDeque_self ..), Function.update_self]
        simp only
        omega
      · rw [itemsAt, setDeque_of_ne _ _ _ hyk, Function.update_of_ne hyk]
        exact h.balance y hy'
    · intro y hy
      have hy' : ¬ net.Member S y := fun hy' => hy ((hm y).mpr hy')
      have hyk : y ≠ k := by rintro rfl; exact hy' hk
      rw [Function.update_of_ne hyk]
      exact h.opened_other y hy'

/-- Taking an item at a node that is neither `S` nor a member of `S` leaves the books as they
are. -/
theorem take_other (h : Ledger token S net pending opened) {n : Node κ α} {d : BoundedDeque α}
    (hn : net k = some n) (hd : d.capacity = n.deque.capacity) (hkS : k ≠ S)
    (hk : ¬ net.Member S k) : Ledger token S (net.setDeque k n d) pending opened := by
  refine h.congr ((sameShape_setDeque hn hd).member_iff S) ?_ fun x hx => ?_
  · rw [itemsAt, itemsAt, setDeque_of_ne _ _ _ hkS.symm]
  · have hxk : x ≠ k := by rintro rfl; exact hk hx
    rw [itemsAt, itemsAt, setDeque_of_ne _ _ _ hxk]

/-- Linking an empty node elsewhere, or unlinking it, leaves the books as they are. -/
theorem relink (h : Ledger token S net pending opened) {n : Node κ α} (hn : net k = some n)
    (he : n.deque.items = []) (l : Option κ) :
    Ledger token S (net.setLink k n l) pending opened := by
  have hitems : ∀ x, (net.setLink k n l).itemsAt x = net.itemsAt x := by
    intro x
    by_cases hx : x = k
    · subst hx
      rw [itemsAt_of_node (setLink_self ..), itemsAt_of_node hn]
    · rw [itemsAt, itemsAt, setLink_of_ne _ _ _ hx]
  have hm : ∀ x, x ≠ k → ((net.setLink k n l).Member S x ↔ net.Member S x) := by
    intro x hx
    simp only [Member, setLink_of_ne _ _ _ hx]
  -- nothing waits in `k`, so nothing of `k` is pending or open, linked or not
  have hzero : pending.count k = 0 ∧ opened k = 0 := by
    by_cases hmk : net.Member S k
    · have hbal := h.balance k hmk
      rw [itemsAt_of_node hn, he, List.length_nil] at hbal
      omega
    · exact h.count_add_opened_other hmk
  constructor
  · rw [hitems]
    exact h.items
  · intro x hx
    have hxk : x ≠ k := fun hxk => (List.count_eq_zero.mp hzero.1) (hxk ▸ hx)
    exact (hm x hxk).mpr (h.pending_member x hx)
  · intro x hx
    rw [hitems]
    by_cases hxk : x = k
    · subst hxk
      rw [itemsAt_of_node hn, he, List.length_nil]
      omega
    · exact h.balance x ((hm x hxk).mp hx)
  · intro x hx
    by_cases hxk : x = k
    · exact hxk ▸ hzero.2
    · exact h.opened_other x (fun hx' => hx ((hm x hxk).mpr hx'))

end Ledger

end Foundations
