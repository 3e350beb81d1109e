import Mathlib.Algebra.BigOperators.Group.Multiset.Basic
import Mathlib.Algebra.Order.Monoid.Defs
import Mathlib.Data.List.Sort

/-!
# Prefixes of a list that is ordered by descending weight

Among all sub-multisets of a list with a given number of members, the first members of the list
weigh the most when the list is ordered by descending weight. So where a demand on the weight
depends on the number of members alone, it is enough to try the prefixes.

## Main definitions

* `LargestFirst.Descending`: the list is ordered by descending weight.

## Main results

* `LargestFirst.sum_le_sum_take`: the prefix weighs the most.
-/

namespace LargestFirst

variable {α M : Type*} {f : α → M}

/-- The list is ordered by descending weight. -/
def Descending [LE M] (f : α → M) (l : List α) : Prop := l.Pairwise fun a b => f b ≤ f a

theorem Descending.of_cons [LE M] {a : α} {l : List α} (h : Descending f (a :: l)) :
    Descending f l :=
  (List.pairwise_cons.mp h).2

variable [AddCommMonoid M] [PartialOrder M] [IsOrderedAddMonoid M]

/-- No sublist outweighs the prefix of its length. -/
theorem sum_le_sum_take_of_sublist {l s : List α} (hl : Descending f l) (hs : s.Sublist l) :
    (s.map f).sum ≤ ((l.take s.length).map f).sum := by
  induction l generalizing s with
  | nil =>
    obtain rfl := List.sublist_nil.mp hs
    exact le_refl _
  | cons a l ih =>
    cases s with
    | nil => simp
    | cons b t =>
      -- the first member of the sublist weighs at most as much as the first of the list
      obtain ⟨hba, ht⟩ : f b ≤ f a ∧ t.Sublist l := by
        rcases List.sublist_cons_iff.mp hs with hbt | ⟨r, hr, hrl⟩
        · exact ⟨(List.pairwise_cons.mp hl).1 b (hbt.subset List.mem_cons_self),
            (List.sublist_cons_self b t).trans hbt⟩
        · obtain ⟨rfl, rfl⟩ := List.cons.inj hr
          exact ⟨le_refl _, hrl⟩
      rw [List.length_cons, List.take_succ_cons, List.map_cons, List.map_cons, List.sum_cons,
        List.sum_cons]
      exact add_le_add hba (ih hl.of_cons ht)

/-- **The prefix weighs the most** among the sub-multisets of its size. -/
theorem sum_le_sum_take {l : List α} (hl : Descending f l) {s : Multiset α}
    (hs : s ≤ (l : Multiset α)) :
    (s.map f).sum ≤ ((l.take s.card).map f).sum := by
  induction s using Quotient.inductionOn with
  | h t =>
    obtain ⟨r, hrt, hrl⟩ := Multiset.coe_le.mp hs
    have h := sum_le_sum_take_of_sublist hl hrl
    rw [hrt.length_eq, (hrt.map f).sum_eq] at h
    exact h

end LargestFirst
