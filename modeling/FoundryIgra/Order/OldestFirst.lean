import Mathlib.Data.List.Nodup
import Mathlib.Order.Basic

/-!
# Deleting the oldest first

What is left of a list is left *oldest first* when nothing that is left is older than something
that is gone. Dropping the first members of a list that is ordered by age is oldest first, and so
are any number of such deletions after one another, wherever ties are broken.

## Main definitions

* `Ordered.OldestFirst`: a deletion that takes the oldest members.

## Main results

* `Ordered.OldestFirst.trans`: deletions after one another.
* `Ordered.oldestFirst_drop`: dropping a prefix of an ordered list.
* `Ordered.filter_notMem_take`: deleting the members with the keys of a prefix drops the prefix.
-/

namespace Ordered

variable {α κ M : Type*}

/-- From `before` to `after`, no member that is left is older than one that is gone. -/
def OldestFirst [LE M] (age : α → M) (before after : List α) : Prop :=
  ∀ a ∈ before, a ∉ after → ∀ b ∈ after, age a ≤ age b

theorem OldestFirst.refl [LE M] (age : α → M) (l : List α) : OldestFirst age l l :=
  fun _ ha hna => absurd ha hna

theorem OldestFirst.trans [LE M] {age : α → M} {l m r : List α} (h : OldestFirst age l m)
    (h' : OldestFirst age m r) (hsub : r ⊆ m) : OldestFirst age l r := by
  intro a ha hna b hb
  by_cases ham : a ∈ m
  · exact h' a ham hna b hb
  · exact h a ha ham b (hsub hb)

theorem OldestFirst.congr [LE M] {age : α → M} {l l' r r' : List α} (h : OldestFirst age l r)
    (hl : ∀ a, a ∈ l' ↔ a ∈ l) (hr : ∀ a, a ∈ r' ↔ a ∈ r) : OldestFirst age l' r' :=
  fun a ha hna b hb => h a ((hl a).mp ha) (fun har => hna ((hr a).mpr har)) b ((hr b).mp hb)

/-- Dropping a prefix of a list that is ordered by age takes the oldest members. -/
theorem oldestFirst_drop [LE M] {age : α → M} {l : List α}
    (hl : l.Pairwise fun a b => age a ≤ age b) (n : ℕ) : OldestFirst age l (l.drop n) := by
  intro a ha hna b hb
  rw [← List.take_append_drop n l, List.pairwise_append] at hl
  rw [← List.take_append_drop n l, List.mem_append] at ha
  exact hl.2.2 a (ha.resolve_right hna) b hb

/-- Where the keys are distinct, deleting the members with the keys of a prefix drops it. -/
theorem filter_notMem_take [DecidableEq κ] {key : α → κ} {l : List α} (hl : (l.map key).Nodup)
    (n : ℕ) : (l.filter fun a => key a ∉ (l.take n).map key) = l.drop n := by
  have hsplit : ((l.take n).map key ++ (l.drop n).map key).Nodup := by
    rwa [← List.map_append, List.take_append_drop]
  obtain ⟨-, -, hdisj⟩ := List.nodup_append.mp hsplit
  have htake : ((l.take n).filter fun a => key a ∉ (l.take n).map key) = [] := by
    refine List.filter_eq_nil_iff.mpr fun a ha => ?_
    have hmem : key a ∈ (l.take n).map key := List.mem_map_of_mem ha
    simpa using hmem
  have hdrop : ((l.drop n).filter fun a => key a ∉ (l.take n).map key) = l.drop n := by
    refine List.filter_eq_self.mpr fun a ha => ?_
    have hna : key a ∉ (l.take n).map key := fun hmem =>
      hdisj _ hmem _ (List.mem_map_of_mem ha) rfl
    simpa using hna
  calc (l.filter fun a => key a ∉ (l.take n).map key)
      = ((l.take n ++ l.drop n).filter fun a => key a ∉ (l.take n).map key) := by
        rw [List.take_append_drop]
    _ = l.drop n := by rw [List.filter_append, htake, hdrop, List.nil_append]

end Ordered
