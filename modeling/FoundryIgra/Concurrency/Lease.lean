import Mathlib.Data.Option.Basic
import Mathlib.Order.Lattice
import Mathlib.Tactic.Common

/-!
# Leases on one cell

A lease cell holds at most one owner together with the time its lease expires. An owner may take
the cell when it is free, when it holds the cell itself, or when the recorded expiry lies before
the owner's clock reading. The reading may be stale: all that is assumed of it is that it is at
most the time at which the grant is recorded.

What the recorded expiry `e` of a grant to `o` guarantees is `Lease.Covers`: until `o` releases,
the cell still names `o` with that expiry, or `e` has passed. Every other party's action keeps
it, so a second owner is let in only after `e`.

## Main definitions

* `Lease.Admits`, `Lease.release`, `Lease.Covers`.
* `Lease.Run`: histories of grants and releases on one cell.

## Main results

* `Lease.Covers.not_both`: two different owners with unexpired grants cannot both be covered.
* `Lease.Run.expiry_lt_time`: in any history a different owner is granted the cell only after the
  expiry of an outstanding grant.
-/

namespace Lease

variable {O T : Type}

/-- `o` gives the cell back; the cell of another owner is left alone. -/
def release [DecidableEq O] (h : Option (O × T)) (o : O) : Option (O × T) :=
  h.filter fun p => p.1 ≠ o

theorem release_eq_self [DecidableEq O] {h : Option (O × T)} {o o' : O} {e : T}
    (hh : h = some (o, e)) (hne : o' ≠ o) : release h o' = h := by
  subst hh
  simp [release, hne.symm]

variable [LinearOrder T]

/-- The cell `h` lets `o` in at the reading `now`. -/
def Admits (h : Option (O × T)) (o : O) (now : T) : Prop :=
  ∀ o' e, h = some (o', e) → o' = o ∨ e < now

/-- The grant to `o` until `e` is still in force at time `t`, or has expired. -/
def Covers (h : Option (O × T)) (t : T) (o : O) (e : T) : Prop :=
  h = some (o, e) ∨ e < t

theorem covers_grant (t : T) (o : O) (e : T) : Covers (some (o, e)) t o e := Or.inl rfl

theorem Covers.mono {h : Option (O × T)} {t t' : T} {o : O} {e : T} (hc : Covers h t o e)
    (ht : t ≤ t') : Covers h t' o e :=
  hc.imp_right fun hlt => hlt.trans_le ht

/-- Another owner is admitted only after the expiry. -/
theorem Covers.lt_of_admits {h : Option (O × T)} {t now : T} {o o' : O} {e : T}
    (hc : Covers h t o e) (ha : Admits h o' now) (hne : o' ≠ o) (hnow : now ≤ t) : e < t := by
  rcases hc with rfl | hlt
  · rcases ha o e rfl with heq | hlt
    · exact absurd heq.symm hne
    · exact hlt.trans_le hnow
  · exact hlt

/-- A grant to another owner keeps the cover. -/
theorem Covers.grant_of_ne {h : Option (O × T)} {t now : T} {o o' : O} {e e' : T}
    (hc : Covers h t o e) (ha : Admits h o' now) (hne : o' ≠ o) (hnow : now ≤ t) :
    Covers (some (o', e')) t o e :=
  Or.inr (hc.lt_of_admits ha hne hnow)

/-- **Exclusion.** Two different owners are not both covered before their expiries. -/
theorem Covers.not_both {h : Option (O × T)} {t : T} {o o' : O} {e e' : T}
    (hc : Covers h t o e) (hc' : Covers h t o' e') (hne : o ≠ o') (ht : t ≤ e) (ht' : t ≤ e') :
    False := by
  have h₁ : h = some (o, e) := hc.resolve_right ht.not_gt
  have h₂ : h = some (o', e') := hc'.resolve_right ht'.not_gt
  exact hne (congrArg Prod.fst (Option.some_inj.mp (h₁.symm.trans h₂)))

section Release

variable [DecidableEq O]

/-- A release by another owner keeps the cover. -/
theorem Covers.release_of_ne {h : Option (O × T)} {t : T} {o o' : O} {e : T}
    (hc : Covers h t o e) (hne : o' ≠ o) : Covers (release h o') t o e :=
  hc.imp_left fun hh => (release_eq_self hh hne).trans hh

/-! ### Histories of one cell -/

/-- What happened to the cell. -/
inductive Action (O T : Type)
  | grant (o : O) (e : T)
  | release (o : O)
  | other

/-- An action with the time it was recorded. -/
structure Stamped (O T : Type) where
  time : T
  action : Action O T

/-- `Run h₀ es h`: the history `es`, most recent first and in the order of time, leads from the
cell `h₀` to `h`. -/
inductive Run (h₀ : Option (O × T)) : List (Stamped O T) → Option (O × T) → Prop
  | nil : Run h₀ [] h₀
  | grant {es : List (Stamped O T)} {h : Option (O × T)} (hr : Run h₀ es h) {t now : T} {o : O}
      (e : T) (ht : ∀ s ∈ es, s.time ≤ t) (hnow : now ≤ t) (ha : Admits h o now) :
      Run h₀ (⟨t, .grant o e⟩ :: es) (some (o, e))
  | release {es : List (Stamped O T)} {h : Option (O × T)} (hr : Run h₀ es h) {t : T} (o : O)
      (ht : ∀ s ∈ es, s.time ≤ t) : Run h₀ (⟨t, .release o⟩ :: es) (Lease.release h o)
  | other {es : List (Stamped O T)} {h : Option (O × T)} (hr : Run h₀ es h) {t : T}
      (ht : ∀ s ∈ es, s.time ≤ t) : Run h₀ (⟨t, .other⟩ :: es) h

/-- Since its last grant, unless it was granted again or released, an owner stays covered. -/
theorem Run.covers {h₀ h : Option (O × T)} {o : O} {e t₀ : T} {later earlier : List (Stamped O T)}
    (hr : Run h₀ (later ++ ⟨t₀, .grant o e⟩ :: earlier) h)
    (hgrant : ∀ s ∈ later, ∀ e', s.action ≠ .grant o e')
    (hrelease : ∀ s ∈ later, s.action ≠ .release o) {t : T}
    (ht : ∀ s ∈ later, s.time ≤ t) : Covers h t o e := by
  induction later generalizing h t with
  | nil =>
    cases hr
    exact covers_grant t o e
  | cons s later ih =>
    have hgrant' := fun s hs => hgrant s (List.mem_cons_of_mem _ hs)
    have hrelease' := fun s hs => hrelease s (List.mem_cons_of_mem _ hs)
    have htail : ∀ x ∈ later, x.time ≤ t := fun x hx => ht x (List.mem_cons_of_mem _ hx)
    have hs := ht s List.mem_cons_self
    cases hr with
    | grant hr e' hle hnow ha =>
      rename_i t' now o'
      have hne : o' ≠ o := fun heq => hgrant _ List.mem_cons_self e' (heq ▸ rfl)
      have hc := ih hr hgrant' hrelease' (t := t')
        fun x hx => hle x (List.mem_append_left _ hx)
      exact (hc.grant_of_ne ha hne hnow).mono hs
    | release hr o' hle =>
      have hne : o' ≠ o := fun heq => hrelease _ List.mem_cons_self (heq ▸ rfl)
      exact (ih hr hgrant' hrelease' htail).release_of_ne hne
    | other hr hle => exact ih hr hgrant' hrelease' htail

/-- **Mutual exclusion.** While a grant to `o` until `e` is outstanding, another owner is granted
the cell only at a time after `e`. -/
theorem Run.expiry_lt_time {h₀ h : Option (O × T)} {o o' : O} {e e' t₀ t : T}
    {later between earlier : List (Stamped O T)}
    (hr : Run h₀ (later ++ ⟨t, .grant o' e'⟩ :: (between ++ ⟨t₀, .grant o e⟩ :: earlier)) h)
    (hgrant : ∀ s ∈ between, ∀ e', s.action ≠ .grant o e')
    (hrelease : ∀ s ∈ between, s.action ≠ .release o) (hne : o' ≠ o) : e < t := by
  induction later generalizing h with
  | nil =>
    cases hr with
    | grant hr _ hle hnow ha =>
      exact (hr.covers hgrant hrelease fun s hs => hle s (List.mem_append_left _ hs)).lt_of_admits
        ha hne hnow
  | cons s later ih =>
    cases hr with
    | grant hr _ _ _ _ => exact ih hr
    | release hr _ _ => exact ih hr
    | other hr _ => exact ih hr

end Release

end Lease
