import Mathlib.Tactic.Common

/-!
# Loops without a bound

A loop whose body ends with a result or goes on with a new state, run for a number of rounds. When
the state of round `k` is known in closed form, the loop returns the result of the first round
that ends. Otherwise an invariant says what it returns, and a measure that every round lowers how
many rounds it takes.

## Main definitions

* `Iteration.loop`: a number of rounds of a body.
* `Iteration.EndsAt`: the first round that ends.

## Main results

* `Iteration.loop_eq_some_iff`: what a loop returns.
* `Iteration.loop_invariant`: what an invariant of the rounds says of the result.
* `Iteration.exists_loop_of_measure`: how many rounds a loop takes.
-/

namespace Iteration

variable {σ β : Type*}

/-- At most `n` rounds from the state `s`; `none` when none of them ends. -/
def loop (body : σ → β ⊕ σ) : ℕ → σ → Option β
  | 0, _ => none
  | n + 1, s =>
    match body s with
    | .inl b => some b
    | .inr s' => loop body n s'

/-- Round `k` is the first to end, with the result `b`. -/
def EndsAt (body : σ → β ⊕ σ) (state : ℕ → σ) (k : ℕ) (b : β) : Prop :=
  body (state k) = .inl b ∧ ∀ j < k, body (state j) = .inr (state (j + 1))

/-- The states follow the body while it goes on. -/
def Follows (body : σ → β ⊕ σ) (state : ℕ → σ) : Prop :=
  ∀ k s, body (state k) = .inr s → s = state (k + 1)

theorem Follows.shift {body : σ → β ⊕ σ} {state : ℕ → σ} (h : Follows body state) :
    Follows body fun k => state (k + 1) := fun k s hs => h (k + 1) s hs

/-- The rounds after the first. -/
theorem endsAt_succ_iff {body : σ → β ⊕ σ} {state : ℕ → σ} {k : ℕ} {b : β} :
    EndsAt body state (k + 1) b ↔
      body (state 0) = .inr (state 1) ∧ EndsAt body (fun j => state (j + 1)) k b := by
  constructor
  · rintro ⟨hend, hgo⟩
    exact ⟨hgo 0 (Nat.succ_pos k), hend, fun j hj => hgo (j + 1) (Nat.succ_lt_succ hj)⟩
  · rintro ⟨hfirst, hend, hgo⟩
    refine ⟨hend, fun j hj => ?_⟩
    cases j with
    | zero => exact hfirst
    | succ j => exact hgo j (Nat.lt_of_succ_lt_succ hj)

/-- **What a loop returns** is the result of the first round that ends. -/
theorem loop_eq_some_iff {body : σ → β ⊕ σ} {state : ℕ → σ} (h : Follows body state) {n : ℕ}
    {b : β} : loop body n (state 0) = some b ↔ ∃ k < n, EndsAt body state k b := by
  induction n generalizing state with
  | zero => simp [loop]
  | succ n ih =>
    rw [loop]
    cases hbody : body (state 0) with
    | inl b' =>
      constructor
      · rintro ⟨⟩
        exact ⟨0, Nat.succ_pos n, hbody, fun j hj => absurd hj (Nat.not_lt_zero j)⟩
      · rintro ⟨k, -, hend⟩
        cases k with
        | zero => rw [Sum.inl.inj (hbody.symm.trans hend.1)]
        | succ k =>
          rw [(endsAt_succ_iff.mp hend).1] at hbody
          cases hbody
    | inr s =>
      obtain rfl := h 0 s hbody
      rw [ih h.shift]
      constructor
      · rintro ⟨k, hk, hend⟩
        exact ⟨k + 1, Nat.succ_lt_succ hk, endsAt_succ_iff.mpr ⟨hbody, hend⟩⟩
      · rintro ⟨k, hk, hend⟩
        cases k with
        | zero =>
          rw [hend.1] at hbody
          cases hbody
        | succ k => exact ⟨k, Nat.lt_of_succ_lt_succ hk, (endsAt_succ_iff.mp hend).2⟩

/-- A loop with more rounds than a round that ends returns. -/
theorem exists_loop_eq_some {body : σ → β ⊕ σ} {state : ℕ → σ} (h : Follows body state) {k n : ℕ}
    {b : β} (hk : k < n) (hend : body (state k) = .inl b) :
    ∃ b', loop body n (state 0) = some b' := by
  induction n generalizing state k with
  | zero => exact absurd hk (Nat.not_lt_zero k)
  | succ n ih =>
    rw [loop]
    cases hbody : body (state 0) with
    | inl b' => exact ⟨b', rfl⟩
    | inr s =>
      obtain rfl := h 0 s hbody
      cases k with
      | zero =>
        rw [hend] at hbody
        cases hbody
      | succ k => exact ih h.shift (Nat.lt_of_succ_lt_succ hk) hend

/-! ### Invariants and measures -/

/-- More rounds return the same result. -/
theorem loop_eq_some_of_le {body : σ → β ⊕ σ} {s : σ} {b : β} {n m : ℕ}
    (h : loop body n s = some b) (hnm : n ≤ m) : loop body m s = some b := by
  induction n generalizing s m with
  | zero => cases h
  | succ n ih =>
    obtain ⟨m, rfl⟩ := Nat.exists_eq_succ_of_ne_zero (Nat.ne_zero_of_lt hnm)
    rw [loop] at h ⊢
    cases hbody : body s with
    | inl b' =>
      rw [hbody] at h
      exact h
    | inr s' =>
      rw [hbody] at h
      exact ih h (Nat.le_of_succ_le_succ hnm)

/-- **Invariants.** What every round that goes on preserves, and what a round that ends makes of
it. -/
theorem loop_invariant {body : σ → β ⊕ σ} {P : σ → Prop} {Q : β → Prop}
    (hstep : ∀ s s', P s → body s = .inr s' → P s') (hexit : ∀ s b, P s → body s = .inl b → Q b)
    {n : ℕ} {s : σ} {b : β} (hs : P s) (h : loop body n s = some b) : Q b := by
  induction n generalizing s with
  | zero => cases h
  | succ n ih =>
    rw [loop] at h
    cases hbody : body s with
    | inl b' =>
      rw [hbody] at h
      exact Option.some_inj.mp h ▸ hexit s b' hs hbody
    | inr s' =>
      rw [hbody] at h
      exact ih (hstep s s' hs hbody) h

/-- **Measures.** A loop whose rounds go on only from a positive measure, and lower it by `c` or
to zero, returns within one round more than the measure holds steps of `c`. -/
theorem exists_loop_of_measure {body : σ → β ⊕ σ} (μ : σ → ℕ) (c : ℕ)
    (hdec : ∀ s s', body s = .inr s' → 0 < μ s ∧ μ s' ≤ μ s - c) {n : ℕ} {s : σ}
    (hn : μ s ≤ n * c) : ∃ b, loop body (n + 1) s = some b := by
  induction n generalizing s with
  | zero =>
    rw [loop]
    cases hbody : body s with
    | inl b => exact ⟨b, rfl⟩
    | inr s' =>
      have hpos := (hdec s s' hbody).1
      omega
  | succ n ih =>
    rw [loop]
    cases hbody : body s with
    | inl b => exact ⟨b, rfl⟩
    | inr s' =>
      have hle := (hdec s s' hbody).2
      have hmul : (n + 1) * c = n * c + c := Nat.succ_mul n c
      exact ih (by omega)

end Iteration
