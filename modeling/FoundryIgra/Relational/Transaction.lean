import FoundryIgra.Relational.Table

/-!
# Composing transactions

A transaction reads and writes the state, and may fail. Committed, it leaves the state it computes,
or rolls back to the state it began in. Two transactions in one are their sequence while both
succeed; when the second fails, what the first has written is rolled back as well.

## Main definitions

* `Relational.Transaction`: the transactions on a state.
* `Transaction.commit`: a transaction run by itself.

## Main results

* `Transaction.commit_bind_ok_iff`: a composition commits what its parts commit in sequence.
* `Transaction.commit_bind_error_iff`: how a composition fails.
-/

namespace Relational

/-- A transaction on a state of type `σ` that fails with an `ε`. -/
abbrev Transaction (ε σ α : Type) : Type := StateT σ (Except ε) α

namespace Transaction

variable {ε σ α β : Type}

/-- A transaction run by itself: committed, or rolled back. -/
def commit (t : Transaction ε σ α) (s : σ) : Except ε α × σ := settle s (t.run s)

variable {t : Transaction ε σ α} {s s' : σ}

theorem commit_eq_ok_iff {a : α} : t.commit s = (.ok a, s') ↔ t.run s = .ok (a, s') := by
  rw [commit]
  cases t.run s with
  | error e => simp
  | ok p =>
    rw [settle_ok, Prod.mk.injEq, Except.ok.injEq, Except.ok.injEq, Prod.ext_iff]

theorem commit_eq_error_iff {e : ε} : t.commit s = (.error e, s') ↔
    t.run s = .error e ∧ s' = s := by
  rw [commit]
  cases t.run s with
  | error e' => simp [eq_comm]
  | ok p =>
    obtain ⟨a, s₁⟩ := p
    simp

theorem fst_commit_eq_error_iff {e : ε} : (t.commit s).1 = .error e ↔ t.run s = .error e := by
  rw [commit]
  cases t.run s with
  | error e' => simp
  | ok p =>
    obtain ⟨a, s₁⟩ := p
    simp

theorem commit_map (g : α → β) :
    (g <$> t).commit s = ((t.commit s).1.map g, (t.commit s).2) := by
  rw [commit, commit, StateT.run_map]
  cases t.run s with
  | error e => rfl
  | ok p => rfl

variable {f : α → Transaction ε σ β}

theorem run_bind_ok {a : α} (h : t.run s = .ok (a, s')) : (t >>= f).run s = (f a).run s' := by
  rw [StateT.run_bind, h]
  rfl

theorem run_bind_error {e : ε} (h : t.run s = .error e) : (t >>= f).run s = .error e := by
  rw [StateT.run_bind, h]
  rfl

/-- **Composition.** Two transactions in one commit what they commit one after the other. -/
theorem commit_bind_ok_iff {b : β} : (t >>= f).commit s = (.ok b, s') ↔
    ∃ a s₁, t.commit s = (.ok a, s₁) ∧ (f a).commit s₁ = (.ok b, s') := by
  rw [commit_eq_ok_iff]
  cases ht : t.run s with
  | error e => simp [run_bind_error ht, commit_eq_ok_iff, ht]
  | ok p =>
    obtain ⟨a, s₁⟩ := p
    rw [run_bind_ok ht]
    simp [commit_eq_ok_iff, ht]

/-- A composition fails as its first failing part does, and without a trace of the other. -/
theorem commit_bind_error_iff {e : ε} : (t >>= f).commit s = (.error e, s') ↔
    s' = s ∧ ((t.commit s).1 = .error e ∨
      ∃ a s₁, t.commit s = (.ok a, s₁) ∧ ((f a).commit s₁).1 = .error e) := by
  rw [commit_eq_error_iff, and_comm, and_congr_right_iff]
  rintro -
  rw [fst_commit_eq_error_iff]
  cases ht : t.run s with
  | error e' => simp [run_bind_error ht, commit_eq_ok_iff, ht]
  | ok p =>
    obtain ⟨a, s₁⟩ := p
    rw [run_bind_ok ht]
    simp [commit_eq_ok_iff, ht, fst_commit_eq_error_iff]

end Transaction

end Relational
