import Mathlib.Data.List.Nodup
import Mathlib.Tactic.Common

/-!
# Tables with a primary key

A table is a list of rows no two of which share a key, so a row that would violate the primary
key cannot be stored. Keys are compared with decidable equality, as a `TEXT PRIMARY KEY` column
is compared byte by byte.

## Main definitions

* `Relational.Table key`: the rows, with the proof that their keys are pairwise distinct.
* `Table.find?`: the row with a given key (`SELECT … WHERE key = ?`).
* `Table.upsert`: `INSERT … ON CONFLICT(key) DO UPDATE SET …` of a whole row.
* `Table.deleteWhere`: `DELETE … WHERE p`.
* `Relational.settle`: the end of a transaction.

## Main results

* `Table.find?_eq_some`: `find?` returns exactly the stored row with that key.
* `Table.find?_upsert`, `Table.find?_deleteWhere`: how the operations read back.
-/

namespace Relational

variable {ρ κ : Type}

/-- Rows with pairwise distinct keys. -/
@[ext]
structure Table (key : ρ → κ) where
  /-- The stored rows; their order carries no meaning. -/
  rows : List ρ
  /-- The primary-key constraint. -/
  nodup : (rows.map key).Nodup

namespace Table

variable {key : ρ → κ}

/-- The table without rows. -/
def empty : Table key := ⟨[], List.nodup_nil⟩

/-- Delete the rows that satisfy `p`. -/
def deleteWhere (t : Table key) (p : ρ → Bool) : Table key :=
  ⟨t.rows.filter fun r => !p r, (t.nodup.sublist (List.filter_sublist.map key))⟩

@[simp] theorem rows_empty : (empty : Table key).rows = [] := rfl

@[simp] theorem rows_deleteWhere (t : Table key) (p : ρ → Bool) :
    (t.deleteWhere p).rows = t.rows.filter fun r => !p r := rfl

@[simp] theorem deleteWhere_false (t : Table key) : t.deleteWhere (fun _ => false) = t := by
  simp [Table.ext_iff]

/-- Two deletes are one. -/
theorem deleteWhere_deleteWhere (t : Table key) (p q : ρ → Bool) :
    (t.deleteWhere p).deleteWhere q = t.deleteWhere fun r => p r || q r := by
  rw [Table.ext_iff, rows_deleteWhere, rows_deleteWhere, rows_deleteWhere, List.filter_filter]
  refine List.filter_congr fun r _ => ?_
  rw [Bool.not_or, Bool.and_comm]

variable [DecidableEq κ]

/-- The row with key `k`, if there is one. -/
def find? (t : Table key) (k : κ) : Option ρ :=
  t.rows.find? fun r => key r = k

/-- The rows with the row of key `key r` replaced by `r`, or `r` appended if there is none. -/
def upsertRows (key : ρ → κ) (r : ρ) : List ρ → List ρ
  | [] => [r]
  | x :: xs => if key x = key r then r :: xs else x :: upsertRows key r xs

theorem mem_map_upsertRows (r : ρ) (l : List ρ) (k : κ) :
    k ∈ (upsertRows key r l).map key ↔ k = key r ∨ k ∈ l.map key := by
  induction l with
  | nil => simp [upsertRows]
  | cons x xs ih =>
    rw [upsertRows]
    split_ifs with h
    · simp [h]
    · simp only [List.map_cons, List.mem_cons, ih]
      tauto

theorem nodup_upsertRows (r : ρ) {l : List ρ} (hl : (l.map key).Nodup) :
    ((upsertRows key r l).map key).Nodup := by
  induction l with
  | nil => simp [upsertRows]
  | cons x xs ih =>
    obtain ⟨hx, hxs⟩ := List.nodup_cons.mp hl
    rw [upsertRows]
    split_ifs with h
    · exact List.nodup_cons.mpr ⟨h ▸ hx, hxs⟩
    · refine List.nodup_cons.mpr ⟨fun hmem => ?_, ih hxs⟩
      rcases (mem_map_upsertRows r xs _).mp hmem with h' | h'
      · exact h h'
      · exact hx h'

/-- Insert a row, or overwrite the row with the same key. -/
def upsert (t : Table key) (r : ρ) : Table key :=
  ⟨upsertRows key r t.rows, nodup_upsertRows r t.nodup⟩

@[simp] theorem find?_empty (k : κ) : (empty : Table key).find? k = none := rfl

/-- `find?` on a list of rows with distinct keys finds exactly the row with that key. -/
theorem find?_rows_eq_some {l : List ρ} (hl : (l.map key).Nodup) {k : κ} {r : ρ} :
    l.find? (fun r => key r = k) = some r ↔ r ∈ l ∧ key r = k := by
  constructor
  · intro h
    exact ⟨List.mem_of_find?_eq_some h, by simpa using List.find?_some h⟩
  · rintro ⟨hr, rfl⟩
    induction l with
    | nil => cases hr
    | cons x xs ih =>
      obtain ⟨hx, hxs⟩ := List.nodup_cons.mp hl
      rcases List.mem_cons.mp hr with rfl | hr
      · simp
      · have hne : key x ≠ key r := fun h => hx (h ▸ List.mem_map_of_mem hr)
        rw [List.find?_cons_of_neg (by simpa using hne)]
        exact ih hxs hr

theorem find?_eq_some {t : Table key} {k : κ} {r : ρ} :
    t.find? k = some r ↔ r ∈ t.rows ∧ key r = k :=
  find?_rows_eq_some t.nodup

theorem find?_eq_none {t : Table key} {k : κ} : t.find? k = none ↔ ∀ r ∈ t.rows, key r ≠ k := by
  simp [find?]

theorem key_of_find? {t : Table key} {k : κ} {r : ρ} (h : t.find? k = some r) : key r = k :=
  (find?_eq_some.mp h).2

theorem find?_upsertRows (r : ρ) (l : List ρ) (k : κ) :
    (upsertRows key r l).find? (fun x => key x = k) =
      if key r = k then some r else l.find? fun x => key x = k := by
  induction l with
  | nil => by_cases h : key r = k <;> simp [upsertRows, h]
  | cons x xs ih =>
    rw [upsertRows]
    by_cases hx : key x = key r <;> by_cases hk : key r = k <;>
      by_cases hxk : key x = k <;> simp_all

/-- An upsert reads back as the new row under its key and changes no other key. -/
@[simp] theorem find?_upsert (t : Table key) (r : ρ) (k : κ) :
    (t.upsert r).find? k = if key r = k then some r else t.find? k :=
  find?_upsertRows r t.rows k

/-- A delete removes the row with key `k` exactly when the row satisfies `p`. -/
@[simp] theorem find?_deleteWhere (t : Table key) (p : ρ → Bool) (k : κ) :
    (t.deleteWhere p).find? k = (t.find? k).filter fun r => !p r := by
  cases h : t.find? k with
  | none =>
    rw [Option.filter_none, find?_eq_none]
    intro r hr
    exact find?_eq_none.mp h r (List.mem_filter.mp hr).1
  | some r =>
    obtain ⟨hr, hk⟩ := find?_eq_some.mp h
    cases hp : p r with
    | false =>
      rw [Option.filter_some_pos (by simp [hp])]
      exact find?_eq_some.mpr ⟨List.mem_filter.mpr ⟨hr, by simp [hp]⟩, hk⟩
    | true =>
      rw [Option.filter_some_neg (by simp [hp]), find?_eq_none]
      intro x hx hxk
      obtain ⟨hxt, hxp⟩ := List.mem_filter.mp hx
      have hxr : x = r := Option.some_inj.mp
        ((find?_eq_some.mpr ⟨hxt, hxk⟩).symm.trans (find?_eq_some.mpr ⟨hr, hk⟩))
      simp [hxr, hp] at hxp

theorem mem_upsert {t : Table key} {r x : ρ} :
    x ∈ (t.upsert r).rows ↔ x = r ∨ x ∈ t.rows ∧ key x ≠ key r := by
  have hx := find?_eq_some (t := t.upsert r) (k := key x) (r := x)
  rw [find?_upsert] at hx
  simp only [and_true] at hx
  rw [← hx]
  by_cases h : key r = key x
  · rw [if_pos h, Option.some_inj]
    exact ⟨fun hrx => Or.inl hrx.symm, fun h' => h'.elim Eq.symm fun h'' => absurd h.symm h''.2⟩
  · rw [if_neg h, find?_eq_some]
    constructor
    · rintro ⟨hmem, -⟩
      exact Or.inr ⟨hmem, Ne.symm h⟩
    · rintro (rfl | ⟨hmem, -⟩)
      · exact absurd rfl h
      · exact ⟨hmem, rfl⟩

end Table

/-! ### Transactions -/

section Transactions

variable {ε α σ : Type}

/-- The end of a transaction on the state `s`: a result commits the state it comes with, an error
drops the transaction and rolls it back. -/
def settle (s : σ) : Except ε (α × σ) → Except ε α × σ
  | .ok (a, s') => (.ok a, s')
  | .error e => (.error e, s)

@[simp] theorem settle_ok (s s' : σ) (a : α) :
    settle s (.ok (a, s') : Except ε (α × σ)) = (.ok a, s') := rfl

@[simp] theorem settle_error (s : σ) (e : ε) :
    settle s (.error e : Except ε (α × σ)) = (.error e, s) := rfl

end Transactions

end Relational
