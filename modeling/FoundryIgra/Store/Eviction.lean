import FoundryIgra.Order.OldestFirst
import FoundryIgra.Iteration.Loop
import FoundryIgra.Store.Retention

/-!
# Evicting rows to fit the size budget

The loop of `enforce_size_budget` with every choice that SQLite and the file system make left
open: the sizes it reads are arbitrary, and so is the order that a round puts rows of the same age
in. The file need not shrink, so the loop is bounded by the rows it may evict: a round that goes
on has deleted the 1024 oldest of them, or all.

## Main definitions

* `OrdersByAge`: what `ORDER BY updated_at_ms ASC` promises.
* `evictionRound`, `enforceSizeBudgetWithin`: the rounds of the loop.
* `Evicted`: what may be missing after some rounds.
* `ReadSince`, `StopsAt`: what the readings were.

## Main results

* `enforceSizeBudget_within`: the loop of `Store.enforceSizeBudget` is the one with a fixed order.
* `enforceSizeBudget_evicts_oldest`: the loop ends, spares live rows and evicts the oldest first.
-/

namespace FoundryIgra.Store

open Relational Iteration Ordered

/-! ### Rounds -/

/-- `ORDER BY updated_at_ms ASC`; rows of one age come in any order, in every round anew. -/
def OrdersByAge (order : ℕ → List TxMapRow → List TxMapRow) : Prop :=
  ∀ k rows, (order k rows).Perm rows ∧
    (order k rows).Pairwise fun a b => a.updatedAtMs ≤ b.updatedAtMs

/-- The rows that the size budget may evict. -/
def evictable (rows : List TxMapRow) : List TxMapRow :=
  rows.filter fun r => r.stateIn evictableStates

/-- The state of the eviction loop: the number of the next reading of the file size, and the
rows. -/
@[ext]
structure EvictionState where
  reading : ℕ
  txMap : Table TxMapRow.l2TxHash

section Rounds

variable (order : ℕ → List TxMapRow → List TxMapRow) (maxBytes : UInt64) (fileSize : ℕ → UInt64)

/-- The hashes that a round selects. -/
def EvictionState.batch (s : EvictionState) : List String :=
  ((order s.reading (evictable s.txMap.rows)).take 1024).map TxMapRow.l2TxHash

/-- The rows that the `DELETE` of a round leaves. -/
def EvictionState.kept (s : EvictionState) : Table TxMapRow.l2TxHash :=
  deleteBatch s.txMap (s.batch order)

/-- One round of the eviction loop: it stops when the file fits or when nothing was deleted. -/
def evictionRound (s : EvictionState) : EvictionState ⊕ EvictionState :=
  if fileSize s.reading ≤ maxBytes then .inl s
  else
    let deleted := s.txMap.rows.length - (s.kept order).rows.length
    if deleted = 0 then .inl { s with txMap := s.kept order }
    else .inr ⟨s.reading + 1, s.kept order⟩

end Rounds

/-- `enforce_size_budget` with at most `rounds` rounds: the number of the last reading of the file
size, if there was any, and the database. -/
def enforceSizeBudgetWithin (store : IgraStore) (order : ℕ → List TxMapRow → List TxMapRow)
    (fileSize : ℕ → UInt64) (rounds : ℕ) (db : Db) : Option (Option ℕ × Db) :=
  if store.maxDbSizeMb = 0 then some (none, db)
  else if fileSize 0 ≤ store.maxBytes then some (some 0, db)
  else
    (loop (evictionRound order store.maxBytes fileSize) rounds ⟨1, db.txMap⟩).map fun s =>
      (some s.reading, { db with txMap := s.txMap })

/-! ### One round -/

section Round

variable {order : ℕ → List TxMapRow → List TxMapRow} {maxBytes : UInt64} {fileSize : ℕ → UInt64}
  {s s' : EvictionState}

theorem mem_kept {r : TxMapRow} :
    r ∈ (s.kept order).rows ↔ r ∈ s.txMap.rows ∧ r.l2TxHash ∉ s.batch order := by
  simp [EvictionState.kept, deleteBatch]

theorem nodup_evictable (t : Table TxMapRow.l2TxHash) :
    ((evictable t.rows).map TxMapRow.l2TxHash).Nodup :=
  t.nodup.sublist (List.filter_sublist.map _)

/-- The evictable rows that a round leaves are those after the first 1024 in its order. -/
theorem evictable_kept (horder : OrdersByAge order) (s : EvictionState) :
    (evictable (s.kept order).rows).Perm
      ((order s.reading (evictable s.txMap.rows)).drop 1024) := by
  have hperm := (horder s.reading (evictable s.txMap.rows)).1
  have hnodup : ((order s.reading (evictable s.txMap.rows)).map TxMapRow.l2TxHash).Nodup :=
    (hperm.map _).nodup_iff.mpr (nodup_evictable s.txMap)
  have hkept : evictable (s.kept order).rows =
      (evictable s.txMap.rows).filter fun r => r.l2TxHash ∉ s.batch order := by
    simp only [evictable, EvictionState.kept, deleteBatch, Table.rows_deleteWhere,
      List.filter_filter]
    refine List.filter_congr fun r _ => ?_
    simp [Bool.and_comm]
  rw [hkept, ← filter_notMem_take hnodup 1024]
  exact (hperm.filter _).symm

/-- A row that a round deletes is evictable. -/
theorem evictable_of_mem_batch (horder : OrdersByAge order) {r : TxMapRow}
    (hr : r ∈ s.txMap.rows) (hb : r.l2TxHash ∈ s.batch order) : r ∈ evictable s.txMap.rows := by
  obtain ⟨r', hr', heq⟩ := List.mem_map.mp hb
  have hev : r' ∈ evictable s.txMap.rows :=
    (horder _ _).1.mem_iff.mp (List.mem_of_mem_take hr')
  have hmem : r' ∈ s.txMap.rows := (List.mem_filter.mp hev).1
  obtain rfl : r' = r := List.inj_on_of_nodup_map s.txMap.nodup hmem hr heq
  exact hev

/-- A round deletes nothing exactly when no row is evictable. -/
theorem length_kept (horder : OrdersByAge order) (s : EvictionState) :
    s.txMap.rows.length - (s.kept order).rows.length = 0 ↔ evictable s.txMap.rows = [] := by
  constructor
  · intro h
    have hsub : (s.kept order).rows.Sublist s.txMap.rows := List.filter_sublist
    have hsame : (s.kept order).rows = s.txMap.rows := hsub.eq_of_length_le (by omega)
    have hlen := (evictable_kept horder s).length_eq
    rw [hsame, List.length_drop, (horder _ _).1.length_eq] at hlen
    exact List.length_eq_zero_iff.mp (by omega)
  · intro h
    have hall : (s.kept order).rows = s.txMap.rows := by
      refine List.filter_eq_self.mpr fun r hr => ?_
      have hnb : r.l2TxHash ∉ s.batch order := fun hb =>
        absurd (evictable_of_mem_batch horder hr hb) (by simp [h])
      simpa using hnb
    rw [hall, Nat.sub_self]

/-- **What a round does** when the file does not fit: it ends when no row is evictable and goes on
with what it left otherwise. -/
theorem evictionRound_cases (horder : OrdersByAge order) (s : EvictionState) :
    (fileSize s.reading ≤ maxBytes ∧ evictionRound order maxBytes fileSize s = .inl s) ∨
      (maxBytes < fileSize s.reading ∧ evictable s.txMap.rows = [] ∧
        evictionRound order maxBytes fileSize s = .inl { s with txMap := s.kept order }) ∨
      (maxBytes < fileSize s.reading ∧ 0 < (evictable s.txMap.rows).length ∧
        evictionRound order maxBytes fileSize s = .inr ⟨s.reading + 1, s.kept order⟩) := by
  by_cases hfits : fileSize s.reading ≤ maxBytes
  · exact Or.inl ⟨hfits, by rw [evictionRound, if_pos hfits]⟩
  · have hover : maxBytes < fileSize s.reading := UInt64.not_le.mp hfits
    by_cases hnone : evictable s.txMap.rows = []
    · have hdel := (length_kept horder s).mpr hnone
      exact Or.inr (Or.inl ⟨hover, hnone, by rw [evictionRound, if_neg hfits, if_pos hdel]⟩)
    · have hdel := mt (length_kept horder s).mp hnone
      exact Or.inr (Or.inr ⟨hover, List.length_pos_of_ne_nil hnone,
        by rw [evictionRound, if_neg hfits, if_neg hdel]⟩)

end Round

/-! ### Runs -/

/-- What may be missing after some rounds: evictable rows, the oldest first. -/
structure Evicted (before after : List TxMapRow) : Prop where
  subset : after ⊆ before
  spares : ∀ r ∈ before, r ∉ after → r.stateIn evictableStates = true
  oldestFirst : OldestFirst TxMapRow.updatedAtMs (evictable before) (evictable after)

theorem Evicted.refl (rows : List TxMapRow) : Evicted rows rows :=
  ⟨fun _ h => h, fun _ hr hnr => absurd hr hnr, OldestFirst.refl _ _⟩

theorem Evicted.trans {a b c : List TxMapRow} (h : Evicted a b) (h' : Evicted b c) :
    Evicted a c := by
  refine ⟨fun r hr => h.subset (h'.subset hr), fun r hr hnr => ?_,
    h.oldestFirst.trans h'.oldestFirst (List.filter_subset _ h'.subset)⟩
  by_cases hb : r ∈ b
  · exact h'.spares r hb hnr
  · exact h.spares r hr hb

theorem evicted_kept {order : ℕ → List TxMapRow → List TxMapRow} (horder : OrdersByAge order)
    (s : EvictionState) : Evicted s.txMap.rows (s.kept order).rows := by
  refine ⟨fun r hr => (mem_kept.mp hr).1, fun r hr hnr => ?_, ?_⟩
  · have hb : r.l2TxHash ∈ s.batch order := by
      by_contra hb
      exact hnr (mem_kept.mpr ⟨hr, hb⟩)
    exact (List.mem_filter.mp (evictable_of_mem_batch horder hr hb)).2
  · obtain ⟨hperm, hsorted⟩ := horder s.reading (evictable s.txMap.rows)
    exact (oldestFirst_drop hsorted 1024).congr (fun _ => hperm.mem_iff.symm)
      fun _ => (evictable_kept horder s).mem_iff

/-- What the readings from `s` to `u` have been: all but the last were over the budget, and there
were as many batches deleted. -/
structure ReadSince (maxBytes : UInt64) (fileSize : ℕ → UInt64) (s u : EvictionState) : Prop where
  le : s.reading ≤ u.reading
  exceeded : ∀ j, s.reading ≤ j → j < u.reading → maxBytes < fileSize j
  left : (evictable u.txMap.rows).length =
    (evictable s.txMap.rows).length - 1024 * (u.reading - s.reading)

section Runs

variable {order : ℕ → List TxMapRow → List TxMapRow} {maxBytes : UInt64} {fileSize : ℕ → UInt64}

theorem ReadSince.refl (s : EvictionState) : ReadSince maxBytes fileSize s s :=
  ⟨le_rfl, fun _ hj hlt => absurd hlt (Nat.not_lt.mpr hj), by simp⟩

/-- A round that goes on has read a size over the budget and deleted a batch. -/
theorem ReadSince.kept (horder : OrdersByAge order) {s u : EvictionState}
    (h : ReadSince maxBytes fileSize s u) (hbig : maxBytes < fileSize u.reading) :
    ReadSince maxBytes fileSize s ⟨u.reading + 1, u.kept order⟩ := by
  obtain ⟨hle, hover, hleft⟩ := h
  refine ⟨Nat.le_succ_of_le hle, fun j hj hlt => ?_, ?_⟩
  · rcases Nat.lt_succ_iff_lt_or_eq.mp hlt with hlt | rfl
    · exact hover j hj hlt
    · exact hbig
  · have hkept := (evictable_kept horder u).length_eq
    rw [List.length_drop, (horder _ _).1.length_eq, hleft] at hkept
    have hsub : u.reading + 1 - s.reading = u.reading - s.reading + 1 := Nat.succ_sub hle
    rw [hkept, hsub, Nat.mul_succ, Nat.sub_sub]

/-- What the loop leaves of the rows it started with. -/
theorem loop_evicted (horder : OrdersByAge order) {n : ℕ} {s s' : EvictionState}
    (h : loop (evictionRound order maxBytes fileSize) n s = some s') :
    Evicted s.txMap.rows s'.txMap.rows ∧
      (maxBytes < fileSize s'.reading → evictable s'.txMap.rows = []) := by
  refine loop_invariant (P := fun u : EvictionState => Evicted s.txMap.rows u.txMap.rows)
    (Q := fun u : EvictionState => Evicted s.txMap.rows u.txMap.rows ∧
      (maxBytes < fileSize u.reading → evictable u.txMap.rows = []))
    (fun u u' hu hbody => ?_) (fun u u' hu hbody => ?_) (Evicted.refl _) h
  · rcases evictionRound_cases horder u with ⟨-, hr⟩ | ⟨-, -, hr⟩ | ⟨-, -, hr⟩
    · cases hr.symm.trans hbody
    · cases hr.symm.trans hbody
    · obtain rfl := Sum.inr.inj (hr.symm.trans hbody)
      exact hu.trans (evicted_kept horder u)
  · rcases evictionRound_cases horder u with ⟨hfits, hr⟩ | ⟨-, hnone, hr⟩ | ⟨-, -, hr⟩
    · obtain rfl := Sum.inl.inj (hr.symm.trans hbody)
      exact ⟨hu, fun hover => absurd hfits (UInt64.not_le.mpr hover)⟩
    · obtain rfl := Sum.inl.inj (hr.symm.trans hbody)
      have hkept := evicted_kept horder u
      refine ⟨hu.trans hkept, fun _ => List.eq_nil_of_subset_nil ?_⟩
      exact hnone ▸ List.filter_subset _ hkept.subset
    · cases hr.symm.trans hbody

/-- The loop goes on while the readings are over the budget, and deletes a batch for each. -/
theorem loop_readSince (horder : OrdersByAge order) {n : ℕ} {s s' : EvictionState}
    (h : loop (evictionRound order maxBytes fileSize) n s = some s') :
    ReadSince maxBytes fileSize s s' := by
  refine loop_invariant (P := ReadSince maxBytes fileSize s) (fun u u' hu hbody => ?_)
    (fun u u' hu hbody => ?_) (ReadSince.refl s) h
  · rcases evictionRound_cases horder u with ⟨-, hr⟩ | ⟨-, -, hr⟩ | ⟨hbig, -, hr⟩
    · cases hr.symm.trans hbody
    · cases hr.symm.trans hbody
    · obtain rfl := Sum.inr.inj (hr.symm.trans hbody)
      exact hu.kept horder hbig
  · rcases evictionRound_cases horder u with ⟨-, hr⟩ | ⟨-, hnone, hr⟩ | ⟨-, -, hr⟩
    · obtain rfl := Sum.inl.inj (hr.symm.trans hbody)
      exact hu
    · -- the last round found no row to delete
      obtain rfl := Sum.inl.inj (hr.symm.trans hbody)
      have hkept := (evictable_kept horder u).length_eq
      rw [List.length_drop, (horder _ _).1.length_eq, hu.left] at hkept
      have hleft := hu.left
      rw [hnone, List.length_nil] at hleft
      refine ⟨hu.le, hu.exceeded, hkept.trans ?_⟩
      rw [← hleft]
    · cases hr.symm.trans hbody

/-- The loop returns within one round more than there are batches of evictable rows. -/
theorem exists_loop_evictionRound (horder : OrdersByAge order) (maxBytes : UInt64)
    (fileSize : ℕ → UInt64) (s : EvictionState) :
    ∃ s', loop (evictionRound order maxBytes fileSize)
      (((evictable s.txMap.rows).length + 1023) / 1024 + 1) s = some s' := by
  refine exists_loop_of_measure (fun u : EvictionState => (evictable u.txMap.rows).length) 1024
    (fun u u' hbody => ?_) (by omega)
  rcases evictionRound_cases horder u with ⟨-, hr⟩ | ⟨-, -, hr⟩ | ⟨-, hpos, hr⟩
  · cases hr.symm.trans hbody
  · cases hr.symm.trans hbody
  · obtain rfl := Sum.inr.inj (hr.symm.trans hbody)
    have hlen := (evictable_kept horder u).length_eq
    rw [List.length_drop, (horder _ _).1.length_eq] at hlen
    exact ⟨hpos, hlen.le⟩

end Runs

/-! ### The order of the store model -/

/-- Rows of one age in the order of the table. -/
def stableOrder (_ : ℕ) (rows : List TxMapRow) : List TxMapRow :=
  rows.mergeSort fun a b => a.updatedAtMs ≤ b.updatedAtMs

theorem ordersByAge_stableOrder : OrdersByAge stableOrder := by
  intro k rows
  refine ⟨List.mergeSort_perm .., ?_⟩
  have h : (stableOrder k rows).Pairwise fun a b => decide (a.updatedAtMs ≤ b.updatedAtMs) :=
    List.pairwise_mergeSort
      (fun a b c hab hbc => by simpa using Int64.le_trans (by simpa using hab) (by simpa using hbc))
      (fun a b => by simpa using Int64.le_total a.updatedAtMs b.updatedAtMs) rows
  exact h.imp fun hab => by simpa using hab

theorem exists_loop_eq_evict (maxBytes : UInt64) (fileSize : ℕ → UInt64) (k : ℕ)
    (t : Table TxMapRow.l2TxHash) :
    ∃ n j, loop (evictionRound stableOrder maxBytes fileSize) n ⟨k, t⟩ =
      some ⟨j, evict maxBytes fileSize k t⟩ := by
  fun_induction evict maxBytes fileSize k t with
  | case1 k t hfits => exact ⟨1, k, by simp [loop, evictionRound, hfits]⟩
  | case2 k t hfits hnone =>
    have hkept : (⟨k, t⟩ : EvictionState).kept stableOrder = t := by
      have hbatch : (⟨k, t⟩ : EvictionState).batch stableOrder = [] := hnone
      rw [EvictionState.kept, hbatch]
      exact Table.ext (by simp [deleteBatch])
    refine ⟨1, k, ?_⟩
    simp [loop, evictionRound, hfits, hkept]
  | case3 k t hfits hsome ih =>
    obtain ⟨n, j, hn⟩ := ih
    have hlt := length_deleteBatch_lt hsome
    have hround : evictionRound stableOrder maxBytes fileSize ⟨k, t⟩ =
        .inr ⟨k + 1, deleteBatch t (evictionBatch t.rows)⟩ := by
      have hdel : t.rows.length - (deleteBatch t (evictionBatch t.rows)).rows.length ≠ 0 := by
        omega
      rw [evictionRound, if_neg hfits]
      exact if_neg hdel
    exact ⟨n + 1, j, by rw [loop, hround]; exact hn⟩

/-- The loop of the store model is the one that keeps rows of one age in the order of the table. -/
theorem enforceSizeBudget_within (store : IgraStore) (fileSize : ℕ → UInt64) (db : Db) :
    ∃ rounds last, enforceSizeBudgetWithin store stableOrder fileSize rounds db =
      some (last, enforceSizeBudget store fileSize db) := by
  rw [enforceSizeBudget]
  by_cases hzero : store.maxDbSizeMb = 0
  · exact ⟨0, none, by simp [enforceSizeBudgetWithin, hzero]⟩
  · by_cases hfits : fileSize 0 ≤ store.maxBytes
    · exact ⟨0, some 0, by simp [enforceSizeBudgetWithin, hzero, hfits]⟩
    · obtain ⟨n, j, hn⟩ := exists_loop_eq_evict store.maxBytes fileSize 1 db.txMap
      refine ⟨n, some j, ?_⟩
      rw [enforceSizeBudgetWithin, if_neg hzero, if_neg hfits, if_neg hzero, if_neg hfits, hn]
      rfl

/-! ### The law -/

/-- Without a budget nothing is read and nothing happens. -/
theorem within_of_noBudget {store : IgraStore} (order : ℕ → List TxMapRow → List TxMapRow)
    (fileSize : ℕ → UInt64) (h : store.maxDbSizeMb = 0) (rounds : ℕ) (db : Db) :
    enforceSizeBudgetWithin store order fileSize rounds db = some (none, db) := by
  rw [enforceSizeBudgetWithin, if_pos h]

/-- When the first reading fits the budget, nothing happens. -/
theorem within_of_fits {store : IgraStore} (order : ℕ → List TxMapRow → List TxMapRow)
    {fileSize : ℕ → UInt64} (hzero : store.maxDbSizeMb ≠ 0) (h : fileSize 0 ≤ store.maxBytes)
    (rounds : ℕ) (db : Db) :
    enforceSizeBudgetWithin store order fileSize rounds db = some (some 0, db) := by
  rw [enforceSizeBudgetWithin, if_neg hzero, if_pos h]

/-- Reading `k` was the last: the readings before were over the budget, each after the first
deleted a batch of 1024 evictable rows or all, and if this one is over the budget too then no
evictable row is left. -/
structure StopsAt (store : IgraStore) (fileSize : ℕ → UInt64) (db db' : Db) (k : ℕ) : Prop where
  exceeded : ∀ j < k, store.maxBytes < fileSize j
  left : (evictable db'.txMap.rows).length =
    (evictable db.txMap.rows).length - 1024 * (k - 1)
  exhausted : store.maxBytes < fileSize k →
    ∀ r ∈ db'.txMap.rows, r.stateIn evictableStates = false

/-- **Eviction ends, spares live rows and takes the oldest first.** Whatever the file sizes read,
a number of rounds that depends on the evictable rows alone is enough. With a budget there is a
last reading, and a database that is over its budget there is left only when no row is
evictable. -/
theorem enforceSizeBudget_evicts_oldest (store : IgraStore)
    {order : ℕ → List TxMapRow → List TxMapRow} (horder : OrdersByAge order)
    (fileSize : ℕ → UInt64) (db : Db) :
    ∃ last db',
      (∀ rounds, ((evictable db.txMap.rows).length + 1023) / 1024 + 1 ≤ rounds →
        enforceSizeBudgetWithin store order fileSize rounds db = some (last, db')) ∧
      db'.txMap.rows ⊆ db.txMap.rows ∧
      (∀ r ∈ db.txMap.rows, r ∉ db'.txMap.rows → r.stateIn evictableStates = true) ∧
      (∀ r ∈ db.txMap.rows, r ∉ db'.txMap.rows → ∀ r' ∈ db'.txMap.rows,
        r'.stateIn evictableStates = true → r.updatedAtMs ≤ r'.updatedAtMs) ∧
      (store.maxDbSizeMb = 0 ∨ fileSize 0 ≤ store.maxBytes ∨ fileSize 1 ≤ store.maxBytes →
        db' = db) ∧
      (store.maxDbSizeMb ≠ 0 → ∃ k, last = some k ∧ StopsAt store fileSize db db' k) ∧
      db'.senderNonceState = db.senderNonceState ∧ db'.senderLocks = db.senderLocks ∧
      db'.schemaMeta = db.schemaMeta := by
  by_cases hzero : store.maxDbSizeMb = 0
  · exact ⟨none, db, fun rounds _ => within_of_noBudget order fileSize hzero rounds db,
      fun _ h => h, fun _ hr hnr => absurd hr hnr, fun _ hr hnr => absurd hr hnr, fun _ => rfl,
      fun hne => absurd hzero hne, rfl, rfl, rfl⟩
  by_cases hfits : fileSize 0 ≤ store.maxBytes
  · have hstops : StopsAt store fileSize db db 0 :=
      ⟨fun _ hj => absurd hj (Nat.not_lt_zero _), rfl,
        fun hover => absurd hfits (UInt64.not_le.mpr hover)⟩
    exact ⟨some 0, db, fun rounds _ => within_of_fits order hzero hfits rounds db,
      fun _ h => h, fun _ hr hnr => absurd hr hnr, fun _ hr hnr => absurd hr hnr, fun _ => rfl,
      fun _ => ⟨0, rfl, hstops⟩, rfl, rfl, rfl⟩
  · obtain ⟨s, hs⟩ :=
      exists_loop_evictionRound horder store.maxBytes fileSize ⟨1, db.txMap⟩
    obtain ⟨hev, hexhausted⟩ := loop_evicted horder hs
    obtain ⟨-, hover, hleft⟩ := loop_readSince horder hs
    refine ⟨some s.reading, { db with txMap := s.txMap }, fun rounds hrounds => ?_, hev.subset,
      hev.spares, ?_, fun hquiet => ?_, fun _ => ⟨s.reading, rfl, ?_, hleft, ?_⟩, rfl, rfl, rfl⟩
    · rw [enforceSizeBudgetWithin, if_neg hzero, if_neg hfits, loop_eq_some_of_le hs hrounds]
      rfl
    · intro r hr hnr r' hr' hst
      have hrev := hev.spares r hr hnr
      exact hev.oldestFirst r (List.mem_filter.mpr ⟨hr, hrev⟩)
        (fun h => hnr (List.mem_filter.mp h).1) r' (List.mem_filter.mpr ⟨hr', hst⟩)
    · -- the reading of the first round fits, and the round stops
      have hfirst : fileSize 1 ≤ store.maxBytes :=
        (hquiet.resolve_left hzero).resolve_left hfits
      rw [loop, evictionRound, if_pos hfirst] at hs
      rw [← Option.some_inj.mp hs]
    · intro j hj
      cases j with
      | zero => exact UInt64.not_le.mp hfits
      | succ j => exact hover (j + 1) (Nat.succ_le_succ (Nat.zero_le j)) hj
    · intro hbig r hr
      simpa using List.filter_eq_nil_iff.mp (hexhausted hbig) r hr

/-- A row of a transaction that was signed and not broadcast yet. -/
def signedRow : TxMapRow :=
  { broadcastRow with l2TxHash := "0xbeef", state := TxLifecycleState.asStr .kaspaSigned }

/-- A file with both rows. -/
def crowdedDb : Db :=
  { broadcastDb with txMap := broadcastDb.txMap.upsert signedRow }

/-- While every reading is over the budget of 256 MiB, two rounds evict the broadcast row and leave
the other. -/
theorem enforceSizeBudget_evicts_oldest_crowded : ∃ last db',
    enforceSizeBudgetWithin (retentionStore 1) stableOrder (fun _ => 268435457) 2 crowdedDb =
      some (some last, db') ∧ broadcastRow ∉ db'.txMap.rows ∧ signedRow ∈ db'.txMap.rows := by
  obtain ⟨last, db', hends, -, hspares, -, -, hstops, -⟩ :=
    enforceSizeBudget_evicts_oldest (retentionStore 1) ordersByAge_stableOrder
      (fun _ => 268435457) crowdedDb
  obtain ⟨k, rfl, hk⟩ := hstops (by decide)
  refine ⟨k, db', hends 2 (by decide), fun hmem => ?_, ?_⟩
  · exact absurd (hk.exhausted (by decide) broadcastRow hmem) (by decide)
  · by_contra hmem
    exact absurd (hspares signedRow (by decide) hmem) (by decide)

end FoundryIgra.Store
