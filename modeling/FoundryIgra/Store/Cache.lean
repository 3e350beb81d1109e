import FoundryIgra.Store.TxMap
import Mathlib.Data.List.Basic

/-!
# Pruning the lifecycle cache

Opening a store deletes rows of `tx_map` past their retention and then evicts rows until the
database file fits its budget (`store.rs`, `prune_cache`, `enforce_size_budget`). The size of the
file is read from the file system before every round; the readings are a parameter, indexed by
the number of the reading. The loop ends because every round that goes on has deleted a row.

## Main definitions

* `retentionCutoff`, `pruneRetention`: the two retention deletes.
* `evictionBatch`, `evict`, `enforceSizeBudget`: the size budget.
* `pruneCache`.

## Main results

* `pruneCache_frame`: pruning touches only `tx_map`.
* `pruneCache_rows_subset`: pruning only deletes.
-/

namespace FoundryIgra.Store

open Relational Rust TxLifecycleState

/-- The states that the retention of failed transactions covers. -/
def failedStates : List TxLifecycleState :=
  [failedRecoverable, blockedNonceGap, blockedLockTimeout]

/-- The states that the size budget may evict. -/
def evictableStates : List TxLifecycleState :=
  [failedRecoverable, blockedNonceGap, blockedLockTimeout, staleReplacementCandidate,
    kaspaBroadcasted]

/-- `state IN (…)`. -/
def TxMapRow.stateIn (r : TxMapRow) (states : List TxLifecycleState) : Bool :=
  r.state ∈ states.map TxLifecycleState.asStr

/-- The cutoff of a retention setting at the clock reading `now`. -/
def retentionCutoff (now : Int64) (retentionHours : UInt64) : Int64 :=
  saturatingSubI64 now (saturatingMulI64 retentionHours.toInt64 3600000)

/-- Deletes the rows in `states` last updated before `cutoff`. -/
def pruneRetention (db : Db) (states : List TxLifecycleState) (cutoff : Int64) : Db :=
  { db with txMap := db.txMap.deleteWhere fun r => r.stateIn states ∧ r.updatedAtMs < cutoff }

/-- The hashes of the at most 1024 oldest evictable rows. -/
def evictionBatch (rows : List TxMapRow) : List String :=
  (((rows.filter fun r => r.stateIn evictableStates).mergeSort
    fun a b => a.updatedAtMs ≤ b.updatedAtMs).take 1024).map TxMapRow.l2TxHash

/-- The rows left when the rows with the hashes `batch` are deleted. -/
def deleteBatch (t : Table TxMapRow.l2TxHash) (batch : List String) : Table TxMapRow.l2TxHash :=
  t.deleteWhere fun r => r.l2TxHash ∈ batch

theorem mem_of_mem_evictionBatch {rows : List TxMapRow} {h : String}
    (hh : h ∈ evictionBatch rows) :
    ∃ r ∈ rows, r.l2TxHash = h ∧ r.stateIn evictableStates = true := by
  obtain ⟨r, hr, rfl⟩ := List.mem_map.mp hh
  have hr' := List.mem_mergeSort.mp (List.mem_of_mem_take hr)
  obtain ⟨hmem, hst⟩ := List.mem_filter.mp hr'
  exact ⟨r, hmem, rfl, hst⟩

/-- A round that deletes something leaves fewer rows. -/
theorem length_deleteBatch_lt {t : Table TxMapRow.l2TxHash} (h : evictionBatch t.rows ≠ []) :
    (deleteBatch t (evictionBatch t.rows)).rows.length < t.rows.length := by
  obtain ⟨k, hk⟩ := List.exists_mem_of_ne_nil _ h
  obtain ⟨r, hr, rfl, -⟩ := mem_of_mem_evictionBatch hk
  rw [deleteBatch]
  rw [Table.rows_deleteWhere]
  refine List.length_filter_lt_length_iff_exists.mpr ⟨r, hr, ?_⟩
  simpa using hk

/-- The eviction loop, from the `k`-th reading of the file size on. -/
def evict (maxBytes : UInt64) (fileSize : ℕ → UInt64) (k : ℕ) (t : Table TxMapRow.l2TxHash) :
    Table TxMapRow.l2TxHash :=
  if fileSize k ≤ maxBytes then t
  else if _h : evictionBatch t.rows = [] then t
  else evict maxBytes fileSize (k + 1) (deleteBatch t (evictionBatch t.rows))
termination_by t.rows.length
decreasing_by exact length_deleteBatch_lt _h

/-- The budget of a store in bytes. -/
def IgraStore.maxBytes (store : IgraStore) : UInt64 :=
  saturatingMul store.maxDbSizeMb (1024 * 1024)

/-- `enforce_size_budget`; the size is read once before the loop and then in every round. -/
def enforceSizeBudget (store : IgraStore) (fileSize : ℕ → UInt64) (db : Db) : Db :=
  if store.maxDbSizeMb = 0 then db
  else if fileSize 0 ≤ store.maxBytes then db
  else { db with txMap := evict store.maxBytes fileSize 1 db.txMap }

/-- `prune_cache` at the clock reading `nowMs`. -/
def pruneCache (store : IgraStore) (nowMs : UInt64) (fileSize : ℕ → UInt64) (db : Db) : Db :=
  let now := nowMs.toInt64
  let completedCutoff := retentionCutoff now store.completedRetentionHours
  let failedCutoff := retentionCutoff now store.failedRetentionHours
  enforceSizeBudget store fileSize
    (pruneRetention (pruneRetention db [kaspaBroadcasted] completedCutoff) failedStates
      failedCutoff)

/-! ### What pruning leaves alone -/

theorem evict_rows_subset (maxBytes : UInt64) (fileSize : ℕ → UInt64) (k : ℕ)
    (t : Table TxMapRow.l2TxHash) : (evict maxBytes fileSize k t).rows ⊆ t.rows := by
  fun_induction evict maxBytes fileSize k t with
  | case1 => exact fun _ h => h
  | case2 => exact fun _ h => h
  | case3 k t _ _ ih =>
    intro r hr
    have hr' := ih hr
    unfold deleteBatch at hr'
    exact (List.mem_filter.mp hr').1

theorem enforceSizeBudget_frame (store : IgraStore) (fileSize : ℕ → UInt64) (db : Db) :
    (enforceSizeBudget store fileSize db).senderNonceState = db.senderNonceState ∧
      (enforceSizeBudget store fileSize db).senderLocks = db.senderLocks ∧
      (enforceSizeBudget store fileSize db).schemaMeta = db.schemaMeta := by
  rw [enforceSizeBudget]
  split_ifs <;> exact ⟨rfl, rfl, rfl⟩

/-- Pruning touches only `tx_map`. -/
theorem pruneCache_frame (store : IgraStore) (nowMs : UInt64) (fileSize : ℕ → UInt64) (db : Db) :
    (pruneCache store nowMs fileSize db).senderNonceState = db.senderNonceState ∧
      (pruneCache store nowMs fileSize db).senderLocks = db.senderLocks ∧
      (pruneCache store nowMs fileSize db).schemaMeta = db.schemaMeta :=
  enforceSizeBudget_frame ..

theorem enforceSizeBudget_rows_subset (store : IgraStore) (fileSize : ℕ → UInt64) (db : Db) :
    (enforceSizeBudget store fileSize db).txMap.rows ⊆ db.txMap.rows := by
  rw [enforceSizeBudget]
  split_ifs
  · exact fun _ h => h
  · exact fun _ h => h
  · exact evict_rows_subset ..

/-- Pruning only deletes rows of `tx_map`. -/
theorem pruneCache_rows_subset (store : IgraStore) (nowMs : UInt64) (fileSize : ℕ → UInt64)
    (db : Db) : (pruneCache store nowMs fileSize db).txMap.rows ⊆ db.txMap.rows := by
  intro r hr
  have h₂ := enforceSizeBudget_rows_subset _ _ _ hr
  have h₁ := (List.mem_filter.mp h₂).1
  exact (List.mem_filter.mp h₁).1

end FoundryIgra.Store
