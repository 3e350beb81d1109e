import FoundryIgra.Store.Cache

/-!
# Retention

What the two retention deletes of `prune_cache` (`store.rs`) remove. The settings are `u64` hours
that are cast to `i64`, so a setting from `2 ^ 63` on becomes negative and its cutoff lies in the
future; below that, the saturating arithmetic agrees with exact integers.

## Main definitions

* `retentionDeletes`: the two deletes.
* `TooOld`: the rows past their retention, in exact integers.
* `wrappedCutoff`, `WrapsHarmlessly`: the cutoff of a setting that wraps, and the rows it spares.

## Main results

* `lt_retentionCutoff_iff`: what a cutoff deletes.
* `retentionDeletes_exact_iff`: when the deletes remove exactly what is too old.
-/

namespace FoundryIgra.Store

open Relational Rust TxLifecycleState

/-- The two retention deletes of `prune_cache`. -/
def retentionDeletes (store : IgraStore) (nowMs : UInt64) (db : Db) : Db :=
  pruneRetention
    (pruneRetention db [kaspaBroadcasted]
      (retentionCutoff nowMs.toInt64 store.completedRetentionHours))
    failedStates (retentionCutoff nowMs.toInt64 store.failedRetentionHours)

theorem pruneCache_eq (store : IgraStore) (nowMs : UInt64) (fileSize : ℕ → UInt64) (db : Db) :
    pruneCache store nowMs fileSize db =
      enforceSizeBudget store fileSize (retentionDeletes store nowMs db) := rfl

/-! ### Cutoffs -/

/-- A row is in one of the states and was last updated more than the hours ago. -/
def TxMapRow.IsPast (r : TxMapRow) (states : List TxLifecycleState) (hours nowMs : UInt64) : Prop :=
  r.stateIn states = true ∧
    r.updatedAtMs.toInt + (hours.toNat : ℤ) * 3600000 < nowMs.toNat

/-- The cutoff of a setting that wraps: its complement is added to the clock. -/
def wrappedCutoff (hours nowMs : UInt64) : ℤ :=
  min ((nowMs.toNat : ℤ) + min ((2 ^ 64 - (hours.toNat : ℤ)) * 3600000) (2 ^ 63)) (2 ^ 63 - 1)

/-- The setting does not wrap, or its rows are all from later than the wrapped cutoff. -/
def WrapsHarmlessly (rows : List TxMapRow) (states : List TxLifecycleState)
    (hours nowMs : UInt64) : Prop :=
  hours.toNat < 2 ^ 63 ∨
    ∀ r ∈ rows, r.stateIn states = true → wrappedCutoff hours nowMs ≤ r.updatedAtMs.toInt

variable {nowMs : UInt64}

theorem toInt_retentionCutoff (hnow : nowMs.toNat < 2 ^ 63) (hours : UInt64) :
    (retentionCutoff nowMs.toInt64 hours).toInt =
      if hours.toNat < 2 ^ 63 then
        nowMs.toNat - min ((hours.toNat : ℤ) * 3600000) (2 ^ 63 - 1)
      else wrappedCutoff hours nowMs := by
  have hhours := hours.toNat_lt
  have hfactor : (3600000 : Int64).toInt = 3600000 := by decide
  rw [retentionCutoff, saturatingSubI64, saturatingMulI64, toInt_ofIntClamp, toInt_ofIntClamp,
    toInt_toInt64, toInt_toInt64, if_pos hnow, hfactor]
  split_ifs with hwrap
  · omega
  · rw [wrappedCutoff]
    omega

/-- **What a cutoff deletes**: below `2 ^ 63` hours the rows past the retention, from there on the
rows before the wrapped cutoff. -/
theorem lt_retentionCutoff_iff (hnow : nowMs.toNat < 2 ^ 63) {r : TxMapRow}
    (hr : 0 ≤ r.updatedAtMs.toInt) (hours : UInt64) :
    r.updatedAtMs < retentionCutoff nowMs.toInt64 hours ↔
      if hours.toNat < 2 ^ 63 then
        r.updatedAtMs.toInt + (hours.toNat : ℤ) * 3600000 < nowMs.toNat
      else r.updatedAtMs.toInt < wrappedCutoff hours nowMs := by
  rw [Int64.lt_iff_toInt_lt, toInt_retentionCutoff hnow]
  split_ifs with hwrap
  · omega
  · rfl

theorem mem_pruneRetention {db : Db} {states : List TxLifecycleState} {cutoff : Int64}
    {r : TxMapRow} :
    r ∈ (pruneRetention db states cutoff).txMap.rows ↔
      r ∈ db.txMap.rows ∧ ¬(r.stateIn states = true ∧ r.updatedAtMs < cutoff) := by
  simp only [pruneRetention, Table.rows_deleteWhere, List.mem_filter, Bool.not_eq_true',
    decide_eq_false_iff_not]

/-- What the deletes remove. -/
theorem not_mem_retentionDeletes {store : IgraStore} {db : Db} {r : TxMapRow}
    (hr : r ∈ db.txMap.rows) :
    r ∉ (retentionDeletes store nowMs db).txMap.rows ↔
      r.stateIn [kaspaBroadcasted] = true ∧
          r.updatedAtMs < retentionCutoff nowMs.toInt64 store.completedRetentionHours ∨
        r.stateIn failedStates = true ∧
          r.updatedAtMs < retentionCutoff nowMs.toInt64 store.failedRetentionHours := by
  rw [retentionDeletes, mem_pruneRetention, mem_pruneRetention, and_assoc, not_and]
  constructor
  · intro h
    by_cases hcompleted : r.stateIn [kaspaBroadcasted] = true ∧
        r.updatedAtMs < retentionCutoff nowMs.toInt64 store.completedRetentionHours
    · exact Or.inl hcompleted
    · exact Or.inr (not_not.mp fun hfailed => h hr ⟨hcompleted, hfailed⟩)
  · rintro (hcompleted | hfailed) _ ⟨hkept, hkept'⟩
    · exact hkept hcompleted
    · exact hkept' hfailed

/-- A row is past the retention of its state. -/
def TooOld (store : IgraStore) (nowMs : UInt64) (r : TxMapRow) : Prop :=
  r.IsPast [kaspaBroadcasted] store.completedRetentionHours nowMs ∨
    r.IsPast failedStates store.failedRetentionHours nowMs

/-- The two deletes cover different states. -/
theorem not_stateIn_failedStates {r : TxMapRow} (h : r.stateIn [kaspaBroadcasted] = true) :
    ¬r.stateIn failedStates = true := by
  have hstate : r.state = kaspaBroadcasted.asStr := by simpa [TxMapRow.stateIn] using h
  rw [TxMapRow.stateIn, hstate]
  decide

variable {store : IgraStore} {db : Db}

/-- Where the setting wraps harmlessly, a cutoff deletes the rows past the retention. -/
theorem WrapsHarmlessly.stateIn_and_lt_iff {states : List TxLifecycleState} {hours : UInt64}
    (h : WrapsHarmlessly db.txMap.rows states hours nowMs) (hnow : nowMs.toNat < 2 ^ 63)
    {r : TxMapRow} (hr : r ∈ db.txMap.rows) (htime : 0 ≤ r.updatedAtMs.toInt) :
    (r.stateIn states = true ∧ r.updatedAtMs < retentionCutoff nowMs.toInt64 hours) ↔
      r.IsPast states hours nowMs := by
  rw [lt_retentionCutoff_iff hnow htime, TxMapRow.IsPast]
  refine and_congr_right fun hstate => ?_
  split_ifs with hwrap
  · rfl
  · have hspared := h.resolve_left hwrap r hr hstate
    omega

/-- A setting whose rows are deleted exactly when past the retention wraps harmlessly. -/
theorem wrapsHarmlessly_of_forall {states : List TxLifecycleState} {hours : UInt64}
    (hnow : nowMs.toNat < 2 ^ 63) (htime : ∀ r ∈ db.txMap.rows, 0 ≤ r.updatedAtMs.toInt)
    (h : ∀ r ∈ db.txMap.rows, r.stateIn states = true →
      r.updatedAtMs < retentionCutoff nowMs.toInt64 hours → r.IsPast states hours nowMs) :
    WrapsHarmlessly db.txMap.rows states hours nowMs := by
  by_cases hwrap : hours.toNat < 2 ^ 63
  · exact Or.inl hwrap
  · refine Or.inr fun r hr hstate => ?_
    by_contra hlt
    have hpast := h r hr hstate ((lt_retentionCutoff_iff hnow (htime r hr) hours).mpr (by
      rw [if_neg hwrap]
      omega))
    have hnonneg := htime r hr
    have holder := hpast.2
    omega

/-- The deletes remove exactly the rows past the retention of their state. -/
def DeletesExactly (store : IgraStore) (nowMs : UInt64) (db : Db) : Prop :=
  ∀ r ∈ db.txMap.rows,
    r ∉ (retentionDeletes store nowMs db).txMap.rows ↔ TooOld store nowMs r

/-- The deletes are exact exactly when both settings wrap harmlessly. -/
theorem deletesExactly_iff (hnow : nowMs.toNat < 2 ^ 63)
    (htime : ∀ r ∈ db.txMap.rows, 0 ≤ r.updatedAtMs.toInt) :
    DeletesExactly store nowMs db ↔
      WrapsHarmlessly db.txMap.rows [kaspaBroadcasted] store.completedRetentionHours nowMs ∧
      WrapsHarmlessly db.txMap.rows failedStates store.failedRetentionHours nowMs := by
  constructor
  · intro h
    refine ⟨wrapsHarmlessly_of_forall hnow htime fun r hr hstate hlt => ?_,
      wrapsHarmlessly_of_forall hnow htime fun r hr hstate hlt => ?_⟩
    · have hold := (h r hr).mp ((not_mem_retentionDeletes hr).mpr (Or.inl ⟨hstate, hlt⟩))
      exact hold.resolve_right fun hfailed => not_stateIn_failedStates hstate hfailed.1
    · have hold := (h r hr).mp ((not_mem_retentionDeletes hr).mpr (Or.inr ⟨hstate, hlt⟩))
      exact hold.resolve_left fun hdone => not_stateIn_failedStates hdone.1 hstate
  · rintro ⟨hcompleted, hfailed⟩ r hr
    rw [not_mem_retentionDeletes hr, hcompleted.stateIn_and_lt_iff hnow hr (htime r hr),
      hfailed.stateIn_and_lt_iff hnow hr (htime r hr), TooOld]

/-- Exact deletes keep more under larger settings. -/
theorem DeletesExactly.mono {store' : IgraStore} (h : DeletesExactly store nowMs db)
    (h' : DeletesExactly store' nowMs db)
    (hcompleted : store.completedRetentionHours ≤ store'.completedRetentionHours)
    (hfailed : store.failedRetentionHours ≤ store'.failedRetentionHours) :
    (retentionDeletes store nowMs db).txMap.rows ⊆
      (retentionDeletes store' nowMs db).txMap.rows := by
  intro r hkept
  have hr : r ∈ db.txMap.rows := by
    rw [retentionDeletes, mem_pruneRetention, mem_pruneRetention] at hkept
    exact hkept.1.1
  rw [UInt64.le_iff_toNat_le] at hcompleted hfailed
  by_contra hgone
  refine (h r hr).mpr ?_ hkept
  rcases (h' r hr).mp hgone with ⟨hstate, hold⟩ | ⟨hstate, hold⟩
  · exact Or.inl ⟨hstate, by omega⟩
  · exact Or.inr ⟨hstate, by omega⟩

/-- **What the retention deletes remove.** They remove exactly what is too old exactly when both
settings wrap harmlessly; and of two such pairs of settings the larger one keeps all that the
smaller one keeps. -/
theorem retentionDeletes_exact_iff (store : IgraStore) (hnow : nowMs.toNat < 2 ^ 63)
    (htime : ∀ r ∈ db.txMap.rows, 0 ≤ r.updatedAtMs.toInt) :
    ((∀ r ∈ db.txMap.rows,
        r ∉ (retentionDeletes store nowMs db).txMap.rows ↔ TooOld store nowMs r) ↔
      WrapsHarmlessly db.txMap.rows [kaspaBroadcasted] store.completedRetentionHours nowMs ∧
      WrapsHarmlessly db.txMap.rows failedStates store.failedRetentionHours nowMs) ∧
    ∀ store' : IgraStore,
      WrapsHarmlessly db.txMap.rows [kaspaBroadcasted] store.completedRetentionHours nowMs →
      WrapsHarmlessly db.txMap.rows failedStates store.failedRetentionHours nowMs →
      WrapsHarmlessly db.txMap.rows [kaspaBroadcasted] store'.completedRetentionHours nowMs →
      WrapsHarmlessly db.txMap.rows failedStates store'.failedRetentionHours nowMs →
      store.completedRetentionHours ≤ store'.completedRetentionHours →
      store.failedRetentionHours ≤ store'.failedRetentionHours →
      (retentionDeletes store nowMs db).txMap.rows ⊆
        (retentionDeletes store' nowMs db).txMap.rows := by
  refine ⟨deletesExactly_iff hnow htime, ?_⟩
  intro store' hcompleted hfailed hcompleted' hfailed' hle hle'
  have hexact := (deletesExactly_iff hnow htime).mpr ⟨hcompleted, hfailed⟩
  have hexact' := (deletesExactly_iff hnow htime).mpr ⟨hcompleted', hfailed'⟩
  exact hexact.mono hexact' hle hle'

/-- A store that keeps failed rows for a day, with a setting for broadcast rows. -/
def retentionStore (completedRetentionHours : UInt64) : IgraStore where
  dbPath := ["igra.sqlite"]
  kaspaNetwork := "testnet-10"
  expectedElChainId := 1337
  senderLockTimeoutSecs := 1
  elRpcFingerprint := none
  kaspaRpcFingerprint := none
  completedRetentionHours := completedRetentionHours
  failedRetentionHours := 24
  maxDbSizeMb := 256

/-- A row of a transaction that was just broadcast. -/
def broadcastRow : TxMapRow :=
  TxLifecycleUpdate.row (retentionStore 1)
    { l2TxHash := "0xabcd"
      sender := "0x1111"
      l2Nonce := 0
      payloadNonce := none
      kaspaTxId := none
      state := kaspaBroadcasted
      correlationId := "c"
      lastErrorCode := none
      lastErrorMessage := none
      incrementAttempts := false } 0 1700000000000 1700000000000

/-- A file with this row. -/
def broadcastDb : Db :=
  { Db.empty with txMap := Db.empty.txMap.upsert broadcastRow }

/-- Kept for `2 ^ 64 - 1` hours, a row is deleted as soon as it is written, while one hour keeps
it. -/
theorem retentionDeletes_wraps :
    broadcastRow ∈ broadcastDb.txMap.rows ∧
    broadcastRow ∉
      (retentionDeletes (retentionStore 18446744073709551615) 1700000000000 broadcastDb).txMap.rows ∧
    ¬TooOld (retentionStore 18446744073709551615) 1700000000000 broadcastRow ∧
    broadcastRow ∈ (retentionDeletes (retentionStore 1) 1700000000000 broadcastDb).txMap.rows := by
  refine ⟨by decide, by decide, ?_, by decide⟩
  rintro (⟨-, hold⟩ | ⟨-, hold⟩)
  · exact absurd hold (by decide)
  · exact absurd hold (by decide)

/-- One hour and ten hours do not wrap. -/
theorem retentionDeletes_exact_iff_hours :
    (∀ r ∈ broadcastDb.txMap.rows,
      r ∉ (retentionDeletes (retentionStore 1) 1700000000000 broadcastDb).txMap.rows ↔
        TooOld (retentionStore 1) 1700000000000 r) ∧
    (retentionDeletes (retentionStore 1) 1700000000000 broadcastDb).txMap.rows ⊆
      (retentionDeletes (retentionStore 10) 1700000000000 broadcastDb).txMap.rows := by
  have hnow : (1700000000000 : UInt64).toNat < 2 ^ 63 := by decide
  have htime : ∀ r ∈ broadcastDb.txMap.rows, 0 ≤ r.updatedAtMs.toInt := by decide
  have hlaw := retentionDeletes_exact_iff (retentionStore 1) hnow htime
  have hone : ∀ states, WrapsHarmlessly broadcastDb.txMap.rows states 1 1700000000000 :=
    fun _ => Or.inl (by decide)
  have hten : ∀ states, WrapsHarmlessly broadcastDb.txMap.rows states 10 1700000000000 :=
    fun _ => Or.inl (by decide)
  have hday : ∀ states, WrapsHarmlessly broadcastDb.txMap.rows states 24 1700000000000 :=
    fun _ => Or.inl (by decide)
  exact ⟨hlaw.1.mpr ⟨hone _, hday _⟩,
    hlaw.2 (retentionStore 10) (hone _) (hday _) (hten _) (hday _) (by decide) (by decide)⟩

end FoundryIgra.Store
