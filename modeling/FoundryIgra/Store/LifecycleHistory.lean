import FoundryIgra.Relational.Replay
import FoundryIgra.Store.SenderLocks
import FoundryIgra.Store.TxMap

/-!
# `tx_map` as a map of histories

Every call of `persist_transition` is one transaction, so the calls of any number of callers are a
list, in the order of their commits. The table keeps of the calls for a hash the last one, the time
of the first and the number of attempts; it stands for the map from hashes to histories
(`loadTx_persistAll`).

## Main definitions

* `PersistCall`, `persistAll`: calls in commit order and the table they leave.
* `recordOfHistory`: the record that a history stands for.

## Main results

* `loadTx_persistAll`: what is loaded is the record of the history.
-/

namespace FoundryIgra.Store

open Relational

/-- A call of `persist_transition`, with the clock reading of its transaction. -/
structure PersistCall where
  update : TxLifecycleUpdate
  now : UInt64
  deriving DecidableEq

/-- The hash that a call is for. -/
def PersistCall.l2TxHash (c : PersistCall) : String := c.update.l2TxHash

/-- The calls through `store`, in commit order. -/
def persistAll (store : IgraStore) (db : Db) (calls : List PersistCall) : Db :=
  calls.foldl (fun db c => persistTransition store db c.update c.now) db

/-! ### Histories -/

/-- The number of calls that count as an attempt. -/
def attemptCount (calls : List PersistCall) : ℕ :=
  calls.countP fun c => c.update.incrementAttempts

/-- A counter of type `u32` that stops at its maximum. -/
def clampU32 (n : ℕ) : UInt32 := UInt32.ofNat (min (2 ^ 32 - 1) n)

theorem toNat_clampU32 (n : ℕ) : (clampU32 n).toNat = min (2 ^ 32 - 1) n :=
  UInt32.toNat_ofNat_of_lt' (by show _ < 2 ^ 32; omega)

/-- The record that the history of a hash stands for: the last call, the time of the first, the
number of attempts, and the profile of the store. -/
def recordOfHistory (store : IgraStore) : List PersistCall → Option TxMapRecord
  | [] => none
  | first :: rest =>
    let last := rest.getLastD first
    some (last.update.record store (clampU32 (attemptCount (first :: rest))) first.now last.now)

/-- The row of a history. -/
def rowOfHistory (store : IgraStore) (first : PersistCall) (rest : List PersistCall) : TxMapRow :=
  let last := rest.getLastD first
  last.update.row store (clampU32 (attemptCount (first :: rest))) first.now last.now

/-- The row that a call leaves, in terms of the row it found. -/
def nextRow (store : IgraStore) (found : Option TxMapRow) (c : PersistCall) : TxMapRow :=
  match found.map TxMapRow.existing with
  | some (existingAttempts, createdAt) =>
    c.update.row store (saturatingAddFlag existingAttempts c.update.incrementAttempts) createdAt
      c.now
  | none => c.update.row store (saturatingAddFlag 0 c.update.incrementAttempts) c.now c.now

/-! ### One call -/

/-- One attempt more. -/
theorem saturatingAddFlag_clampU32 (n : ℕ) (increment : Bool) :
    saturatingAddFlag (clampU32 n) increment = clampU32 (n + if increment then 1 else 0) := by
  have hmax : clampU32 n ≠ 4294967295 ↔ n < 2 ^ 32 - 1 := by
    rw [ne_eq, ← UInt32.toNat_inj, toNat_clampU32]
    show ¬min (2 ^ 32 - 1) n = 2 ^ 32 - 1 ↔ _
    omega
  rw [saturatingAddFlag, ← UInt32.toNat_inj]
  cases increment with
  | false => simp
  | true =>
    simp only [true_and, if_true, toNat_clampU32, apply_ite UInt32.toNat, hmax]
    split_ifs with hlt
    · rw [UInt32.toNat_add, toNat_clampU32, UInt32.toNat_one]
      omega
    · omega

/-- What a row keeps of its attempts and its creation time. -/
theorem existing_row (store : IgraStore) (u : TxLifecycleUpdate) (attempts : UInt32)
    (createdAtMs now : UInt64) :
    (u.row store attempts createdAtMs now).existing = (attempts, createdAtMs) := by
  simp [TxMapRow.existing, TxLifecycleUpdate.row]

/-- A call changes the row of its hash, and no other. -/
theorem keyed_persistTransition (store : IgraStore) :
    Keyed (fun db h => db.txMap.find? h)
      (fun db c => persistTransition store db c.update c.now) PersistCall.l2TxHash
      (nextRow store) := by
  intro db c h
  refine (find?_persistTransition store db c.update c.now h).trans ?_
  refine ite_congr rfl (fun hh => ?_) fun _ => rfl
  obtain rfl : c.update.l2TxHash = h := hh
  rw [carriedOver, nextRow]
  cases (db.txMap.find? c.update.l2TxHash).map TxMapRow.existing with
  | none => rfl
  | some found => rfl

theorem nextRow_none (store : IgraStore) (c : PersistCall) :
    nextRow store none c = rowOfHistory store c [] := by
  have hattempts : saturatingAddFlag 0 c.update.incrementAttempts =
      clampU32 (attemptCount [c]) := by
    rw [attemptCount, List.countP_singleton, ← Nat.zero_add (ite ..)]
    exact saturatingAddFlag_clampU32 0 c.update.incrementAttempts
  rw [nextRow, rowOfHistory, Option.map_none, ← hattempts]
  rfl

theorem nextRow_rowOfHistory (store : IgraStore) (first : PersistCall) (rest : List PersistCall)
    (c : PersistCall) :
    nextRow store (some (rowOfHistory store first rest)) c =
      rowOfHistory store first (rest ++ [c]) := by
  have hattempts : attemptCount (first :: (rest ++ [c])) =
      attemptCount (first :: rest) + if c.update.incrementAttempts then 1 else 0 := by
    rw [attemptCount, ← List.cons_append, List.countP_append, List.countP_singleton]
    rfl
  rw [nextRow, rowOfHistory, Option.map_some, existing_row, rowOfHistory, hattempts,
    ← saturatingAddFlag_clampU32, List.getLastD_concat]

/-! ### All calls -/

/-- **`tx_map` is the map of histories.** -/
theorem loadTx_persistAll (store : IgraStore) (db : Db) (hempty : db.txMap = .empty)
    (calls : List PersistCall) (hash : String) :
    loadTx (persistAll store db calls) hash =
        .ok (recordOfHistory store (eventsOf PersistCall.l2TxHash hash calls)) ∧
      (loadTx (persistAll store db calls) hash = .ok none ↔
        ∀ c ∈ calls, c.update.l2TxHash ≠ hash) := by
  have hfind : (persistAll store db calls).txMap.find? hash = _ :=
    (keyed_persistTransition store).read_foldl db calls hash
  rw [hempty, Table.find?_empty] at hfind
  have hnil : (∀ c ∈ calls, c.update.l2TxHash ≠ hash) ↔
      eventsOf PersistCall.l2TxHash hash calls = [] := eventsOf_eq_nil_iff.symm
  rw [hnil]
  cases hhistory : eventsOf PersistCall.l2TxHash hash calls with
  | nil =>
    rw [hhistory] at hfind
    have hnone : loadTx (persistAll store db calls) hash = .ok none := by
      rw [loadTx, hfind]
      rfl
    exact ⟨hnone, iff_of_true hnone rfl⟩
  | cons first rest =>
    rw [hhistory, foldl_eq_summary (nextRow_none store) (nextRow_rowOfHistory store)] at hfind
    have hload : loadTx (persistAll store db calls) hash =
        .ok (recordOfHistory store (first :: rest)) := by
      rw [loadTx, hfind]
      simp only [rowOfHistory, toRecord_row]
      rfl
    refine ⟨hload, iff_of_false ?_ (List.cons_ne_nil first rest)⟩
    rw [hload, recordOfHistory]
    exact fun h => Option.some_ne_none _ (Except.ok.inj h)

/-- A step of a transaction towards its broadcast. -/
def happyPathUpdate (state : TxLifecycleState) (incrementAttempts : Bool) : TxLifecycleUpdate where
  l2TxHash := "0xabc123"
  sender := "0x3333333333333333333333333333333333333333"
  l2Nonce := 3
  payloadNonce := some 3
  kaspaTxId := some "kaspa-tx-1"
  state := state
  correlationId := "corr-1"
  lastErrorCode := none
  lastErrorMessage := none
  incrementAttempts := incrementAttempts

/-- A failed attempt and a broadcast: the record of the broadcast counts the attempt. -/
theorem loadTx_persistAll_retry :
    loadTx (persistAll oneSecondStore Db.empty
      [⟨happyPathUpdate .failedRecoverable true, 5⟩,
        ⟨happyPathUpdate .kaspaBroadcasted false, 9⟩]) "0xabc123" =
      .ok (some ((happyPathUpdate .kaspaBroadcasted false).record oneSecondStore 1 5 9)) := by
  rw [(loadTx_persistAll oneSecondStore Db.empty rfl _ "0xabc123").1]
  decide +kernel

end FoundryIgra.Store
