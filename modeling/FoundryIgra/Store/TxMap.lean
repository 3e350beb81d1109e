import FoundryIgra.Rust.Word
import FoundryIgra.Store.Schema

/-!
# Lifecycle records

Writing and reading `tx_map` (`store.rs`, `persist_transition`, `load_tx`). A write replaces every
column of the row except the creation time and the attempt counter, which are carried over; the
integers pass through signed columns in both directions. What is read back is the record of the
last update (`loadTx_persistTransition`).

## Main definitions

* `persistTransition`, `loadTx`.
* `TxLifecycleUpdate.record`: the record that an update leaves behind.

## Main results

* `loadTx_persistTransition`: a write reads back under its own hash and changes no other.
* `persistTransition_frame`: a write touches only `tx_map`.
-/

namespace FoundryIgra.Store

open Relational

/-- `u32::saturating_add` of a flag. -/
def saturatingAddFlag (attempts : UInt32) (increment : Bool) : UInt32 :=
  if increment ∧ attempts ≠ 4294967295 then attempts + 1 else attempts

/-- The row an update is written as, with its attempt counter and its two times. -/
def TxLifecycleUpdate.row (store : IgraStore) (u : TxLifecycleUpdate) (attempts : UInt32)
    (createdAtMs now : UInt64) : TxMapRow where
  l2TxHash := u.l2TxHash
  sender := u.sender
  l2Nonce := u.l2Nonce.toInt64
  payloadNonce := u.payloadNonce.map UInt64.toInt64
  kaspaTxId := u.kaspaTxId
  state := u.state.asStr
  chainId := store.expectedElChainId.toInt64
  kaspaNetwork := store.kaspaNetwork
  elRpcFingerprint := store.elRpcFingerprint
  kaspaRpcFingerprint := store.kaspaRpcFingerprint
  correlationId := u.correlationId
  attempts := attempts.toUInt64.toInt64
  lastErrorCode := u.lastErrorCode
  lastErrorMessage := u.lastErrorMessage
  createdAtMs := createdAtMs.toInt64
  updatedAtMs := now.toInt64

/-- The attempt counter and the creation time of a row, as `persist_transition` reads them. -/
def TxMapRow.existing (r : TxMapRow) : UInt32 × UInt64 :=
  (r.attempts.toUInt64.toUInt32, r.createdAtMs.toUInt64)

/-- The attempt counter and the creation time an update is written with. -/
def carriedOver (db : Db) (u : TxLifecycleUpdate) (now : UInt64) : UInt32 × UInt64 :=
  match (db.txMap.find? u.l2TxHash).map TxMapRow.existing with
  | some (existingAttempts, createdAt) =>
    (saturatingAddFlag existingAttempts u.incrementAttempts, createdAt)
  | none => (saturatingAddFlag 0 u.incrementAttempts, now)

/-- `persist_transition` at the clock reading `now`. -/
def persistTransition (store : IgraStore) (db : Db) (u : TxLifecycleUpdate) (now : UInt64) : Db :=
  let (attempts, createdAtMs) := carriedOver db u now
  { db with txMap := db.txMap.upsert (u.row store attempts createdAtMs now) }

/-- The record of a row; a state text that is no state is a conversion failure. -/
def TxMapRow.toRecord (r : TxMapRow) : Except IgraStoreError TxMapRecord :=
  match TxLifecycleState.parse r.state with
  | none =>
    .error (.sqlite (.fromSqlConversionFailure 5 "Text" ("unknown state `" ++ r.state ++ "`")))
  | some state => .ok
    { l2TxHash := r.l2TxHash
      sender := r.sender
      l2Nonce := r.l2Nonce.toUInt64
      payloadNonce := r.payloadNonce.map Int64.toUInt64
      kaspaTxId := r.kaspaTxId
      state := state
      chainId := r.chainId.toUInt64
      kaspaNetwork := r.kaspaNetwork
      elRpcFingerprint := r.elRpcFingerprint
      kaspaRpcFingerprint := r.kaspaRpcFingerprint
      correlationId := r.correlationId
      attempts := r.attempts.toUInt64.toUInt32
      lastErrorCode := r.lastErrorCode
      lastErrorMessage := r.lastErrorMessage
      createdAtMs := r.createdAtMs.toUInt64
      updatedAtMs := r.updatedAtMs.toUInt64 }

/-- `load_tx` on an existing file. -/
def loadTx (db : Db) (l2TxHash : String) : Except IgraStoreError (Option TxMapRecord) :=
  match db.txMap.find? l2TxHash with
  | none => .ok none
  | some r => r.toRecord.map some

/-- The record that an update leaves behind. -/
def TxLifecycleUpdate.record (store : IgraStore) (u : TxLifecycleUpdate) (attempts : UInt32)
    (createdAtMs now : UInt64) : TxMapRecord where
  l2TxHash := u.l2TxHash
  sender := u.sender
  l2Nonce := u.l2Nonce
  payloadNonce := u.payloadNonce
  kaspaTxId := u.kaspaTxId
  state := u.state
  chainId := store.expectedElChainId
  kaspaNetwork := store.kaspaNetwork
  elRpcFingerprint := store.elRpcFingerprint
  kaspaRpcFingerprint := store.kaspaRpcFingerprint
  correlationId := u.correlationId
  attempts := attempts
  lastErrorCode := u.lastErrorCode
  lastErrorMessage := u.lastErrorMessage
  createdAtMs := createdAtMs
  updatedAtMs := now

/-- Every column of an update survives the signed columns. -/
theorem toRecord_row (store : IgraStore) (u : TxLifecycleUpdate) (attempts : UInt32)
    (createdAtMs now : UInt64) :
    (u.row store attempts createdAtMs now).toRecord =
      .ok (u.record store attempts createdAtMs now) := by
  rw [TxMapRow.toRecord, TxLifecycleUpdate.row]
  simp only [TxLifecycleState.parse_asStr, UInt64.toUInt64_toInt64, UInt32.toUInt32_toUInt64,
    Option.map_map, Except.ok.injEq, TxLifecycleUpdate.record, TxMapRecord.mk.injEq, true_and,
    and_true]
  cases u.payloadNonce <;> simp

theorem find?_persistTransition (store : IgraStore) (db : Db) (u : TxLifecycleUpdate)
    (now : UInt64) (h : String) :
    (persistTransition store db u now).txMap.find? h =
      if u.l2TxHash = h then
        some (u.row store (carriedOver db u now).1 (carriedOver db u now).2 now)
      else db.txMap.find? h := by
  rw [persistTransition]
  rw [Table.find?_upsert]
  rfl

/-- **A write reads back.** The record of the updated hash is that of the update, with the
attempts and the creation time carried over; no other record changes. -/
theorem loadTx_persistTransition (store : IgraStore) (db : Db) (u : TxLifecycleUpdate)
    (now : UInt64) (h : String) :
    loadTx (persistTransition store db u now) h =
      if u.l2TxHash = h then
        .ok (some (u.record store (carriedOver db u now).1 (carriedOver db u now).2 now))
      else loadTx db h := by
  rw [loadTx]
  rw [find?_persistTransition]
  split_ifs with hh
  · simp only [toRecord_row]
    rfl
  · rfl

/-- A write touches only `tx_map`. -/
theorem persistTransition_frame (store : IgraStore) (db : Db) (u : TxLifecycleUpdate)
    (now : UInt64) :
    (persistTransition store db u now).senderNonceState = db.senderNonceState ∧
      (persistTransition store db u now).senderLocks = db.senderLocks ∧
      (persistTransition store db u now).schemaMeta = db.schemaMeta :=
  ⟨rfl, rfl, rfl⟩

/-- A record that is read back and meets `P`. -/
theorem exists_record_of_any {db : Db} {hash : String} {P : TxMapRecord → Bool}
    (h : ((loadTx db hash).toOption.getD none).any P = true) :
    ∃ record, loadTx db hash = .ok (some record) ∧ P record = true := by
  cases hl : loadTx db hash with
  | error err => simp [hl, Except.toOption] at h
  | ok o =>
    rw [hl] at h
    obtain ⟨record, ho, hP⟩ := (Option.any_eq_true ..).mp h
    obtain rfl : o = some record := ho
    exact ⟨record, rfl, hP⟩

theorem loadTx_congr {db db' : Db} (h : db'.txMap = db.txMap) : loadTx db' = loadTx db := by
  funext hash
  simp only [loadTx]
  rw [h]

end FoundryIgra.Store
