import FoundryIgra.Relational.Table

/-!
# The tables of the IGRA store

The four SQLite tables of the store with their columns as they are stored (every integer column
is a signed 64-bit `INTEGER`, `store.rs`, `migrate`), the records and updates of the Rust side,
and the errors of the store.

## Main definitions

* `TxLifecycleState` with its column text `asStr` and its reader `parse`.
* `TxMapRow`, `SenderNonceRow`, `SenderLockRow`, `MetaRow`, `Db`.
* `TxLifecycleUpdate`, `TxMapRecord`, `NonceOrdering`, `IgraStore`.
* `IgraStoreError` with its text, its code and `isRetryableBusyError`.
-/

namespace FoundryIgra.Store

open Relational

/-- Error code for nonce-gap blocking. -/
def igraNonceGapErrorCode : String := "IGRA_NONCE_001"

/-- Error code for sender-lock timeout blocking. -/
def igraNonceLockTimeoutErrorCode : String := "IGRA_NONCE_002"

/-- Error code for nonce advancement overflow. -/
def igraNonceOverflowErrorCode : String := "IGRA_NONCE_003"

/-- Error code of a stale nonce that is classified as a replacement candidate. -/
def igraNonceReplacementCandidateErrorCode : String := "IGRA_NONCE_004"

/-! ### Lifecycle states -/

/-- The lifecycle state persisted in `tx_map`. -/
inductive TxLifecycleState
  | receivedRawL2
  | kaspaUnsignedCreated
  | kaspaPrefixMined
  | kaspaSigned
  | kaspaBroadcasted
  | failedRecoverable
  | blockedNonceGap
  | blockedLockTimeout
  | staleReplacementCandidate
  deriving DecidableEq, Repr

namespace TxLifecycleState

/-- The text stored in the `state` column. -/
def asStr : TxLifecycleState → String
  | receivedRawL2 => "RECEIVED_RAW_L2"
  | kaspaUnsignedCreated => "KASPA_UNSIGNED_CREATED"
  | kaspaPrefixMined => "KASPA_PREFIX_MINED"
  | kaspaSigned => "KASPA_SIGNED"
  | kaspaBroadcasted => "KASPA_BROADCASTED"
  | failedRecoverable => "FAILED_RECOVERABLE"
  | blockedNonceGap => "BLOCKED_NONCE_GAP"
  | blockedLockTimeout => "BLOCKED_LOCK_TIMEOUT"
  | staleReplacementCandidate => "STALE_REPLACEMENT_CANDIDATE"

/-- Reads the `state` column. -/
def parse (value : String) : Option TxLifecycleState :=
  if value = "RECEIVED_RAW_L2" then some receivedRawL2
  else if value = "KASPA_UNSIGNED_CREATED" then some kaspaUnsignedCreated
  else if value = "KASPA_PREFIX_MINED" then some kaspaPrefixMined
  else if value = "KASPA_SIGNED" then some kaspaSigned
  else if value = "KASPA_BROADCASTED" then some kaspaBroadcasted
  else if value = "FAILED_RECOVERABLE" then some failedRecoverable
  else if value = "BLOCKED_NONCE_GAP" then some blockedNonceGap
  else if value = "BLOCKED_LOCK_TIMEOUT" then some blockedLockTimeout
  else if value = "STALE_REPLACEMENT_CANDIDATE" then some staleReplacementCandidate
  else none

/-- Every stored state reads back as itself. -/
@[simp] theorem parse_asStr (s : TxLifecycleState) : parse s.asStr = some s := by
  cases s <;> rfl

end TxLifecycleState

/-! ### Rows -/

/-- A row of `tx_map`. -/
structure TxMapRow where
  l2TxHash : String
  sender : String
  l2Nonce : Int64
  payloadNonce : Option Int64
  kaspaTxId : Option String
  state : String
  chainId : Int64
  kaspaNetwork : String
  elRpcFingerprint : Option String
  kaspaRpcFingerprint : Option String
  correlationId : String
  attempts : Int64
  lastErrorCode : Option String
  lastErrorMessage : Option String
  createdAtMs : Int64
  updatedAtMs : Int64
  deriving DecidableEq

/-- A row of `sender_nonce_state`. -/
structure SenderNonceRow where
  sender : String
  nextExpectedNonce : Int64
  updatedAtMs : Int64
  deriving DecidableEq

/-- A row of `sender_locks`. -/
structure SenderLockRow where
  sender : String
  ownerId : String
  expiresAtMs : Int64
  updatedAtMs : Int64
  deriving DecidableEq

/-- A row of `schema_meta`. -/
structure MetaRow where
  key : String
  value : String
  deriving DecidableEq

/-- The contents of one database file. -/
@[ext]
structure Db where
  schemaMeta : Table MetaRow.key
  txMap : Table TxMapRow.l2TxHash
  senderNonceState : Table SenderNonceRow.sender
  senderLocks : Table SenderLockRow.sender

/-- A database file with freshly created tables. -/
def Db.empty : Db := ⟨.empty, .empty, .empty, .empty⟩

/-! ### Records, updates and the store handle -/

/-- Nonce ordering classification for an incoming transaction. -/
inductive NonceOrdering
  | inOrder (expected : UInt64)
  | stale (expected : UInt64) (replacementCandidate : Bool)
  deriving DecidableEq

/-- The expected nonce an ordering was decided against. -/
def NonceOrdering.expected : NonceOrdering → UInt64
  | inOrder e => e
  | stale e _ => e

/-- The record of `tx_map` on the Rust side. -/
structure TxMapRecord where
  l2TxHash : String
  sender : String
  l2Nonce : UInt64
  payloadNonce : Option UInt64
  kaspaTxId : Option String
  state : TxLifecycleState
  chainId : UInt64
  kaspaNetwork : String
  elRpcFingerprint : Option String
  kaspaRpcFingerprint : Option String
  correlationId : String
  attempts : UInt32
  lastErrorCode : Option String
  lastErrorMessage : Option String
  createdAtMs : UInt64
  updatedAtMs : UInt64
  deriving DecidableEq

/-- Payload for updating the lifecycle state. -/
structure TxLifecycleUpdate where
  l2TxHash : String
  sender : String
  l2Nonce : UInt64
  payloadNonce : Option UInt64
  kaspaTxId : Option String
  state : TxLifecycleState
  correlationId : String
  lastErrorCode : Option String
  lastErrorMessage : Option String
  incrementAttempts : Bool
  deriving DecidableEq

/-- An opened store: the profile and the settings, without the contents of its file. -/
structure IgraStore where
  dbPath : List String
  kaspaNetwork : String
  expectedElChainId : UInt64
  senderLockTimeoutSecs : UInt64
  elRpcFingerprint : Option String
  kaspaRpcFingerprint : Option String
  completedRetentionHours : UInt64
  failedRetentionHours : UInt64
  maxDbSizeMb : UInt64
  deriving DecidableEq

/-! ### Errors -/

/-- The SQLite error codes the store distinguishes. -/
inductive ErrorCode
  | databaseBusy
  | databaseLocked
  | other (code : Int)
  deriving DecidableEq

/-- `rusqlite::Error`: a failure reported by SQLite, or any other error, with its text. -/
inductive RusqliteError
  | sqliteFailure (code : ErrorCode) (text : String)
  | other (text : String)
  deriving DecidableEq

/-- The text of a `rusqlite` error. -/
def RusqliteError.text : RusqliteError → String
  | sqliteFailure _ text => text
  | other text => text

/-- `FromSqlConversionFailure` of a column. -/
def RusqliteError.fromSqlConversionFailure (index : ℕ) (sqlType err : String) : RusqliteError :=
  .other ("Conversion error from type " ++ sqlType ++ " at index: " ++ toString index ++ ", " ++ err)

/-- Errors emitted by the store. -/
inductive IgraStoreError
  | blockedNonceGap (expected got : UInt64)
  | lockTimeout (sender : String)
  | nonceOverflow (sender : String) (nonce : UInt64)
  | sqlite (err : RusqliteError)
  | io (text : String)
  deriving DecidableEq

namespace IgraStoreError

/-- The display text of an error. -/
def toText : IgraStoreError → String
  | blockedNonceGap expected got =>
    igraNonceGapErrorCode ++ ": BLOCKED_NONCE_GAP (expected " ++ toString expected ++ ", got " ++
      toString got ++ ")"
  | lockTimeout sender =>
    igraNonceLockTimeoutErrorCode ++ ": sender lock timed out for " ++ sender
  | nonceOverflow sender nonce =>
    igraNonceOverflowErrorCode ++ ": next expected nonce overflow for sender " ++ sender ++
      " at nonce " ++ toString nonce
  | sqlite err => "IGRA store SQLite error: " ++ err.text
  | io text => "IGRA store I/O error: " ++ text

/-- `IgraStoreError::code`. -/
def code : IgraStoreError → Option String
  | blockedNonceGap _ _ => some igraNonceGapErrorCode
  | lockTimeout _ => some igraNonceLockTimeoutErrorCode
  | nonceOverflow _ _ => some igraNonceOverflowErrorCode
  | sqlite _ => none
  | io _ => none

/-- `is_retryable_busy_error`. -/
def isRetryableBusyError : IgraStoreError → Bool
  | sqlite (.sqliteFailure .databaseBusy _) => true
  | sqlite (.sqliteFailure .databaseLocked _) => true
  | _ => false

end IgraStoreError

end FoundryIgra.Store
