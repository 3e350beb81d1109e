import FoundryIgra.Rust.Text
import FoundryIgra.Store.Cache

/-!
# Profiles and opening a store

A store is opened for a profile: the chain id, the network and the fingerprints of the two RPC
endpoints (`store.rs`, `from_config`, `fingerprint`, `sanitize_component`, `default_db_path`).
Opening read-write migrates the file, compares the profile with the one recorded in `schema_meta`
and wipes the cached rows when it changed (`reconcile_profile_cache`), and prunes. Opening
read-only does none of this. The hash function is a parameter.

## Main definitions

* `IgraStoreConfig`, `IgraStore.fromConfig`, `defaultDbPath`.
* `Profile`, `IgraStore.profile`, `Db.Records`: profiles and the recorded profile.
* `migrate`, `reconcileProfileCache`, `initializeCache`, `IgraStore.new`: opening read-write.
* `IgraStore.openReadOnly`: opening read-only.

## Main results

* `defaultDbPath_inj`: the default path determines the sanitized network and the chain id.
* `records_reconcile`: after the reconciliation the recorded profile is the store's.
* `profileChanged_eq_false_iff`: on a recorded profile, the comparison is exact.
-/

namespace FoundryIgra.Store

open Relational Rust

/-! ### Configuration -/

/-- IGRA store configuration; paths are lists of components. -/
structure IgraStoreConfig where
  dbPath : Option (List String)
  cacheDir : Option (List String)
  kaspaNetwork : Option String
  expectedElChainId : Option UInt64
  elRpcUrl : Option String
  kaspaRpcUrl : Option String
  senderLockTimeoutSecs : Option UInt64
  completedRetentionHours : Option UInt64
  failedRetentionHours : Option UInt64
  maxDbSizeMb : Option UInt64

/-- What a process reads from its environment: `HOME` and the directory for temporary files. -/
structure Environment where
  home : Option (List String)
  tempDir : List String

def defaultSenderLockTimeoutSecs : UInt64 := 60
def defaultCompletedRetentionHours : UInt64 := 168
def defaultFailedRetentionHours : UInt64 := 720
def defaultMaxDbSizeMb : UInt64 := 512

/-- `fingerprint`: the hash of a non-blank URL with its chain id and network. -/
def fingerprint (keccak256 : List UInt8 → List UInt8) (url : Option String) (chainId : UInt64)
    (network : Option String) : Option String := do
  let url := trim (← url)
  if url = "" then none
  else
    let network := network.getD "unknown"
    let payload := url ++ "|" ++ toString chainId ++ "|" ++ network
    some ("0x" ++ hexEncode (keccak256 (utf8 payload)))

/-- A character that `sanitize_component` keeps. -/
def isComponentChar (c : Char) : Bool := c.isAlphanum || c == '-' || c == '_'

/-- `sanitize_component`. -/
def sanitizeComponent (value fallback : String) : String :=
  let trimmed := trim value
  if trimmed = "" then fallback
  else
    let out := String.ofList (trimmed.toList.map fun c => if isComponentChar c then c else '-')
    if out = "" then fallback else out

/-- The file name of a default path. -/
def dbFileName (kaspaNetwork : String) (expectedElChainId : UInt64) : String :=
  "tx-map-v1-" ++ kaspaNetwork ++ "-" ++ toString expectedElChainId ++ ".sqlite"

/-- `default_db_path`. -/
def defaultDbPath (env : Environment) (config : IgraStoreConfig) (kaspaNetwork : String)
    (expectedElChainId : UInt64) : List String :=
  let cacheDir := config.cacheDir.getD <|
    match env.home with
    | some home => home ++ [".foundry", "cache"]
    | none => env.tempDir ++ ["foundry", "cache"]
  cacheDir ++ ["igra", dbFileName kaspaNetwork expectedElChainId]

/-- The handle that `from_config` builds, before it touches the file. -/
def IgraStore.fromConfig (keccak256 : List UInt8 → List UInt8) (env : Environment)
    (config : IgraStoreConfig) : IgraStore :=
  let kaspaNetwork := sanitizeComponent (config.kaspaNetwork.getD "unknown") "unknown"
  let expectedElChainId := config.expectedElChainId.getD 0
  { dbPath := config.dbPath.getD (defaultDbPath env config kaspaNetwork expectedElChainId)
    kaspaNetwork := kaspaNetwork
    expectedElChainId := expectedElChainId
    senderLockTimeoutSecs := config.senderLockTimeoutSecs.getD defaultSenderLockTimeoutSecs
    elRpcFingerprint :=
      fingerprint keccak256 config.elRpcUrl expectedElChainId config.kaspaNetwork
    kaspaRpcFingerprint :=
      fingerprint keccak256 config.kaspaRpcUrl expectedElChainId config.kaspaNetwork
    completedRetentionHours :=
      config.completedRetentionHours.getD defaultCompletedRetentionHours
    failedRetentionHours := config.failedRetentionHours.getD defaultFailedRetentionHours
    maxDbSizeMb := config.maxDbSizeMb.getD defaultMaxDbSizeMb }

/-- The default path determines the network and the chain id it was built from. -/
theorem defaultDbPath_inj {env env' : Environment} {config config' : IgraStoreConfig}
    {network network' : String} {chainId chainId' : UInt64}
    (h : defaultDbPath env config network chainId = defaultDbPath env' config' network' chainId') :
    network = network' ∧ chainId = chainId' := by
  have hlast := congrArg List.getLast? h
  simp only [defaultDbPath, List.getLast?_append, List.getLast?_cons_cons,
    List.getLast?_singleton, Option.some_or, Option.some.injEq] at hlast
  have hchars := congrArg String.toList hlast
  simp only [dbFileName, String.toList_append, List.append_assoc, List.append_cancel_left_eq]
    at hchars
  rw [← List.append_assoc, ← List.append_assoc, ← List.append_assoc, ← List.append_assoc,
    List.append_left_inj] at hchars
  have hdash {n : UInt64} : '-' ∉ (toString n).toList := fun hmem =>
    absurd (isDigit_of_mem_toString hmem) (by decide)
  simp only [List.append_assoc] at hchars
  obtain ⟨hn, hc⟩ := append_cons_inj hdash hdash hchars
  exact ⟨String.toList_inj.mp hn, toString_inj.mp (String.toList_inj.mp hc)⟩

/-! ### Profiles -/

/-- The profile a store was opened for. -/
@[ext]
structure Profile where
  expectedElChainId : UInt64
  kaspaNetwork : String
  elRpcFingerprint : Option String
  kaspaRpcFingerprint : Option String
  deriving DecidableEq

/-- The profile of a store. -/
def IgraStore.profile (store : IgraStore) : Profile :=
  ⟨store.expectedElChainId, store.kaspaNetwork, store.elRpcFingerprint,
    store.kaspaRpcFingerprint⟩

def schemaVersionKey : String := "tx_map_schema_version"
def schemaVersionValue : String := "1"
def profileChainIdKey : String := "profile.expected_el_chain_id"
def profileKaspaNetworkKey : String := "profile.kaspa_network"
def profileElRpcFingerprintKey : String := "profile.el_rpc_fingerprint"
def profileKaspaRpcFingerprintKey : String := "profile.kaspa_rpc_fingerprint"

/-- `metadata_value`. -/
def metadataValue (db : Db) (key : String) : Option String :=
  (db.schemaMeta.find? key).map MetaRow.value

/-- `set_metadata_value`; a missing value deletes the row. -/
def setMetadataValue (db : Db) (key : String) : Option String → Db
  | some value => { db with schemaMeta := db.schemaMeta.upsert ⟨key, value⟩ }
  | none => { db with schemaMeta := db.schemaMeta.deleteWhere fun r => r.key = key }

@[simp] theorem metadataValue_set (db : Db) (key : String) (value : Option String) (k : String) :
    metadataValue (setMetadataValue db key value) k =
      if key = k then value else metadataValue db k := by
  cases value with
  | some value =>
    simp only [metadataValue, setMetadataValue, Table.find?_upsert]
    split_ifs <;> rfl
  | none =>
    simp only [metadataValue, setMetadataValue, Table.find?_deleteWhere]
    cases hr : db.schemaMeta.find? k with
    | none => simp
    | some r =>
      have hkey : r.key = k := Table.key_of_find? hr
      subst hkey
      by_cases h : key = r.key
      · rw [if_pos h, Option.filter_some_neg (by simp [h]), Option.map_none]
      · rw [if_neg h, Option.filter_some_pos (by simp [Ne.symm h])]

/-- The profile recorded in the file is `p`. -/
def Db.Records (db : Db) (p : Profile) : Prop :=
  metadataValue db profileChainIdKey = some (toString p.expectedElChainId) ∧
    metadataValue db profileKaspaNetworkKey = some p.kaspaNetwork ∧
    metadataValue db profileElRpcFingerprintKey = p.elRpcFingerprint ∧
    metadataValue db profileKaspaRpcFingerprintKey = p.kaspaRpcFingerprint

theorem Db.Records.congr {db db' : Db} {p : Profile} (h : db.Records p)
    (hmeta : db'.schemaMeta = db.schemaMeta) : db'.Records p := by
  simpa only [Records, metadataValue, hmeta] using h

/-! ### Opening -/

/-- `migrate` on a file that has its tables: only the schema version is written. -/
def migrate (db : Db) : Db :=
  setMetadataValue db schemaVersionKey (some schemaVersionValue)

/-- The comparison of `reconcile_profile_cache`. A chain id or a network that is not recorded
does not count as changed; a fingerprint that is not recorded does. -/
def profileChanged (store : IgraStore) (db : Db) : Bool :=
  (metadataValue db profileChainIdKey).any (· ≠ toString store.expectedElChainId) ||
    (metadataValue db profileKaspaNetworkKey).any (· ≠ store.kaspaNetwork) ||
    decide (metadataValue db profileElRpcFingerprintKey ≠ store.elRpcFingerprint) ||
    decide (metadataValue db profileKaspaRpcFingerprintKey ≠ store.kaspaRpcFingerprint)

/-- `DELETE FROM` the three tables of cached rows. -/
def wipe (db : Db) : Db :=
  { db with txMap := .empty, senderNonceState := .empty, senderLocks := .empty }

/-- The four writes of the profile. -/
def setProfile (store : IgraStore) (db : Db) : Db :=
  let db := setMetadataValue db profileChainIdKey (some (toString store.expectedElChainId))
  let db := setMetadataValue db profileKaspaNetworkKey (some store.kaspaNetwork)
  let db := setMetadataValue db profileElRpcFingerprintKey store.elRpcFingerprint
  setMetadataValue db profileKaspaRpcFingerprintKey store.kaspaRpcFingerprint

/-- `reconcile_profile_cache`. -/
def reconcileProfileCache (store : IgraStore) (db : Db) : Db :=
  setProfile store (if profileChanged store db then wipe db else db)

/-- What `IgraStore::new` does to the file: migrate, reconcile, prune. -/
def initializeCache (store : IgraStore) (now : UInt64) (fileSize : ℕ → UInt64) (db : Db) : Db :=
  pruneCache store now fileSize (reconcileProfileCache store (migrate db))

/-- `IgraStore::new`: the handle and the initialized file. -/
def IgraStore.new (keccak256 : List UInt8 → List UInt8) (env : Environment)
    (config : IgraStoreConfig) (now : UInt64) (fileSize : ℕ → UInt64) (db : Db) : IgraStore × Db :=
  let store := IgraStore.fromConfig keccak256 env config
  (store, initializeCache store now fileSize db)

/-- `IgraStore::open_read_only`: the handle alone, the file is left as it is. -/
def IgraStore.openReadOnly (keccak256 : List UInt8 → List UInt8) (env : Environment)
    (config : IgraStoreConfig) : IgraStore :=
  IgraStore.fromConfig keccak256 env config

theorem setMetadataValue_frame (db : Db) (key : String) (value : Option String) :
    (setMetadataValue db key value).txMap = db.txMap ∧
      (setMetadataValue db key value).senderNonceState = db.senderNonceState ∧
      (setMetadataValue db key value).senderLocks = db.senderLocks := by
  cases value <;> exact ⟨rfl, rfl, rfl⟩

theorem setProfile_frame (store : IgraStore) (db : Db) :
    (setProfile store db).txMap = db.txMap ∧
      (setProfile store db).senderNonceState = db.senderNonceState ∧
      (setProfile store db).senderLocks = db.senderLocks := by
  simp only [setProfile, setMetadataValue_frame, and_self]

/-- After the reconciliation the recorded profile is the store's. -/
theorem records_reconcile (store : IgraStore) (db : Db) :
    (reconcileProfileCache store db).Records store.profile := by
  simp [Db.Records, reconcileProfileCache, setProfile, IgraStore.profile, profileChainIdKey,
    profileKaspaNetworkKey, profileElRpcFingerprintKey, profileKaspaRpcFingerprintKey]

/-- On a recorded profile the comparison is exact. -/
theorem profileChanged_eq_false_iff {store : IgraStore} {db : Db} {p : Profile}
    (h : db.Records p) : profileChanged store db = false ↔ p = store.profile := by
  obtain ⟨hc, hn, he, hk⟩ := h
  rw [profileChanged, hc, hn, he, hk]
  simp only [Option.any_some, Bool.or_eq_false_iff, decide_eq_false_iff_not, ne_eq, not_not,
    toString_inj, IgraStore.profile, Profile.ext_iff, and_assoc]

theorem records_migrate {db : Db} {p : Profile} (h : db.Records p) : (migrate db).Records p := by
  simpa [Db.Records, migrate, schemaVersionKey, profileChainIdKey, profileKaspaNetworkKey,
    profileElRpcFingerprintKey, profileKaspaRpcFingerprintKey] using h

/-- A reconciliation wipes the cached rows when the profile changed and keeps them otherwise. -/
theorem reconcileProfileCache_tables (store : IgraStore) (db : Db) :
    (reconcileProfileCache store db).txMap =
        (if profileChanged store db then Table.empty else db.txMap) ∧
      (reconcileProfileCache store db).senderNonceState =
        (if profileChanged store db then Table.empty else db.senderNonceState) ∧
      (reconcileProfileCache store db).senderLocks =
        (if profileChanged store db then Table.empty else db.senderLocks) := by
  have h := setProfile_frame store (if profileChanged store db then wipe db else db)
  rw [reconcileProfileCache, h.1, h.2.1, h.2.2]
  cases profileChanged store db <;> exact ⟨rfl, rfl, rfl⟩

end FoundryIgra.Store
