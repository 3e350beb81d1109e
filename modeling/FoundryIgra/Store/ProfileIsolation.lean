import FoundryIgra.Store.LeaseExclusion
import FoundryIgra.Store.Profile

/-!
# Profiles that share a file

Histories of one database file under opens and operations of any number of stores. A read-write
open is its three transactions, which other processes may come between; a read-only open leaves no
trace, so at any time there may be live stores of any profile.

The recorded profile is that of the last reconciliation. As long as every operation that writes
cached state goes through a store of that profile, all cached state belongs to it
(`History.isolated`).

## Main definitions

* `Step`, `History`: what happens to a file.
* `current`: the profile of the last read-write open.
* `WritesInProfile`: the discipline under which profiles do not mix.
* `nonceWriter`: the profile under which an expected nonce was written.

## Main results

* `cachedState_in_profile`: records and expected nonces of a disciplined history belong to the
  current profile.
* `senderLocks_initializeCache`: when opening a store keeps the sender locks.
-/

namespace FoundryIgra.Store

open Relational Rust

/-- An operation that writes `tx_map` or `sender_nonce_state`. -/
def StoreOp.writesCache : StoreOp → Bool
  | .persist .. => true
  | .classify .. => true
  | .markSubmitted .. => true
  | .acquireAndClassify .. => true
  | _ => false

/-- A transaction on the shared file: the parts of a read-write open, and the operations. -/
inductive Step
  | migrate
  | reconcile (store : IgraStore)
  | commit (store : IgraStore) (op : StoreOp)

/-- The file after a step; `none` when the step fails and is rolled back. -/
def Step.apply (db : Db) : Step → Option Db
  | migrate => some (Store.migrate db)
  | reconcile store => some (reconcileProfileCache store db)
  | commit store op => op.commit store db

/-- A step with the file before and after it. -/
structure Moment where
  step : Step
  before : Db
  after : Db

/-- `History ms db`: the steps `ms`, most recent first, lead from a fresh file to `db`. -/
inductive History : List Moment → Db → Prop
  | nil : History [] Db.empty
  | step {ms : List Moment} {db db' : Db} (h : History ms db) (s : Step)
      (hs : s.apply db = some db') : History (⟨s, db, db'⟩ :: ms) db'

/-- The profile a step opens the file for. -/
def Step.opened : Step → Option Profile
  | reconcile store => some store.profile
  | _ => none

/-- The profile of the last read-write open. -/
def current (ms : List Moment) : Option Profile :=
  ms.findSome? fun m => m.step.opened

/-- A step that writes cached state only through a store of the profile `p`. -/
def Step.WritesUnder (p : Option Profile) : Step → Prop
  | commit store op => op.writesCache = true → p = some store.profile
  | _ => True

/-- Every write of cached state goes through a store of the profile of the last read-write
open. -/
def WritesInProfile : List Moment → Prop
  | [] => True
  | m :: ms => m.step.WritesUnder (current ms) ∧ WritesInProfile ms

/-- The profile of the store whose operation last changed the expected nonce of `sender`. -/
def nonceWriter (sender : String) : List Moment → Option Profile
  | [] => none
  | m :: ms =>
    if m.after.senderNonceState.find? sender = m.before.senderNonceState.find? sender then
      nonceWriter sender ms
    else
      match m.step with
      | .commit store _ => some store.profile
      | _ => none

/-- The profile a row was written under. -/
def TxMapRow.profile (r : TxMapRow) : Profile :=
  ⟨r.chainId.toUInt64, r.kaspaNetwork, r.elRpcFingerprint, r.kaspaRpcFingerprint⟩

/-- The profile a record carries. -/
def TxMapRecord.profile (r : TxMapRecord) : Profile :=
  ⟨r.chainId, r.kaspaNetwork, r.elRpcFingerprint, r.kaspaRpcFingerprint⟩

theorem profile_toRecord {r : TxMapRow} {t : TxMapRecord} (h : r.toRecord = .ok t) :
    t.profile = r.profile := by
  rw [TxMapRow.toRecord] at h
  split at h
  next => cases h
  next =>
    obtain rfl := Except.ok.inj h
    rfl

theorem profile_row (store : IgraStore) (u : TxLifecycleUpdate) (attempts : UInt32)
    (createdAtMs now : UInt64) : (u.row store attempts createdAtMs now).profile = store.profile := by
  simp [TxLifecycleUpdate.row, TxMapRow.profile, IgraStore.profile]

/-- A loaded record comes from a row of its profile. -/
theorem exists_row_of_loadTx {db : Db} {hash : String} {t : TxMapRecord}
    (h : loadTx db hash = .ok (some t)) : ∃ r ∈ db.txMap.rows, t.profile = r.profile := by
  rw [loadTx] at h
  cases hr : db.txMap.find? hash with
  | none => simp [hr] at h
  | some r =>
    simp only [hr] at h
    cases ht : r.toRecord with
    | error err => simp [ht, Except.map] at h
    | ok t' =>
      have htt' : t' = t := by simpa [ht, Except.map] using h
      exact ⟨r, (Table.find?_eq_some.mp hr).1, htt' ▸ profile_toRecord ht⟩

/-! ### What an operation writes -/

/-- **What an operation writes.** Metadata are left alone, a new row of `tx_map` carries the
profile of the store, and only a writing operation changes an expected nonce. -/
theorem StoreOp.commit_writes {store : IgraStore} {db db' : Db} {op : StoreOp}
    (h : op.commit store db = some db') :
    db'.schemaMeta = db.schemaMeta ∧
      (∀ r ∈ db'.txMap.rows,
        r ∈ db.txMap.rows ∨ op.writesCache = true ∧ r.profile = store.profile) ∧
      (op.writesCache = false → db'.senderNonceState = db.senderNonceState) := by
  cases op with
  | acquire sender ownerId now =>
    obtain rfl := Option.some_inj.mp h
    rw [tryAcquireSenderLockOnce]
    split_ifs
    · exact ⟨rfl, fun r hr => Or.inl hr, fun _ => rfl⟩
    · exact ⟨rfl, fun r hr => Or.inl hr, fun _ => rfl⟩
  | acquireAndClassify sender ownerId nonce l2TxHash now classifyNow =>
    obtain ⟨⟨o, db''⟩, ho, rfl⟩ := Option.map_eq_some_iff.mp h
    rcases tryAcquireSenderLockAndClassifyOnce_cases (toOption_eq_some.mp ho) with
      ⟨-, rfl⟩ | ⟨ordering, -, -, hc⟩
    · exact ⟨rfl, fun r hr => Or.inl hr, fun _ => rfl⟩
    · have hframe := classifyNonceInTx_frame hc
      exact ⟨hframe.2.2, fun r hr => Or.inl (hframe.1 ▸ hr), fun hw => Bool.noConfusion hw⟩
  | release sender ownerId =>
    obtain rfl := Option.some_inj.mp h
    exact ⟨rfl, fun r hr => Or.inl hr, fun _ => rfl⟩
  | persist update now =>
    obtain rfl := Option.some_inj.mp h
    refine ⟨rfl, fun r hr => ?_, fun hw => Bool.noConfusion hw⟩
    rcases Table.mem_upsert.mp hr with rfl | ⟨hr, -⟩
    · exact Or.inr ⟨rfl, profile_row ..⟩
    · exact Or.inl hr
  | classify sender nonce now =>
    obtain ⟨⟨o, db''⟩, ho, rfl⟩ := Option.map_eq_some_iff.mp h
    have hframe := classifyNonceInTx_frame (toOption_eq_some.mp ho)
    exact ⟨hframe.2.2, fun r hr => Or.inl (hframe.1 ▸ hr), fun hw => Bool.noConfusion hw⟩
  | markSubmitted sender nonce now =>
    rcases markSubmittedInOrderNonce_cases (toOption_eq_some.mp h) with rfl | ⟨_, -, -, rfl⟩
    · exact ⟨rfl, fun r hr => Or.inl hr, fun hw => Bool.noConfusion hw⟩
    · exact ⟨rfl, fun r hr => Or.inl hr, fun hw => Bool.noConfusion hw⟩
  | prune now fileSize =>
    obtain rfl := Option.some_inj.mp h
    have hframe := pruneCache_frame store now fileSize db
    exact ⟨hframe.2.2, fun r hr => Or.inl (pruneCache_rows_subset _ _ _ _ hr),
      fun _ => hframe.1⟩

/-! ### Isolation -/

/-- All cached state of the file belongs to the current profile, which is recorded. -/
structure Isolated (ms : List Moment) (db : Db) : Prop where
  recorded : ∀ p, current ms = some p → db.Records p
  txMap : ∀ r ∈ db.txMap.rows, current ms = some r.profile
  nonces : ∀ sender row, db.senderNonceState.find? sender = some row →
    ∃ p, current ms = some p ∧ nonceWriter sender ms = some p

theorem Isolated.migrate {ms : List Moment} {db : Db} (h : Isolated ms db) :
    Isolated (⟨.migrate, db, Store.migrate db⟩ :: ms) (Store.migrate db) := by
  obtain ⟨htx, hnonce, -⟩ :=
    setMetadataValue_frame db schemaVersionKey (some schemaVersionValue)
  refine ⟨fun p hp => records_migrate (h.recorded p hp), fun r hr => h.txMap r (htx ▸ hr),
    fun sender row hrow => ?_⟩
  have hsame : (Store.migrate db).senderNonceState = db.senderNonceState := hnonce
  rw [hsame] at hrow
  obtain ⟨p, hp, hw⟩ := h.nonces sender row hrow
  refine ⟨p, hp, ?_⟩
  rw [nonceWriter, if_pos (by rw [hsame])]
  exact hw

theorem Isolated.reconcile {ms : List Moment} {db : Db} (h : Isolated ms db) (store : IgraStore) :
    Isolated (⟨.reconcile store, db, reconcileProfileCache store db⟩ :: ms)
      (reconcileProfileCache store db) := by
  obtain ⟨htx, hnonce, -⟩ := reconcileProfileCache_tables store db
  -- rows survive only when the profile is still the recorded one
  have hkeep : ∀ p, current ms = some p → profileChanged store db = false → p = store.profile :=
    fun p hp hch => (profileChanged_eq_false_iff (h.recorded p hp)).mp hch
  refine ⟨?_, fun r hr => ?_, fun sender row hrow => ?_⟩
  · rintro p hp
    obtain rfl : store.profile = p := Option.some_inj.mp hp
    exact records_reconcile store db
  · rw [htx] at hr
    cases hch : profileChanged store db with
    | true => simp [hch] at hr
    | false =>
      rw [hch] at hr
      exact congrArg some (hkeep _ (h.txMap r hr) hch).symm
  · rw [hnonce] at hrow
    cases hch : profileChanged store db with
    | true => simp [hch] at hrow
    | false =>
      rw [hch] at hrow
      obtain ⟨p, hp, hw⟩ := h.nonces sender row hrow
      have hsame : (reconcileProfileCache store db).senderNonceState = db.senderNonceState := by
        rw [hnonce, hch]
        rfl
      refine ⟨p, congrArg some (hkeep p hp hch).symm, ?_⟩
      rw [nonceWriter, if_pos (by rw [hsame])]
      exact hw

theorem Isolated.commit {ms : List Moment} {db db' : Db} (h : Isolated ms db) {store : IgraStore}
    {op : StoreOp} (hc : op.commit store db = some db')
    (hw : op.writesCache = true → current ms = some store.profile) :
    Isolated (⟨.commit store op, db, db'⟩ :: ms) db' := by
  obtain ⟨hmeta, htx, hnonce⟩ := StoreOp.commit_writes hc
  refine ⟨fun p hp => (h.recorded p hp).congr hmeta, fun r hr => ?_, fun sender row hrow => ?_⟩
  · rcases htx r hr with hr | ⟨hop, hp⟩
    · exact h.txMap r hr
    · exact hp ▸ hw hop
  · by_cases hsame : db'.senderNonceState.find? sender = db.senderNonceState.find? sender
    · obtain ⟨p, hp, hwr⟩ := h.nonces sender row (hsame ▸ hrow)
      refine ⟨p, hp, ?_⟩
      rw [nonceWriter, if_pos hsame]
      exact hwr
    · have hop : op.writesCache = true := by
        by_contra hop
        exact hsame (by rw [hnonce (by simpa using hop)])
      refine ⟨store.profile, hw hop, ?_⟩
      rw [nonceWriter, if_neg hsame]

theorem History.isolated {ms : List Moment} {db : Db} (h : History ms db)
    (hd : WritesInProfile ms) : Isolated ms db := by
  induction h with
  | nil => exact ⟨by simp [current], by simp [Db.empty], by simp [Db.empty]⟩
  | step h s hs ih =>
    obtain ⟨hw, hd⟩ := hd
    cases s with
    | migrate =>
      obtain rfl := Option.some_inj.mp hs
      exact (ih hd).migrate
    | reconcile store =>
      obtain rfl := Option.some_inj.mp hs
      exact (ih hd).reconcile store
    | commit store op => exact (ih hd).commit hs hw

/-- **Cached state of one profile.** When every write of cached state goes through a store of the
profile of the last read-write open, a store of that profile loads only records of it, and every
expected nonce was written under it. -/
theorem cachedState_in_profile {ms : List Moment} {db : Db} {store : IgraStore}
    (h : History ms db) (hwrites : WritesInProfile ms) (hstore : current ms = some store.profile) :
    (∀ hash t, loadTx db hash = .ok (some t) → t.profile = store.profile) ∧
      ∀ sender e, nextExpectedNonce db sender = some e →
        nonceWriter sender ms = some store.profile := by
  have hiso := h.isolated hwrites
  constructor
  · rintro hash t ht
    obtain ⟨r, hr, hp⟩ := exists_row_of_loadTx ht
    have hcur := hiso.txMap r hr
    rw [hstore] at hcur
    exact hp.trans (Option.some_inj.mp hcur).symm
  · rintro sender e he
    obtain ⟨row, hrow, -⟩ := Option.map_eq_some_iff.mp he
    obtain ⟨p, hp, hw⟩ := hiso.nonces sender row hrow
    exact hw.trans (hp.symm.trans hstore)

/-! ### Two profiles on one file -/

section TwoProfiles

/-- The environment of a process without `HOME`. -/
def bareEnvironment : Environment := ⟨none, ["tmp"]⟩

/-- A config for the network `network` with the chain id `chainId` and no endpoints. -/
def offlineConfig (network : String) (chainId : UInt64) : IgraStoreConfig where
  dbPath := some ["tmp", "igra.sqlite"]
  cacheDir := none
  kaspaNetwork := some network
  expectedElChainId := some chainId
  elRpcUrl := none
  kaspaRpcUrl := none
  senderLockTimeoutSecs := none
  completedRetentionHours := none
  failedRetentionHours := none
  maxDbSizeMb := none

/-- A store on testnet-10; without endpoints nothing is hashed. -/
def testnetStore : IgraStore :=
  IgraStore.fromConfig (fun _ => []) bareEnvironment (offlineConfig "testnet-10" 1337)

/-- A store on the main network, opened read-only on the same file. -/
def mainnetReader : IgraStore :=
  IgraStore.openReadOnly (fun _ => []) bareEnvironment (offlineConfig "mainnet" 1)

/-- A broadcast transaction. -/
def broadcastUpdate : TxLifecycleUpdate where
  l2TxHash := "0xdeadbeef"
  sender := "0x3333333333333333333333333333333333333333"
  l2Nonce := 3
  payloadNonce := some 3
  kaspaTxId := some "kaspa-a"
  state := .kaspaBroadcasted
  correlationId := "corr-a"
  lastErrorCode := none
  lastErrorMessage := none
  incrementAttempts := false

/-- A read-only store of the main network loads the record that a store on testnet-10 wrote. -/
theorem loadTx_crosses_profiles :
    ∃ ms db, History ms db ∧ mainnetReader.dbPath = testnetStore.dbPath ∧
      loadTx db "0xdeadbeef" = .ok (some (broadcastUpdate.record testnetStore 0 5 5)) ∧
      (broadcastUpdate.record testnetStore 0 5 5).profile ≠ mainnetReader.profile := by
  have h : History _ _ :=
    .step (.step (.step .nil .migrate rfl) (.reconcile testnetStore) rfl)
      (.commit testnetStore (.persist broadcastUpdate 5)) rfl
  exact ⟨_, _, h, by decide +kernel, by decide +kernel, by decide +kernel⟩

/-- The store that wrote a record and an expected nonce reads them back under its own profile. -/
theorem cachedState_in_profile_testnet :
    ∃ ms db, History ms db ∧ (∃ t, loadTx db "0xdeadbeef" = .ok (some t) ∧
        t.profile = testnetStore.profile) ∧
      nextExpectedNonce db broadcastUpdate.sender = some 4 ∧
      nonceWriter broadcastUpdate.sender ms = some testnetStore.profile := by
  have h : History _ _ :=
    .step (.step (.step (.step .nil .migrate rfl) (.reconcile testnetStore) rfl)
      (.commit testnetStore (.persist broadcastUpdate 5)) rfl)
      (.commit testnetStore (.markSubmitted broadcastUpdate.sender 3 6)) rfl
  obtain ⟨hload, hnonce⟩ := cachedState_in_profile h
    ⟨fun _ => rfl, fun _ => rfl, trivial, trivial, trivial⟩ rfl
  have ht := hload "0xdeadbeef" (broadcastUpdate.record testnetStore 0 5 5) (by decide +kernel)
  have hn := hnonce broadcastUpdate.sender 4 (by decide +kernel)
  exact ⟨_, _, h, ⟨_, by decide +kernel, ht⟩, by decide +kernel, hn⟩

end TwoProfiles

/-! ### Opening and the sender locks -/

section SenderLocks

variable (keccak256 : List UInt8 → List UInt8) (path : List String)

/-- A store of some process whose default path is `path`. -/
def AtDefaultPath (store : IgraStore) : Prop :=
  ∃ env config, config.dbPath = none ∧ store = IgraStore.fromConfig keccak256 env config ∧
    store.dbPath = path

/-- Every read-write open of the history is of a store whose default path is `path`. -/
def OpenedAt (ms : List Moment) : Prop :=
  ∀ m ∈ ms, ∀ store, m.step = .reconcile store → AtDefaultPath keccak256 path store

variable {keccak256 path}

/-- Without a path of its own a store is at the default path of its network and chain id. -/
theorem dbPath_fromConfig {env : Environment} {config : IgraStoreConfig}
    (h : config.dbPath = none) :
    (IgraStore.fromConfig keccak256 env config).dbPath =
      defaultDbPath env config (IgraStore.fromConfig keccak256 env config).kaspaNetwork
        (IgraStore.fromConfig keccak256 env config).expectedElChainId := by
  simp only [IgraStore.fromConfig, h, Option.getD_none]

/-- Stores at one default path agree on the network and the chain id. -/
theorem AtDefaultPath.agree {a b : IgraStore} (ha : AtDefaultPath keccak256 path a)
    (hb : AtDefaultPath keccak256 path b) :
    a.kaspaNetwork = b.kaspaNetwork ∧ a.expectedElChainId = b.expectedElChainId := by
  obtain ⟨env, config, hnone, rfl, hpath⟩ := ha
  obtain ⟨env', config', hnone', rfl, hpath'⟩ := hb
  have heq := hpath.trans hpath'.symm
  rw [dbPath_fromConfig hnone, dbPath_fromConfig hnone'] at heq
  exact defaultDbPath_inj heq

/-- The recorded network and chain id, where there are any, are those of `store`. -/
def RecordsPathOf (store : IgraStore) (db : Db) : Prop :=
  (∀ v, metadataValue db profileChainIdKey = some v → v = toString store.expectedElChainId) ∧
    ∀ v, metadataValue db profileKaspaNetworkKey = some v → v = store.kaspaNetwork

theorem recordsPathOf_migrate {store : IgraStore} {db : Db} (h : RecordsPathOf store db) :
    RecordsPathOf store (migrate db) := by
  simpa [RecordsPathOf, migrate, schemaVersionKey, profileChainIdKey, profileKaspaNetworkKey]
    using h

theorem History.recordsPathOf {ms : List Moment} {db : Db} {store : IgraStore}
    (h : History ms db) (hms : OpenedAt keccak256 path ms)
    (hstore : AtDefaultPath keccak256 path store) : RecordsPathOf store db := by
  induction h with
  | nil => exact ⟨nofun, nofun⟩
  | step h s hs ih =>
    have ih := ih fun m hm => hms m (List.mem_cons_of_mem _ hm)
    cases s with
    | migrate =>
      obtain rfl := Option.some_inj.mp hs
      exact recordsPathOf_migrate ih
    | reconcile other =>
      obtain rfl := Option.some_inj.mp hs
      obtain ⟨hn, hc⟩ := (hms _ List.mem_cons_self other rfl).agree hstore
      obtain ⟨hchain, hnetwork, -, -⟩ := records_reconcile other _
      refine ⟨fun v hv => ?_, fun v hv => ?_⟩
      · rw [← hc]
        exact Option.some_inj.mp (hv.symm.trans hchain)
      · rw [← hn]
        exact Option.some_inj.mp (hv.symm.trans hnetwork)
    | commit other op =>
      simpa only [RecordsPathOf, metadataValue, (StoreOp.commit_writes hs).1] using ih

/-- At a default path only the fingerprints can differ from the recorded profile. -/
theorem profileChanged_iff_of_recordsPathOf {store : IgraStore} {db : Db}
    (h : RecordsPathOf store db) : profileChanged store db = true ↔
      ¬(metadataValue db profileElRpcFingerprintKey = store.elRpcFingerprint ∧
        metadataValue db profileKaspaRpcFingerprintKey = store.kaspaRpcFingerprint) := by
  obtain ⟨hchain, hnetwork⟩ := h
  have hc : (metadataValue db profileChainIdKey).any (· ≠ toString store.expectedElChainId) =
      false := by
    cases hv : metadataValue db profileChainIdKey with
    | none => rfl
    | some v => simp [hchain v hv]
  have hn : (metadataValue db profileKaspaNetworkKey).any (· ≠ store.kaspaNetwork) = false := by
    cases hv : metadataValue db profileKaspaNetworkKey with
    | none => rfl
    | some v => simp [hnetwork v hv]
  rw [profileChanged, hc, hn]
  simp [or_iff_not_imp_left]

theorem senderLocks_initialize_eq (store : IgraStore) (now : UInt64) (fileSize : ℕ → UInt64)
    (db : Db) : (initializeCache store now fileSize db).senderLocks =
      if profileChanged store (migrate db) then Table.empty else db.senderLocks := by
  rw [initializeCache, (pruneCache_frame ..).2.1, (reconcileProfileCache_tables ..).2.2]
  split_ifs
  · rfl
  · exact (setMetadataValue_frame ..).2.2

/-- **What opening a store does to the sender locks.** At a default path, a config whose
fingerprints are the recorded ones keeps every lock row as it is; any other config deletes every
lock row. -/
theorem senderLocks_initializeCache {ms : List Moment} {db : Db} {env : Environment}
    {config : IgraStoreConfig} (h : History ms db) (hms : OpenedAt keccak256 path ms)
    (hdefault : config.dbPath = none)
    (hpath : (IgraStore.fromConfig keccak256 env config).dbPath = path)
    (now : UInt64) (fileSize : ℕ → UInt64) :
    let store := IgraStore.fromConfig keccak256 env config
    let db' := initializeCache store now fileSize db
    let recorded := metadataValue db profileElRpcFingerprintKey = store.elRpcFingerprint ∧
      metadataValue db profileKaspaRpcFingerprintKey = store.kaspaRpcFingerprint
    (recorded → db'.senderLocks = db.senderLocks) ∧
      (¬recorded → ∀ sender, db'.senderLocks.find? sender = none) := by
  rintro store db' recorded
  have hstore : AtDefaultPath keccak256 path store := ⟨env, config, hdefault, rfl, hpath⟩
  have hchanged := profileChanged_iff_of_recordsPathOf
    (recordsPathOf_migrate (h.recordsPathOf hms hstore))
  have hfps : (metadataValue (migrate db) profileElRpcFingerprintKey = store.elRpcFingerprint ∧
      metadataValue (migrate db) profileKaspaRpcFingerprintKey = store.kaspaRpcFingerprint) ↔
      recorded := by
    simp [migrate, schemaVersionKey, profileElRpcFingerprintKey, profileKaspaRpcFingerprintKey,
      recorded]
  rw [hfps] at hchanged
  have hlocks := senderLocks_initialize_eq store now fileSize db
  constructor
  · intro hrec
    rw [hlocks, if_neg (fun hch => hchanged.mp hch hrec)]
  · intro hrec sender
    rw [hlocks, if_pos (hchanged.mpr hrec)]
    rfl

/-- A config at the default path, with an optional execution-layer endpoint. -/
def sharedConfig (elRpcUrl : Option String) : IgraStoreConfig :=
  { offlineConfig "testnet-10" 1337 with dbPath := none, elRpcUrl := elRpcUrl }

/-- The hash function, at the one text that is hashed below:
`http://127.0.0.1:8545|1337|testnet-10`. -/
def localEndpointDigest : List UInt8 → List UInt8 := fun bytes =>
  if bytes = utf8 "http://127.0.0.1:8545|1337|testnet-10" then
    [0x2b, 0x79, 0x5c, 0x72, 0xbe, 0xc6, 0xee, 0x1f, 0xf0, 0xaa, 0xb1, 0x76, 0xef, 0x0e, 0xa7,
      0x65, 0x1f, 0x9d, 0x52, 0x7d, 0x6b, 0x0b, 0x15, 0xd0, 0x39, 0x1e, 0xec, 0xcc, 0x7b, 0x6e,
      0xb5, 0x3c]
  else []

/-- The store of the process that holds the lock. -/
def sharedStore : IgraStore :=
  IgraStore.fromConfig localEndpointDigest bareEnvironment (sharedConfig none)

/-- The file of a process that opened the default path and took a sender lock at time 0, which
expires at 120000. -/
theorem exists_history_locked : ∃ ms db, History ms db ∧
    OpenedAt localEndpointDigest sharedStore.dbPath ms ∧
    db = (tryAcquireSenderLockOnce (reconcileProfileCache sharedStore (migrate Db.empty)) "0x1111"
      "owner-a" 0 sharedStore.leaseMs).2 := by
  have h : History _ _ :=
    .step (.step (.step .nil .migrate rfl) (.reconcile sharedStore) rfl)
      (.commit sharedStore (.acquire "0x1111" "owner-a" 0)) rfl
  refine ⟨_, _, h, ?_, rfl⟩
  have hat : AtDefaultPath localEndpointDigest sharedStore.dbPath sharedStore :=
    ⟨bareEnvironment, sharedConfig none, rfl, rfl, rfl⟩
  simp [OpenedAt, hat]

/-- A second process that opens the same path with another endpoint at time 1000 deletes the lock
that is held until 120000. -/
theorem senderLocks_new_revokes :
    ∃ ms db, History ms db ∧ OpenedAt localEndpointDigest sharedStore.dbPath ms ∧
      (IgraStore.fromConfig localEndpointDigest bareEnvironment
        (sharedConfig (some "http://127.0.0.1:8545"))).dbPath = sharedStore.dbPath ∧
      lockHolder db "0x1111" = some ("owner-a", 120000) ∧
      lockHolder (IgraStore.new localEndpointDigest bareEnvironment
        (sharedConfig (some "http://127.0.0.1:8545")) 1000 (fun _ => 4096) db).2 "0x1111" =
        none := by
  obtain ⟨ms, db, h, hms, rfl⟩ := exists_history_locked
  exact ⟨ms, _, h, hms, rfl, by decide +kernel, by decide +kernel⟩

/-- A second process with the same endpoints keeps the lock. -/
theorem senderLocks_initializeCache_reopen :
    ∃ ms db, History ms db ∧ lockHolder (IgraStore.new localEndpointDigest bareEnvironment
      (sharedConfig none) 1000 (fun _ => 4096) db).2 "0x1111" = some ("owner-a", 120000) := by
  obtain ⟨ms, db, h, hms, rfl⟩ := exists_history_locked
  have hpath : (IgraStore.fromConfig localEndpointDigest bareEnvironment
      (sharedConfig none)).dbPath = sharedStore.dbPath := rfl
  have hkeep := (senderLocks_initializeCache h hms rfl hpath 1000 fun _ => 4096).1
    (by decide +kernel)
  refine ⟨ms, _, h, ?_⟩
  rw [IgraStore.new, lockHolder_congr hkeep]
  decide +kernel

end SenderLocks

end FoundryIgra.Store
