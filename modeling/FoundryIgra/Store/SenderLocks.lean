import FoundryIgra.Concurrency.Lease
import FoundryIgra.Store.SenderNonces

/-!
# Sender locks

The lock table of the store (`store.rs`, `try_acquire_sender_lock_once`,
`try_acquire_sender_lock_and_classify_once`, `release_sender_lock`) and one round of the polling
loops of `acquire_sender_lock` and `acquire_sender_lock_and_classify_nonce`. A lock row of a
sender is a lease cell: both acquisition paths admit an owner exactly when the cell does
(`canAcquire_iff_admits`), and a release gives back only the owner's own cell
(`lockHolder_release`).

## Main definitions

* `timeoutMs`, `leaseMs`: the waiting time and the lease of a store.
* `tryAcquireSenderLockOnce`, `tryAcquireSenderLockAndClassifyOnce`, `releaseSenderLock`.
* `pollSenderLock`, `pollSenderLockAndClassifyNonce`: one round of the acquisition loops.
* `lockHolder`: the lock row of a sender as a lease cell.
-/

namespace FoundryIgra.Store

open Relational Rust

/-- Poll interval and clock readings are in milliseconds; `sender_lock_timeout_secs` is not. -/
def IgraStore.timeoutMs (store : IgraStore) : UInt64 :=
  saturatingMul store.senderLockTimeoutSecs 1000

/-- The lease outlives the acquisition timeout: twice the timeout. -/
def IgraStore.leaseMs (store : IgraStore) : UInt64 :=
  saturatingMul store.timeoutMs 2

/-- The expiry recorded by an acquisition at the reading `now`. -/
def IgraStore.leaseExpiry (store : IgraStore) (now : UInt64) : UInt64 :=
  saturatingAdd now store.leaseMs

/-- The lock row of `sender` lets `owner` in at the reading `nowMs`. -/
def canAcquire (db : Db) (sender ownerId : String) (nowMs : UInt64) : Bool :=
  match db.senderLocks.find? sender with
  | none => true
  | some existing => existing.ownerId = ownerId ∨ existing.expiresAtMs.toUInt64 < nowMs

/-- The upsert of a lock row that both acquisition paths execute. -/
def writeSenderLock (db : Db) (sender ownerId : String) (nowMs leaseMs : UInt64) : Db :=
  { db with
    senderLocks := db.senderLocks.upsert
      ⟨sender, ownerId, (saturatingAdd nowMs leaseMs).toInt64, nowMs.toInt64⟩ }

/-- `try_acquire_sender_lock_once`. -/
def tryAcquireSenderLockOnce (db : Db) (sender ownerId : String) (nowMs leaseMs : UInt64) :
    Bool × Db :=
  if canAcquire db sender ownerId nowMs then (true, writeSenderLock db sender ownerId nowMs leaseMs)
  else (false, db)

/-- `try_acquire_sender_lock_and_classify_once`; `classifyNow` is the clock reading of the
classification inside the transaction. -/
def tryAcquireSenderLockAndClassifyOnce (db : Db) (sender ownerId : String) (nonce : UInt64)
    (l2TxHash : String) (nowMs leaseMs classifyNow : UInt64) :
    Except IgraStoreError (Option NonceOrdering × Db) :=
  if canAcquire db sender ownerId nowMs then
    match classifyNonceInTx (writeSenderLock db sender ownerId nowMs leaseMs) sender nonce
        (some l2TxHash) classifyNow with
    | .ok (ordering, db') => .ok (some ordering, db')
    | .error err => .error err
  else .ok (none, db)

/-- `release_sender_lock`: `DELETE … WHERE sender = ? AND owner_id = ?`. -/
def releaseSenderLock (db : Db) (sender ownerId : String) : Db :=
  { db with
    senderLocks := db.senderLocks.deleteWhere fun r => r.sender = sender ∧ r.ownerId = ownerId }

/-- One round of `acquire_sender_lock` at the reading `now`: the deadline, then one attempt. -/
def pollSenderLock (store : IgraStore) (db : Db) (sender ownerId : String)
    (deadlineMs now : UInt64) : Except IgraStoreError Bool × Db :=
  if deadlineMs ≤ now then (.error (.lockTimeout sender), db)
  else
    let r := tryAcquireSenderLockOnce db sender ownerId now store.leaseMs
    (.ok r.1, r.2)

/-- One round of `acquire_sender_lock_and_classify_nonce` at the reading `now`: the deadline, then
one attempt, whose transaction is rolled back when the classification fails. -/
def pollSenderLockAndClassifyNonce (store : IgraStore) (db : Db) (sender ownerId : String)
    (nonce : UInt64) (l2TxHash : String) (deadlineMs now classifyNow : UInt64) :
    Except IgraStoreError (Option NonceOrdering) × Db :=
  if deadlineMs ≤ now then (.error (.lockTimeout sender), db)
  else settle db
    (tryAcquireSenderLockAndClassifyOnce db sender ownerId nonce l2TxHash now store.leaseMs
      classifyNow)

/-! ### The lock row as a lease cell -/

/-- The owner and the expiry in the lock row of a sender. -/
def lockHolder (db : Db) (sender : String) : Option (String × ℕ) :=
  (db.senderLocks.find? sender).map fun r => (r.ownerId, r.expiresAtMs.toUInt64.toNat)

theorem lockHolder_congr {db db' : Db} (h : db'.senderLocks = db.senderLocks) :
    lockHolder db' = lockHolder db := by
  unfold lockHolder
  rw [h]

/-- Both acquisition paths admit an owner exactly when the lease cell does. -/
theorem canAcquire_iff_admits (db : Db) (sender ownerId : String) (nowMs : UInt64) :
    canAcquire db sender ownerId nowMs = true ↔
      Lease.Admits (lockHolder db sender) ownerId nowMs.toNat := by
  rw [canAcquire, lockHolder, Lease.Admits]
  cases db.senderLocks.find? sender with
  | none => simp
  | some r => simp [UInt64.lt_iff_toNat_lt]

theorem lockHolder_write (db : Db) (sender ownerId : String) (nowMs leaseMs : UInt64)
    (s : String) :
    lockHolder (writeSenderLock db sender ownerId nowMs leaseMs) s =
      if sender = s then some (ownerId, (saturatingAdd nowMs leaseMs).toNat)
      else lockHolder db s := by
  rw [lockHolder, writeSenderLock]
  rw [Table.find?_upsert]
  split_ifs with h
  · simp
  · rfl

/-- A release gives back the owner's own cell and no other. -/
theorem lockHolder_release (db : Db) (sender ownerId s : String) :
    lockHolder (releaseSenderLock db sender ownerId) s =
      if sender = s then Lease.release (lockHolder db s) ownerId else lockHolder db s := by
  simp only [lockHolder, releaseSenderLock, Lease.release]
  rw [Table.find?_deleteWhere]
  cases hr : db.senderLocks.find? s with
  | none => simp
  | some r =>
    obtain rfl : r.sender = s := Table.key_of_find? hr
    by_cases h : r.sender = sender <;> by_cases ho : r.ownerId = ownerId <;>
      simp [Option.filter, h, ho, Ne.symm]

/-! ### What one attempt can do -/

/-- What a committed combined attempt can do: nothing, or take the lock and classify. -/
theorem tryAcquireSenderLockAndClassifyOnce_cases {db db' : Db} {sender ownerId : String}
    {nonce nowMs leaseMs classifyNow : UInt64} {hash : String} {o : Option NonceOrdering}
    (h : tryAcquireSenderLockAndClassifyOnce db sender ownerId nonce hash nowMs leaseMs
      classifyNow = .ok (o, db')) :
    (o = none ∧ db' = db) ∨ ∃ ordering, o = some ordering ∧
      Lease.Admits (lockHolder db sender) ownerId nowMs.toNat ∧
      classifyNonceInTx (writeSenderLock db sender ownerId nowMs leaseMs) sender nonce
        (some hash) classifyNow = .ok (ordering, db') := by
  rw [tryAcquireSenderLockAndClassifyOnce] at h
  split_ifs at h with hcan
  · right
    split at h
    next ordering db'' hc =>
      obtain ⟨rfl, rfl⟩ := Prod.mk.inj (Except.ok.inj h)
      exact ⟨ordering, rfl, (canAcquire_iff_admits ..).mp hcan, hc⟩
    next => cases h
  · obtain ⟨rfl, rfl⟩ := Prod.mk.inj (Except.ok.inj h)
    exact Or.inl ⟨rfl, rfl⟩

/-- The only refusal of a combined attempt is a nonce gap. -/
theorem tryAcquireSenderLockAndClassifyOnce_error {db : Db} {sender ownerId : String}
    {nonce nowMs leaseMs classifyNow : UInt64} {hash : String} {err : IgraStoreError}
    (h : tryAcquireSenderLockAndClassifyOnce db sender ownerId nonce hash nowMs leaseMs
      classifyNow = .error err) :
    ∃ e, nextExpectedNonce db sender = some e ∧ e < nonce ∧ err = .blockedNonceGap e nonce := by
  rw [tryAcquireSenderLockAndClassifyOnce] at h
  split_ifs at h
  split at h
  next => cases h
  next err' hc =>
    obtain rfl := Except.error.inj h
    obtain ⟨e, he, hlt, rfl⟩ := classifyNonceInTx_error hc
    exact ⟨e, he, hlt, rfl⟩

/-- **What one round of the combined loop can do.** It times out, finds the lock taken or refuses
a nonce gap without a trace, or it takes the lock and classifies the nonce. -/
theorem pollSenderLockAndClassifyNonce_cases {store : IgraStore} {db db' : Db}
    {sender ownerId : String} {nonce deadlineMs now classifyNow : UInt64} {hash : String}
    {r : Except IgraStoreError (Option NonceOrdering)}
    (h : pollSenderLockAndClassifyNonce store db sender ownerId nonce hash deadlineMs now
      classifyNow = (r, db')) :
    (db' = db ∧ (r = .error (.lockTimeout sender) ∨ r = .ok none ∨
      ∃ e, r = .error (.blockedNonceGap e nonce))) ∨
    ∃ ordering, r = .ok (some ordering) ∧
      Lease.Admits (lockHolder db sender) ownerId now.toNat ∧
      classifyNonceInTx (writeSenderLock db sender ownerId now store.leaseMs) sender nonce
        (some hash) classifyNow = .ok (ordering, db') := by
  rw [pollSenderLockAndClassifyNonce] at h
  split_ifs at h with hd
  · obtain ⟨rfl, rfl⟩ := Prod.mk.inj h
    exact Or.inl ⟨rfl, Or.inl rfl⟩
  · cases ht : tryAcquireSenderLockAndClassifyOnce db sender ownerId nonce hash now store.leaseMs
        classifyNow with
    | error err =>
      rw [ht, settle_error] at h
      obtain ⟨rfl, rfl⟩ := Prod.mk.inj h
      obtain ⟨e, -, -, rfl⟩ := tryAcquireSenderLockAndClassifyOnce_error ht
      exact Or.inl ⟨rfl, Or.inr (Or.inr ⟨e, rfl⟩)⟩
    | ok p =>
      obtain ⟨o, db''⟩ := p
      rw [ht, settle_ok] at h
      obtain ⟨rfl, rfl⟩ := Prod.mk.inj h
      rcases tryAcquireSenderLockAndClassifyOnce_cases ht with ⟨rfl, rfl⟩ | ⟨ordering, rfl, ha, hc⟩
      · exact Or.inl ⟨rfl, Or.inr (Or.inl rfl)⟩
      · exact Or.inr ⟨ordering, rfl, ha, hc⟩

/-- An acquisition round is refused: it is made past its deadline, or the lock is free and the
expected nonce is below the nonce. -/
def Refused (db : Db) (sender ownerId : String) (nonce deadlineMs now : UInt64) : Prop :=
  deadlineMs ≤ now ∨ canAcquire db sender ownerId now = true ∧
    ∃ e, nextExpectedNonce db sender = some e ∧ e < nonce

theorem pollSenderLockAndClassifyNonce_error_iff {store : IgraStore} {db : Db}
    {sender ownerId : String} {nonce deadlineMs now classifyNow : UInt64} {hash : String} :
    (∃ err, (pollSenderLockAndClassifyNonce store db sender ownerId nonce hash deadlineMs now
      classifyNow).1 = .error err) ↔ Refused db sender ownerId nonce deadlineMs now := by
  rw [pollSenderLockAndClassifyNonce, Refused]
  by_cases hd : deadlineMs ≤ now
  · simp [hd]
  · simp only [hd, if_false, false_or]
    cases ht : tryAcquireSenderLockAndClassifyOnce db sender ownerId nonce hash now store.leaseMs
        classifyNow with
    | error err =>
      obtain ⟨e, he, hlt, -⟩ := tryAcquireSenderLockAndClassifyOnce_error ht
      have hcan : canAcquire db sender ownerId now = true := by
        by_contra hno
        simp [tryAcquireSenderLockAndClassifyOnce, hno] at ht
      rw [settle_error]
      exact ⟨fun _ => ⟨hcan, e, he, hlt⟩, fun _ => ⟨err, rfl⟩⟩
    | ok p =>
      obtain ⟨o, db'⟩ := p
      rw [settle_ok]
      refine ⟨nofun, fun ⟨hcan, e, he, hlt⟩ => ?_⟩
      rcases tryAcquireSenderLockAndClassifyOnce_cases ht with ⟨rfl, rfl⟩ | ⟨ordering, rfl, -, hc⟩
      · simp only [tryAcquireSenderLockAndClassifyOnce, hcan, if_true] at ht
        split at ht <;> cases ht
      · obtain ⟨hle, -, ⟨he', -⟩ | ⟨hnone, -⟩⟩ := classifyNonceInTx_cases hc
        · obtain rfl : e = ordering.expected := Option.some_inj.mp (he.symm.trans he')
          exact absurd hlt (UInt64.not_lt.mpr hle)
        · exact absurd (he.symm.trans hnone) (by simp)

/-- The cells after an acquisition that classified its nonce. -/
theorem lockHolder_acquired {db db' : Db} {sender ownerId : String}
    {nonce nowMs leaseMs classifyNow : UInt64} {hash : Option String} {ordering : NonceOrdering}
    (h : classifyNonceInTx (writeSenderLock db sender ownerId nowMs leaseMs) sender nonce hash
      classifyNow = .ok (ordering, db')) (s : String) :
    lockHolder db' s = if sender = s then some (ownerId, (saturatingAdd nowMs leaseMs).toNat)
      else lockHolder db s := by
  rw [lockHolder_congr (classifyNonceInTx_frame h).2.1, lockHolder_write]

/-- A store with a sender lock timeout of one second. -/
def oneSecondStore : IgraStore where
  dbPath := ["tmp", "igra.sqlite"]
  kaspaNetwork := "testnet-10"
  expectedElChainId := 1337
  senderLockTimeoutSecs := 1
  elRpcFingerprint := none
  kaspaRpcFingerprint := none
  completedRetentionHours := 168
  failedRetentionHours := 720
  maxDbSizeMb := 512

end FoundryIgra.Store
