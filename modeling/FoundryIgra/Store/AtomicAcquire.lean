import FoundryIgra.Relational.Transaction
import FoundryIgra.Store.SenderLocks

/-!
# The combined acquisition as a composition

`try_acquire_sender_lock_and_classify_once` is the lock attempt followed by the classification, in
one transaction (`store.rs`): a nonce gap rolls back the lock row that the transaction has written
before. Against the two operations run one after the other, the combined one differs in the
replacement flag only, which `classify_nonce` does not compute.

## Main definitions

* `classifyNonce`, `acquireAndClassifyOnce`: the two operations on a connection.
* `lockAttempt`, `classification`, `combinedAttempt`: the transactions.
* `ComposedOf`: what the combined operation does, in terms of its parts.

## Main results

* `combinedAttempt_eq_bind`: the combined transaction is the composition of its parts.
* `acquireAndClassify_composed`: what it commits and answers.
-/

namespace FoundryIgra.Store

open Relational Rust NonceOrdering

/-- `classify_nonce` at the clock reading `now`. -/
def classifyNonce (db : Db) (sender : String) (nonce now : UInt64) :
    Except IgraStoreError NonceOrdering × Db :=
  settle db (classifyNonceInTx db sender nonce none now)

/-- `try_acquire_sender_lock_and_classify_once` on a connection: an error drops the transaction. -/
def acquireAndClassifyOnce (db : Db) (sender ownerId : String) (nonce : UInt64)
    (l2TxHash : String) (nowMs leaseMs classifyNow : UInt64) :
    Except IgraStoreError (Option NonceOrdering) × Db :=
  settle db
    (tryAcquireSenderLockAndClassifyOnce db sender ownerId nonce l2TxHash nowMs leaseMs classifyNow)

/-! ### The replacement flag -/

/-- The ordering without its replacement flag. -/
def NonceOrdering.unflagged : NonceOrdering → NonceOrdering
  | inOrder e => inOrder e
  | stale e _ => stale e false

/-- The replacement flag. -/
def NonceOrdering.replacementCandidate : NonceOrdering → Bool
  | inOrder _ => false
  | stale _ flag => flag

/-- The ordering is stale. -/
def NonceOrdering.IsStale (o : NonceOrdering) : Prop := ∃ e flag, o = stale e flag

/-- `tx_map` holds another hash for the same sender and nonce. -/
def HoldsOtherHash (db : Db) (sender : String) (nonce : UInt64) (l2TxHash : String) : Prop :=
  ∃ r ∈ db.txMap.rows,
    r.sender = sender ∧ r.l2Nonce.toUInt64 = nonce ∧ r.l2TxHash ≠ l2TxHash

theorem isStaleReplacementCandidate_iff {db : Db} {sender : String} {nonce : UInt64}
    {l2TxHash : String} : isStaleReplacementCandidate db sender nonce l2TxHash = true ↔
      HoldsOtherHash db sender nonce l2TxHash := by
  have hnonce : ∀ r : TxMapRow, r.l2Nonce = nonce.toInt64 ↔ r.l2Nonce.toUInt64 = nonce := fun r =>
    ⟨fun h => by rw [h, UInt64.toUInt64_toInt64], fun h => by rw [← h, Int64.toInt64_toUInt64]⟩
  simp only [isStaleReplacementCandidate, HoldsOtherHash, List.any_eq_true, decide_eq_true_eq,
    hnonce]

/-- With a hash, a classification differs in its flag only. -/
theorem classifyNonceInTx_unflagged (db : Db) (sender : String) (nonce now : UInt64)
    (hash : Option String) :
    (classifyNonceInTx db sender nonce hash now).map (fun p => (p.1.unflagged, p.2)) =
      classifyNonceInTx db sender nonce none now := by
  simp only [classifyNonceInTx]
  split_ifs <;> rfl

/-- The flag of a classification. -/
theorem replacementCandidate_iff {db db' : Db} {sender : String} {nonce now : UInt64}
    {l2TxHash : String} {o : NonceOrdering}
    (h : classifyNonceInTx db sender nonce (some l2TxHash) now = .ok (o, db')) :
    o.replacementCandidate = true ↔ o.IsStale ∧ HoldsOtherHash db sender nonce l2TxHash := by
  have hinOrder : ∀ e, (inOrder e).replacementCandidate = true ↔
      (inOrder e).IsStale ∧ HoldsOtherHash db sender nonce l2TxHash := fun e =>
    iff_of_false Bool.false_ne_true fun ⟨⟨_, _, heq⟩, _⟩ => NonceOrdering.noConfusion heq
  rw [classifyNonceInTx] at h
  cases he : nextExpectedNonce db sender with
  | none =>
    simp only [he, UInt64.lt_irrefl, if_false, if_true, Except.ok.injEq, Prod.mk.injEq] at h
    obtain ⟨rfl, -⟩ := h
    exact hinOrder nonce
  | some e =>
    simp only [he] at h
    split_ifs at h with hgap heq
    · obtain ⟨rfl, -⟩ := Prod.mk.inj (Except.ok.inj h)
      exact hinOrder e
    · obtain ⟨rfl, -⟩ := Prod.mk.inj (Except.ok.inj h)
      rw [replacementCandidate, isStaleReplacementCandidate_iff]
      exact (and_iff_right ⟨e, _, rfl⟩).symm

/-! ### The transactions -/

/-- `try_acquire_sender_lock_once`. -/
def lockAttempt (sender ownerId : String) (nowMs leaseMs : UInt64) :
    Transaction IgraStoreError Db Bool :=
  fun db => .ok (tryAcquireSenderLockOnce db sender ownerId nowMs leaseMs)

/-- `classify_nonce_in_tx`. -/
def classification (sender : String) (nonce : UInt64) (hash : Option String) (now : UInt64) :
    Transaction IgraStoreError Db NonceOrdering :=
  fun db => classifyNonceInTx db sender nonce hash now

/-- `try_acquire_sender_lock_and_classify_once`. -/
def combinedAttempt (sender ownerId : String) (nonce : UInt64) (l2TxHash : String)
    (nowMs leaseMs classifyNow : UInt64) : Transaction IgraStoreError Db (Option NonceOrdering) :=
  fun db =>
    tryAcquireSenderLockAndClassifyOnce db sender ownerId nonce l2TxHash nowMs leaseMs classifyNow

/-- The part after the lock attempt: a classification, if the lock was acquired. -/
def classificationIf (sender : String) (nonce : UInt64) (l2TxHash : String)
    (classifyNow : UInt64) (acquired : Bool) :
    Transaction IgraStoreError Db (Option NonceOrdering) :=
  if acquired then some <$> classification sender nonce (some l2TxHash) classifyNow else pure none

/-- **The combined attempt is the composition of its parts.** -/
theorem combinedAttempt_eq_bind (sender ownerId : String) (nonce : UInt64) (l2TxHash : String)
    (nowMs leaseMs classifyNow : UInt64) :
    combinedAttempt sender ownerId nonce l2TxHash nowMs leaseMs classifyNow =
      lockAttempt sender ownerId nowMs leaseMs >>=
        classificationIf sender nonce l2TxHash classifyNow := by
  funext db
  by_cases hcan : canAcquire db sender ownerId nowMs = true
  · have hlock : (lockAttempt sender ownerId nowMs leaseMs).run db =
        .ok (true, writeSenderLock db sender ownerId nowMs leaseMs) := by
      show Except.ok (tryAcquireSenderLockOnce db sender ownerId nowMs leaseMs) = _
      rw [tryAcquireSenderLockOnce, if_pos hcan]
    refine Eq.trans ?_ (Transaction.run_bind_ok hlock).symm
    rw [combinedAttempt, tryAcquireSenderLockAndClassifyOnce, if_pos hcan, classificationIf,
      if_pos rfl, StateT.run_map]
    have hrun : (classification sender nonce (some l2TxHash) classifyNow).run
        (writeSenderLock db sender ownerId nowMs leaseMs) =
          classifyNonceInTx (writeSenderLock db sender ownerId nowMs leaseMs) sender nonce
            (some l2TxHash) classifyNow := rfl
    rw [hrun]
    cases classifyNonceInTx (writeSenderLock db sender ownerId nowMs leaseMs) sender nonce
      (some l2TxHash) classifyNow with
    | error err => rfl
    | ok p => rfl
  · have hlock : (lockAttempt sender ownerId nowMs leaseMs).run db = .ok (false, db) := by
      show Except.ok (tryAcquireSenderLockOnce db sender ownerId nowMs leaseMs) = _
      rw [tryAcquireSenderLockOnce, if_neg hcan]
    refine Eq.trans ?_ (Transaction.run_bind_ok hlock).symm
    rw [combinedAttempt, tryAcquireSenderLockAndClassifyOnce, if_neg hcan]
    rfl

section Answers

variable {db : Db} {sender ownerId l2TxHash : String} {nonce nowMs leaseMs classifyNow : UInt64}

/-- A lock attempt commits whether it has acquired the lock or not. -/
theorem commit_lockAttempt {acquired : Bool}
    (h : (tryAcquireSenderLockOnce db sender ownerId nowMs leaseMs).1 = acquired) :
    (lockAttempt sender ownerId nowMs leaseMs).commit db =
      (.ok acquired, (tryAcquireSenderLockOnce db sender ownerId nowMs leaseMs).2) := by
  rw [← h]
  rfl

/-- `classify_nonce` is the classification with a hash, without its flag. -/
theorem classifyNonce_eq (db : Db) : classifyNonce db sender nonce classifyNow =
    (((classification sender nonce (some l2TxHash) classifyNow).commit db).1.map unflagged,
      ((classification sender nonce (some l2TxHash) classifyNow).commit db).2) := by
  rw [← Transaction.commit_map, classifyNonce, Transaction.commit, StateT.run_map,
    ← classifyNonceInTx_unflagged db sender nonce classifyNow (some l2TxHash)]
  rfl

theorem acquireAndClassifyOnce_eq_commit :
    acquireAndClassifyOnce db sender ownerId nonce l2TxHash nowMs leaseMs classifyNow =
      (lockAttempt sender ownerId nowMs leaseMs >>=
        classificationIf sender nonce l2TxHash classifyNow).commit db := by
  rw [← combinedAttempt_eq_bind]
  rfl

/-- A failed lock attempt leaves the database. -/
theorem lock_refused (h : (tryAcquireSenderLockOnce db sender ownerId nowMs leaseMs).1 = false) :
    (tryAcquireSenderLockOnce db sender ownerId nowMs leaseMs).2 = db := by
  rw [tryAcquireSenderLockOnce] at h ⊢
  split_ifs at h ⊢
  rfl

/-- Where the lock attempt fails, nothing is done. -/
theorem acquireAndClassifyOnce_refused
    (h : (tryAcquireSenderLockOnce db sender ownerId nowMs leaseMs).1 = false) :
    acquireAndClassifyOnce db sender ownerId nonce l2TxHash nowMs leaseMs classifyNow =
      (.ok none, db) := by
  rw [acquireAndClassifyOnce_eq_commit, Transaction.commit_bind_ok_iff]
  refine ⟨false, db, ?_, rfl⟩
  rw [commit_lockAttempt h, lock_refused h]

/-- Where both parts succeed, the combined operation commits what they commit in sequence. -/
theorem acquireAndClassifyOnce_ok {o : NonceOrdering} {db' : Db}
    (h : (tryAcquireSenderLockOnce db sender ownerId nowMs leaseMs).1 = true)
    (hc : (classification sender nonce (some l2TxHash) classifyNow).commit
      (tryAcquireSenderLockOnce db sender ownerId nowMs leaseMs).2 = (.ok o, db')) :
    acquireAndClassifyOnce db sender ownerId nonce l2TxHash nowMs leaseMs classifyNow =
      (.ok (some o), db') := by
  rw [acquireAndClassifyOnce_eq_commit, Transaction.commit_bind_ok_iff]
  refine ⟨true, _, commit_lockAttempt h, ?_⟩
  rw [classificationIf, if_pos rfl, Transaction.commit_map, hc]
  rfl

/-- Where the classification fails, the lock row is rolled back. -/
theorem acquireAndClassifyOnce_error {err : IgraStoreError}
    (h : (tryAcquireSenderLockOnce db sender ownerId nowMs leaseMs).1 = true)
    (hc : ((classification sender nonce (some l2TxHash) classifyNow).commit
      (tryAcquireSenderLockOnce db sender ownerId nowMs leaseMs).2).1 = .error err) :
    acquireAndClassifyOnce db sender ownerId nonce l2TxHash nowMs leaseMs classifyNow =
      (.error err, db) := by
  rw [acquireAndClassifyOnce_eq_commit, Transaction.commit_bind_error_iff]
  refine ⟨rfl, Or.inr ⟨true, _, commit_lockAttempt h, ?_⟩⟩
  rw [classificationIf, if_pos rfl, Transaction.commit_map, hc]
  rfl

/-- A classification fails at a nonce gap. -/
theorem commit_classification_gap {hash : Option String} {e : UInt64}
    (he : nextExpectedNonce db sender = some e) (hlt : e < nonce) :
    ((classification sender nonce hash classifyNow).commit db).1 =
      .error (.blockedNonceGap e nonce) := by
  have hgap : classifyNonceInTx db sender nonce hash classifyNow =
      .error (.blockedNonceGap e nonce) := by
    rw [classifyNonceInTx]
    simp only [he, hlt, if_true]
  exact Transaction.fst_commit_eq_error_iff.mpr hgap

/-- A lock attempt leaves the expected nonces and `tx_map`. -/
theorem lock_frame (db : Db) (sender ownerId : String) (nowMs leaseMs : UInt64) :
    (tryAcquireSenderLockOnce db sender ownerId nowMs leaseMs).2.txMap = db.txMap ∧
      (tryAcquireSenderLockOnce db sender ownerId nowMs leaseMs).2.senderNonceState =
        db.senderNonceState := by
  rw [tryAcquireSenderLockOnce]
  split_ifs <;> exact ⟨rfl, rfl⟩

end Answers

/-! ### The composition -/

/-- What the combined operation does at `db`, in terms of a lock attempt at `db` and of a
classification of the state that the attempt leaves. -/
structure ComposedOf (db : Db) (sender : String) (nonce : UInt64) (l2TxHash : String)
    (lock : Bool × Db) (classified : Except IgraStoreError NonceOrdering × Db)
    (combined : Except IgraStoreError (Option NonceOrdering) × Db) : Prop where
  /-- It answers that the lock is taken exactly when the attempt does, and does nothing then. -/
  taken_iff : combined.1 = .ok none ↔ lock.1 = false
  taken : combined.1 = .ok none → combined.2 = db
  /-- It classifies exactly when both parts succeed. -/
  classified_iff : (∃ o, combined.1 = .ok (some o)) ↔ lock.1 = true ∧ ∃ o, classified.1 = .ok o
  /-- It then leaves what the two leave in sequence, and answers as the classification does, up to
  the replacement flag. -/
  agrees : ∀ o, combined.1 = .ok (some o) →
    combined.2 = classified.2 ∧ classified.1 = .ok o.unflagged
  flag : ∀ o, combined.1 = .ok (some o) →
    (o.replacementCandidate = true ↔ o.IsStale ∧ HoldsOtherHash db sender nonce l2TxHash)
  /-- A nonce gap leaves every table, and is the answer unless the lock is taken. -/
  gap : ∀ e, nextExpectedNonce db sender = some e → e < nonce →
    combined.2 = db ∧ (lock.1 = true → combined.1 = .error (.blockedNonceGap e nonce))

/-- **The combined acquisition is the atomic composition of its parts.** -/
theorem acquireAndClassify_composed (db : Db) (sender ownerId : String) (nonce : UInt64)
    (l2TxHash : String) (nowMs leaseMs classifyNow : UInt64) :
    ComposedOf db sender nonce l2TxHash
      (tryAcquireSenderLockOnce db sender ownerId nowMs leaseMs)
      (classifyNonce (tryAcquireSenderLockOnce db sender ownerId nowMs leaseMs).2 sender nonce
        classifyNow)
      (acquireAndClassifyOnce db sender ownerId nonce l2TxHash nowMs leaseMs classifyNow) := by
  obtain ⟨htx, hnonce⟩ := lock_frame db sender ownerId nowMs leaseMs
  have hexpected : nextExpectedNonce (tryAcquireSenderLockOnce db sender ownerId nowMs leaseMs).2
      sender = nextExpectedNonce db sender := by
    rw [nextExpectedNonce, hnonce]
    rfl
  cases hlock : (tryAcquireSenderLockOnce db sender ownerId nowMs leaseMs).1 with
  | false =>
    rw [acquireAndClassifyOnce_refused hlock]
    refine ⟨by simp [hlock], fun _ => rfl, by simp [hlock], ?_, ?_, fun e _ _ => ⟨rfl, ?_⟩⟩
    · rintro _ ⟨⟩
    · rintro _ ⟨⟩
    · simp [hlock]
  | true =>
    rw [classifyNonce_eq]
    rcases hc : (classification sender nonce (some l2TxHash) classifyNow).commit
        (tryAcquireSenderLockOnce db sender ownerId nowMs leaseMs).2 with ⟨answer, db'⟩
    have hgap : ∀ e, nextExpectedNonce db sender = some e → e < nonce →
        answer = .error (.blockedNonceGap e nonce) := fun e he hlt => by
      exact (congrArg Prod.fst hc).symm.trans
        (commit_classification_gap (hexpected.trans he) hlt)
    cases answer with
    | ok o =>
      rw [acquireAndClassifyOnce_ok hlock hc]
      have hflag := replacementCandidate_iff (Transaction.commit_eq_ok_iff.mp hc)
      rw [HoldsOtherHash, htx] at hflag
      refine ⟨by simp [hlock], ?_, by simp [hlock, Except.map], ?_, ?_, ?_⟩
      · rintro ⟨⟩
      · rintro _ ⟨⟩
        exact ⟨rfl, rfl⟩
      · rintro _ ⟨⟩
        exact hflag
      · intro e he hlt
        cases hgap e he hlt
    | error err =>
      rw [acquireAndClassifyOnce_error hlock (congrArg Prod.fst hc)]
      refine ⟨by simp [hlock], ?_, by simp [hlock, Except.map], ?_, ?_, ?_⟩
      · rintro ⟨⟩
      · rintro _ ⟨⟩
      · rintro _ ⟨⟩
      · intro e he hlt
        exact ⟨rfl, fun _ => congrArg _ (Except.error.inj (hgap e he hlt))⟩

end FoundryIgra.Store
