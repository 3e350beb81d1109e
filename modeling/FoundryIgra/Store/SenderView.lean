import FoundryIgra.Store.AtomicAcquire
import FoundryIgra.Store.ProfileChange
import FoundryIgra.Store.TxMap

/-!
# What one sender sees of a store

The transactions that the store makes for a sender read and write the lock row and the nonce row of
the sender, the rows of its own hashes, and the other rows of its own nonces (`store.rs`). Two
databases that agree on these, and on the recorded profile, cannot be told apart by them.

The rows of `tx_map` are keyed by hash, so all of this rests on a hash telling its sender.

## Main definitions

* `Attributed`: the rows have the senders that their hashes tell.
* `SameFor`: two databases agree on what a sender sees.

## Main results

* `SameFor.persist`, `SameFor.poll`, `SameFor.mark`, `SameFor.release`: the transactions of the
  sender answer alike and keep the agreement.
* `SameFor.persist_other` and the other `_other` lemmas: those of another sender keep it on one
  side.
-/

namespace FoundryIgra.Store

open Relational Rust

/-- Each row whose hash tells a sender has that sender. -/
def Attributed (owner : String → String → Prop) (db : Db) : Prop :=
  ∀ r ∈ db.txMap.rows, ∀ s, owner r.l2TxHash s → r.sender = s

/-- The databases agree on what `sender` sees. -/
structure SameFor (owner : String → String → Prop) (sender : String) (db db' : Db) : Prop where
  schemaMeta : db'.schemaMeta = db.schemaMeta
  lock : db'.senderLocks.find? sender = db.senderLocks.find? sender
  nonce : db'.senderNonceState.find? sender = db.senderNonceState.find? sender
  rows : ∀ r : TxMapRow, r.sender = sender → (r ∈ db'.txMap.rows ↔ r ∈ db.txMap.rows)
  attributed : Attributed owner db
  attributed' : Attributed owner db'

variable {owner : String → String → Prop} {sender : String} {db db' : Db}

theorem SameFor.refl (h : Attributed owner db) : SameFor owner sender db db :=
  ⟨rfl, rfl, rfl, fun _ _ => Iff.rfl, h, h⟩

/-! ### Lifecycle records -/

/-- They agree on the rows of the sender's hashes. -/
theorem SameFor.find?_eq (h : SameFor owner sender db db') {hash : String}
    (howner : owner hash sender) : db'.txMap.find? hash = db.txMap.find? hash := by
  refine Option.ext fun r => ?_
  rw [Table.find?_eq_some, Table.find?_eq_some]
  refine and_congr_left ?_
  rintro rfl
  by_cases hr : r.sender = sender
  · exact h.rows r hr
  · exact ⟨fun hmem => absurd (h.attributed' r hmem _ howner) hr,
      fun hmem => absurd (h.attributed r hmem _ howner) hr⟩

theorem attributed_persist (hfun : ∀ hash s s', owner hash s → owner hash s' → s = s')
    (h : Attributed owner db) {store : IgraStore} {u : TxLifecycleUpdate} {now : UInt64}
    (howner : owner u.l2TxHash u.sender) : Attributed owner (persistTransition store db u now) := by
  intro r hr s hs
  rcases Table.mem_upsert.mp hr with rfl | ⟨hr, -⟩
  · exact hfun _ _ _ howner hs
  · exact h r hr s hs

/-- A record of the sender itself. -/
theorem SameFor.persist (h : SameFor owner sender db db')
    (hfun : ∀ hash s s', owner hash s → owner hash s' → s = s') {store : IgraStore}
    {u : TxLifecycleUpdate} {now : UInt64} (howner : owner u.l2TxHash u.sender)
    (hu : u.sender = sender) :
    SameFor owner sender (persistTransition store db u now)
      (persistTransition store db' u now) := by
  have hcarried : carriedOver db' u now = carriedOver db u now := by
    rw [carriedOver, carriedOver, h.find?_eq (hu ▸ howner)]
  refine ⟨h.schemaMeta, h.lock, h.nonce, fun r hr => ?_,
    attributed_persist hfun h.attributed howner, attributed_persist hfun h.attributed' howner⟩
  simp only [persistTransition, hcarried, Table.mem_upsert, h.rows r hr]

/-- A record of another sender. -/
theorem SameFor.persist_other (h : SameFor owner sender db db')
    (hfun : ∀ hash s s', owner hash s → owner hash s' → s = s') {store : IgraStore}
    {u : TxLifecycleUpdate} {now : UInt64} (howner : owner u.l2TxHash u.sender)
    (hu : u.sender ≠ sender) : SameFor owner sender (persistTransition store db u now) db' := by
  refine ⟨h.schemaMeta, h.lock, h.nonce, fun r hr => ?_,
    attributed_persist hfun h.attributed howner, h.attributed'⟩
  rw [h.rows r hr, persistTransition, Table.mem_upsert]
  constructor
  · refine fun hmem => Or.inr ⟨hmem, fun hkey => hu ?_⟩
    -- a row under the written hash would have the sender of the record
    have hhash : r.l2TxHash = u.l2TxHash := hkey
    rw [← hr, h.attributed r hmem _ (hhash ▸ howner)]
  · rintro (rfl | ⟨hmem, -⟩)
    · exact absurd hr hu
    · exact hmem

/-! ### Locks and nonces -/

theorem SameFor.canAcquire_eq (h : SameFor owner sender db db') (ownerId : String)
    (nowMs : UInt64) :
    canAcquire db' sender ownerId nowMs = canAcquire db sender ownerId nowMs := by
  rw [canAcquire, canAcquire, h.lock]

theorem SameFor.nextExpectedNonce_eq (h : SameFor owner sender db db') :
    nextExpectedNonce db' sender = nextExpectedNonce db sender := by
  rw [nextExpectedNonce, nextExpectedNonce, h.nonce]

theorem SameFor.isStaleReplacementCandidate_eq (h : SameFor owner sender db db') (nonce : UInt64)
    (incoming : String) : isStaleReplacementCandidate db' sender nonce incoming =
      isStaleReplacementCandidate db sender nonce incoming := by
  rw [Bool.eq_iff_iff, isStaleReplacementCandidate, isStaleReplacementCandidate, List.any_eq_true,
    List.any_eq_true]
  refine exists_congr fun r => and_congr_left fun hr => h.rows r ?_
  exact (of_decide_eq_true hr).1

theorem SameFor.writeLock (h : SameFor owner sender db db') (ownerId : String)
    (nowMs leaseMs : UInt64) :
    SameFor owner sender (writeSenderLock db sender ownerId nowMs leaseMs)
      (writeSenderLock db' sender ownerId nowMs leaseMs) := by
  refine ⟨h.schemaMeta, ?_, h.nonce, h.rows, h.attributed, h.attributed'⟩
  simp only [writeSenderLock, Table.find?_upsert, h.lock]

theorem SameFor.writeLock_other (h : SameFor owner sender db db') {s : String} (hs : s ≠ sender)
    (ownerId : String) (nowMs leaseMs : UInt64) :
    SameFor owner sender (writeSenderLock db s ownerId nowMs leaseMs) db' := by
  refine ⟨h.schemaMeta, ?_, h.nonce, h.rows, h.attributed, h.attributed'⟩
  rw [h.lock, writeSenderLock, Table.find?_upsert, if_neg hs]

theorem SameFor.setNonce (h : SameFor owner sender db db') (nonce now : UInt64) :
    SameFor owner sender (setNextExpectedNonce db sender nonce now)
      (setNextExpectedNonce db' sender nonce now) := by
  refine ⟨h.schemaMeta, h.lock, ?_, h.rows, h.attributed, h.attributed'⟩
  simp only [setNextExpectedNonce, Table.find?_upsert, h.nonce]

theorem SameFor.setNonce_other (h : SameFor owner sender db db') {s : String} (hs : s ≠ sender)
    (nonce now : UInt64) : SameFor owner sender (setNextExpectedNonce db s nonce now) db' := by
  refine ⟨h.schemaMeta, h.lock, ?_, h.rows, h.attributed, h.attributed'⟩
  rw [h.nonce, setNextExpectedNonce, Table.find?_upsert, if_neg hs]

/-- Two transactions end alike: with the same error, or with the same result and an agreement. -/
inductive EndAlike {ε α : Type} (owner : String → String → Prop) (sender : String) :
    Except ε (α × Db) → Except ε (α × Db) → Prop
  | ok {d d' : Db} (a : α) (h : SameFor owner sender d d') :
    EndAlike owner sender (.ok (a, d)) (.ok (a, d'))
  | error (e : ε) : EndAlike owner sender (.error e) (.error e)

theorem EndAlike.eq_or {ε α : Type} {x x' : Except ε (α × Db)} (h : EndAlike owner sender x x') :
    (∃ a d d', x = .ok (a, d) ∧ x' = .ok (a, d') ∧ SameFor owner sender d d') ∨
      ∃ e, x = .error e ∧ x' = .error e := by
  cases h with
  | ok a hd => exact Or.inl ⟨a, _, _, rfl, rfl, hd⟩
  | error e => exact Or.inr ⟨e, rfl, rfl⟩

/-- What they are settled to. -/
theorem EndAlike.settle {ε α : Type} {x x' : Except ε (α × Db)} (h : SameFor owner sender db db')
    (hx : EndAlike owner sender x x') : (settle db' x').1 = (settle db x).1 ∧
      SameFor owner sender (settle db x).2 (settle db' x').2 := by
  cases hx with
  | ok a hd => exact ⟨rfl, hd⟩
  | error e => exact ⟨rfl, h⟩

theorem SameFor.classify (h : SameFor owner sender db db') (nonce : UInt64) (hash : Option String)
    (now : UInt64) : EndAlike owner sender (classifyNonceInTx db sender nonce hash now)
      (classifyNonceInTx db' sender nonce hash now) := by
  have hset := h.setNonce nonce now
  simp only [classifyNonceInTx, h.nextExpectedNonce_eq]
  cases nextExpectedNonce db sender with
  | some value =>
    cases hash with
    | none =>
      simp only
      split_ifs
      · exact .error _
      · exact .ok _ h
      · exact .ok _ h
    | some incoming =>
      simp only [h.isStaleReplacementCandidate_eq]
      split_ifs
      · exact .error _
      · exact .ok _ h
      · exact .ok _ h
  | none =>
    -- a sender without a row is seeded with its own nonce, which is then in order
    simp only [UInt64.lt_irrefl, if_true, if_false]
    exact .ok _ hset

/-- **A poll of the sender** is answered alike. -/
theorem SameFor.poll (h : SameFor owner sender db db') (store : IgraStore) (ownerId : String)
    (nonce : UInt64) (l2TxHash : String) (deadlineMs now classifyNow : UInt64) :
    (pollSenderLockAndClassifyNonce store db' sender ownerId nonce l2TxHash deadlineMs now
        classifyNow).1 =
      (pollSenderLockAndClassifyNonce store db sender ownerId nonce l2TxHash deadlineMs now
        classifyNow).1 ∧
    SameFor owner sender
      (pollSenderLockAndClassifyNonce store db sender ownerId nonce l2TxHash deadlineMs now
        classifyNow).2
      (pollSenderLockAndClassifyNonce store db' sender ownerId nonce l2TxHash deadlineMs now
        classifyNow).2 := by
  simp only [pollSenderLockAndClassifyNonce]
  split_ifs
  · exact ⟨rfl, h⟩
  refine EndAlike.settle h ?_
  simp only [tryAcquireSenderLockAndClassifyOnce, h.canAcquire_eq]
  split_ifs
  · rcases ((h.writeLock ownerId now store.leaseMs).classify nonce (some l2TxHash)
      classifyNow).eq_or with ⟨o, d, d', hx, hx', hd⟩ | ⟨e, hx, hx'⟩
    · rw [hx, hx']
      exact .ok _ hd
    · rw [hx, hx']
      exact .error e
  · exact .ok _ h

/-- The advance of the sender. -/
theorem SameFor.mark (h : SameFor owner sender db db') (nonce now : UInt64) :
    (∃ d d', markSubmittedInOrderNonce db sender nonce now = .ok d ∧
        markSubmittedInOrderNonce db' sender nonce now = .ok d' ∧ SameFor owner sender d d') ∨
      ∃ e, markSubmittedInOrderNonce db sender nonce now = .error e ∧
        markSubmittedInOrderNonce db' sender nonce now = .error e := by
  simp only [markSubmittedInOrderNonce, h.nextExpectedNonce_eq]
  cases checkedSucc nonce with
  | none => exact Or.inr ⟨_, rfl, rfl⟩
  | some next =>
    cases nextExpectedNonce db sender with
    | none => exact Or.inl ⟨_, _, rfl, rfl, h.setNonce next now⟩
    | some current =>
      by_cases hcurrent : current = nonce
      · simp only [if_pos hcurrent]
        exact Or.inl ⟨_, _, rfl, rfl, h.setNonce next now⟩
      · simp only [if_neg hcurrent]
        exact Or.inl ⟨_, _, rfl, rfl, h⟩

/-- A release of the sender. -/
theorem SameFor.release (h : SameFor owner sender db db') (ownerId : String) :
    SameFor owner sender (releaseSenderLock db sender ownerId)
      (releaseSenderLock db' sender ownerId) := by
  refine ⟨h.schemaMeta, ?_, h.nonce, h.rows, h.attributed, h.attributed'⟩
  simp only [releaseSenderLock, Table.find?_deleteWhere, h.lock]

theorem SameFor.release_other (h : SameFor owner sender db db') {s : String} (hs : s ≠ sender)
    (ownerId : String) : SameFor owner sender (releaseSenderLock db s ownerId) db' := by
  refine ⟨h.schemaMeta, ?_, h.nonce, h.rows, h.attributed, h.attributed'⟩
  rw [h.lock, releaseSenderLock, Table.find?_deleteWhere]
  cases hr : db.senderLocks.find? sender with
  | none => rfl
  | some r =>
    have hne : r.sender ≠ s := by
      rw [Table.key_of_find? hr]
      exact hs.symm
    rw [Option.filter_some_pos (by simp [hne])]

/-! ### Opens -/

theorem SameFor.migrate (h : SameFor owner sender db db') :
    SameFor owner sender (migrate db) (migrate db') := by
  refine ⟨?_, h.lock, h.nonce, h.rows, h.attributed, h.attributed'⟩
  simp only [Store.migrate, setMetadataValue, h.schemaMeta]

theorem setMetadataValue_congr (h : db'.schemaMeta = db.schemaMeta) (key : String)
    (value : Option String) :
    (setMetadataValue db' key value).schemaMeta = (setMetadataValue db key value).schemaMeta := by
  cases value <;> simp only [setMetadataValue, h]

/-- A reconciliation wipes both or none. -/
theorem SameFor.reconcile (h : SameFor owner sender db db') (store : IgraStore) :
    SameFor owner sender (reconcileProfileCache store db) (reconcileProfileCache store db') := by
  have hchanged : profileChanged store db' = profileChanged store db := by
    have hmeta : ∀ key, metadataValue db' key = metadataValue db key := fun key => by
      rw [metadataValue, metadataValue, h.schemaMeta]
    rw [profileChanged, profileChanged, hmeta, hmeta, hmeta, hmeta]
  have hset : ∀ {d d' : Db}, d'.schemaMeta = d.schemaMeta →
      (setProfile store d').schemaMeta = (setProfile store d).schemaMeta := fun hd =>
    setMetadataValue_congr (setMetadataValue_congr (setMetadataValue_congr
      (setMetadataValue_congr hd _ _) _ _) _ _) _ _
  obtain ⟨htx, hnonce, hlock⟩ := reconcileProfileCache_tables store db
  obtain ⟨htx', hnonce', hlock'⟩ := reconcileProfileCache_tables store db'
  have hattributed : ∀ {d : Db}, Attributed owner d →
      Attributed owner (reconcileProfileCache store d) := fun {d} hd r hr s hs => by
    rw [(reconcileProfileCache_tables store d).1] at hr
    split_ifs at hr
    · cases hr
    · exact hd r hr s hs
  refine ⟨?_, ?_, ?_, fun r hr => ?_, hattributed h.attributed, hattributed h.attributed'⟩
  · rw [reconcileProfileCache, reconcileProfileCache, hchanged]
    split_ifs
    · exact hset h.schemaMeta
    · exact hset h.schemaMeta
  · rw [hlock, hlock', hchanged]
    split_ifs
    · rfl
    · exact h.lock
  · rw [hnonce, hnonce', hchanged]
    split_ifs
    · rfl
    · exact h.nonce
  · rw [htx, htx', hchanged]
    split_ifs
    · rfl
    · exact h.rows r hr

/-- The same delete on both sides. -/
theorem SameFor.deleteWhere (h : SameFor owner sender db db') (doomed : TxMapRow → Bool) :
    SameFor owner sender { db with txMap := db.txMap.deleteWhere doomed }
      { db' with txMap := db'.txMap.deleteWhere doomed } := by
  refine ⟨h.schemaMeta, h.lock, h.nonce, fun r hr => ?_, fun r hr => ?_, fun r hr => ?_⟩
  · simp only [Table.rows_deleteWhere, List.mem_filter, h.rows r hr]
  · exact h.attributed r (List.mem_filter.mp hr).1
  · exact h.attributed' r (List.mem_filter.mp hr).1

end FoundryIgra.Store
