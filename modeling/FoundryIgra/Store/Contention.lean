import FoundryIgra.Store.SenderLocks

/-!
# Waiting for a sender lock

The polling loops of `acquire_sender_lock` and `acquire_sender_lock_and_classify_nonce` (`store.rs`)
against a lock that another owner holds and neither renews nor releases. The lease is twice the
waiting time, but the two are counted from different moments: the lease from the acquisition, the
deadline from the start of the contender. A contender that starts more than a waiting time after
the acquisition reaches the end of the lease before its own deadline.

## Main definitions

* `PollRound`, `pollLoop`: the rounds of a loop, with what happens around them.
* `acquireSenderLock`, `acquireSenderLockAndClassifyNonce`.
* `TimesOut`, `PollRound.Waits`.

## Main results

* `pollLoop_timesOut_iff`: a loop times out exactly when every round before the deadline waits.
* `lockTimeout_iff`: when a contender cannot wait out the lease.
-/

namespace FoundryIgra.Store

open Relational Rust

/-- One round of a loop: its clock readings, whether SQLite fails in its attempt, and what the
others do to the file before. -/
structure PollRound where
  now : UInt64
  classifyNow : UInt64
  failure : Option RusqliteError
  others : Db → Db

/-- The rounds of a loop, until one returns; `none` when none of them does. -/
def pollLoop {α : Type} (poll : PollRound → Db → Except IgraStoreError (Option α) × Db) :
    List PollRound → Db → Option (Except IgraStoreError α) × Db
  | [], db => (none, db)
  | round :: rest, db =>
    match poll round (round.others db) with
    | (.ok (some a), db') => (some (.ok a), db')
    | (.ok none, db') => pollLoop poll rest db'
    | (.error err, db') =>
      if err.isRetryableBusyError then pollLoop poll rest db' else (some (.error err), db')

/-- A round whose attempt may fail in SQLite: the deadline is checked before, and the transaction
is rolled back. -/
def orFailure {α : Type} (sender : String) (deadlineMs : UInt64) (round : PollRound) (db : Db)
    (poll : Except IgraStoreError α × Db) : Except IgraStoreError α × Db :=
  match round.failure with
  | none => poll
  | some err =>
    if deadlineMs ≤ round.now then (.error (.lockTimeout sender), db)
    else (.error (.sqlite err), db)

/-- A round of `acquire_sender_lock`. -/
def lockRound (store : IgraStore) (sender ownerId : String) (deadlineMs : UInt64)
    (round : PollRound) (db : Db) : Except IgraStoreError (Option Unit) × Db :=
  let r := pollSenderLock store db sender ownerId deadlineMs round.now
  orFailure sender deadlineMs round db
    (r.1.map fun acquired => if acquired then some () else none, r.2)

/-- A round of `acquire_sender_lock_and_classify_nonce`. -/
def lockAndClassifyRound (store : IgraStore) (sender ownerId : String) (nonce : UInt64)
    (l2TxHash : String) (deadlineMs : UInt64) (round : PollRound) (db : Db) :
    Except IgraStoreError (Option NonceOrdering) × Db :=
  orFailure sender deadlineMs round db
    (pollSenderLockAndClassifyNonce store db sender ownerId nonce l2TxHash deadlineMs round.now
      round.classifyNow)

/-- The deadline of a loop that starts at the reading `start`. -/
def IgraStore.deadlineMs (store : IgraStore) (start : UInt64) : UInt64 :=
  saturatingAdd start store.timeoutMs

/-- `acquire_sender_lock`. -/
def acquireSenderLock (store : IgraStore) (sender ownerId : String) (start : UInt64)
    (rounds : List PollRound) (db : Db) : Option (Except IgraStoreError Unit) × Db :=
  pollLoop (lockRound store sender ownerId (store.deadlineMs start)) rounds db

/-- `acquire_sender_lock_and_classify_nonce`. -/
def acquireSenderLockAndClassifyNonce (store : IgraStore) (sender ownerId : String)
    (nonce : UInt64) (l2TxHash : String) (start : UInt64) (rounds : List PollRound) (db : Db) :
    Option (Except IgraStoreError NonceOrdering) × Db :=
  pollLoop (lockAndClassifyRound store sender ownerId nonce l2TxHash (store.deadlineMs start))
    rounds db

/-! ### Rounds against a held lock -/

/-- A round does not get the lock of a lease that ends at `e`: its attempt fails because the file
is busy, or it reads a time up to `e`. -/
def PollRound.Waits (round : PollRound) (e : ℕ) : Prop :=
  match round.failure with
  | none => round.now.toNat ≤ e
  | some err => (IgraStoreError.sqlite err).isRetryableBusyError = true

section Contention

variable {α : Type} {sender holder : String} {e : ℕ} {deadlineMs : UInt64}

/-- A loop has returned a lock timeout, and the lock is as it was. -/
def TimesOut (sender holder : String) (e : ℕ) (r : Option (Except IgraStoreError α) × Db) : Prop :=
  r.1 = some (.error (.lockTimeout sender)) ∧ lockHolder r.2 sender = some (holder, e)

/-- What the rounds of a contender do while another owner holds the lock until `e`. -/
structure Contends (sender holder : String) (e : ℕ) (deadlineMs : UInt64)
    (poll : PollRound → Db → Except IgraStoreError (Option α) × Db) : Prop where
  past : ∀ round db, deadlineMs ≤ round.now → poll round db = (.error (.lockTimeout sender), db)
  fails : ∀ round db err, round.now < deadlineMs → round.failure = some err →
    poll round db = (.error (.sqlite err), db)
  waits : ∀ round db, lockHolder db sender = some (holder, e) → round.now < deadlineMs →
    round.failure = none → round.now.toNat ≤ e → poll round db = (.ok none, db)
  gets : ∀ round db, lockHolder db sender = some (holder, e) → round.now < deadlineMs →
    round.failure = none → e < round.now.toNat →
    (∃ a, (poll round db).1 = .ok (some a)) ∨
      ∃ expected got, (poll round db).1 = .error (.blockedNonceGap expected got)

/-- Another owner is let in exactly after the lease. -/
theorem canAcquire_iff_lt {db : Db} {ownerId : String} (hne : holder ≠ ownerId)
    (hheld : lockHolder db sender = some (holder, e)) (now : UInt64) :
    canAcquire db sender ownerId now = true ↔ e < now.toNat := by
  rw [canAcquire_iff_admits, hheld]
  simp [Lease.Admits, hne]

theorem orFailure_none {round : PollRound} (hfailure : round.failure = none) (db : Db)
    (poll : Except IgraStoreError α × Db) : orFailure sender deadlineMs round db poll = poll := by
  simp only [orFailure, hfailure]

theorem orFailure_some {round : PollRound} {err : RusqliteError}
    (hfailure : round.failure = some err) (hbefore : round.now < deadlineMs) (db : Db)
    (poll : Except IgraStoreError α × Db) :
    orFailure sender deadlineMs round db poll = (.error (.sqlite err), db) := by
  simp only [orFailure, hfailure, if_neg (UInt64.not_le.mpr hbefore)]

theorem orFailure_past {round : PollRound} (hpast : deadlineMs ≤ round.now) (db : Db) :
    orFailure sender deadlineMs round db
        ((.error (.lockTimeout sender), db) : Except IgraStoreError α × Db) =
      (.error (.lockTimeout sender), db) := by
  cases hfailure : round.failure with
  | none => rw [orFailure_none hfailure]
  | some err => simp only [orFailure, hfailure, if_pos hpast]

theorem contends_lockRound (store : IgraStore) {ownerId : String} (hne : holder ≠ ownerId) :
    Contends sender holder e deadlineMs (lockRound store sender ownerId deadlineMs) where
  past round db hpast := by
    rw [lockRound, pollSenderLock, if_pos hpast]
    exact orFailure_past hpast db
  fails round db err hbefore hfailure := orFailure_some hfailure hbefore ..
  waits round db hheld hbefore hfailure hnow := by
    have hcan := mt (canAcquire_iff_lt hne hheld round.now).mp (Nat.not_lt.mpr hnow)
    rw [lockRound, orFailure_none hfailure, pollSenderLock, if_neg (UInt64.not_le.mpr hbefore),
      tryAcquireSenderLockOnce, if_neg hcan]
    rfl
  gets round db hheld hbefore hfailure hnow := by
    have hcan := (canAcquire_iff_lt hne hheld round.now).mpr hnow
    rw [lockRound, orFailure_none hfailure, pollSenderLock, if_neg (UInt64.not_le.mpr hbefore),
      tryAcquireSenderLockOnce, if_pos hcan]
    exact Or.inl ⟨(), rfl⟩

theorem contends_lockAndClassifyRound (store : IgraStore) {ownerId : String}
    (hne : holder ≠ ownerId) (nonce : UInt64) (l2TxHash : String) :
    Contends sender holder e deadlineMs
      (lockAndClassifyRound store sender ownerId nonce l2TxHash deadlineMs) where
  past round db hpast := by
    rw [lockAndClassifyRound, pollSenderLockAndClassifyNonce, if_pos hpast]
    exact orFailure_past hpast db
  fails round db err hbefore hfailure := orFailure_some hfailure hbefore ..
  waits round db hheld hbefore hfailure hnow := by
    have hcan := mt (canAcquire_iff_lt hne hheld round.now).mp (Nat.not_lt.mpr hnow)
    rw [lockAndClassifyRound, orFailure_none hfailure, pollSenderLockAndClassifyNonce,
      if_neg (UInt64.not_le.mpr hbefore), tryAcquireSenderLockAndClassifyOnce, if_neg hcan]
    rfl
  gets round db hheld hbefore hfailure hnow := by
    have hcan := (canAcquire_iff_lt hne hheld round.now).mpr hnow
    rw [lockAndClassifyRound, orFailure_none hfailure, pollSenderLockAndClassifyNonce,
      if_neg (UInt64.not_le.mpr hbefore), tryAcquireSenderLockAndClassifyOnce, if_pos hcan]
    cases hc : classifyNonceInTx (writeSenderLock db sender ownerId round.now store.leaseMs) sender
        nonce (some l2TxHash) round.classifyNow with
    | ok p => exact Or.inl ⟨p.1, rfl⟩
    | error err =>
      obtain ⟨expected, -, -, rfl⟩ := classifyNonceInTx_error hc
      exact Or.inr ⟨expected, nonce, rfl⟩

/-! ### Whole calls -/

/-- The others leave the lock of the holder alone. -/
def LeaveLock (sender holder : String) (e : ℕ) (rounds : List PollRound) : Prop :=
  ∀ round ∈ rounds, ∀ db, lockHolder db sender = some (holder, e) →
    lockHolder (round.others db) sender = some (holder, e)

/-- Some round reads a time from the deadline on. -/
def ReachesDeadline (deadlineMs : UInt64) (rounds : List PollRound) : Prop :=
  ∃ round ∈ rounds, deadlineMs ≤ round.now

/-- The rounds before the deadline. -/
def roundsBefore (deadlineMs : UInt64) (rounds : List PollRound) : List PollRound :=
  rounds.takeWhile fun round => round.now < deadlineMs

variable {poll : PollRound → Db → Except IgraStoreError (Option α) × Db} {round : PollRound}
  {rest : List PollRound} {db : Db}

/-- A round that waits is followed by the rest of the loop. -/
theorem pollLoop_of_waits (hpoll : Contends sender holder e deadlineMs poll)
    (hheld : lockHolder (round.others db) sender = some (holder, e))
    (hbefore : round.now < deadlineMs) (hwaits : round.Waits e) :
    pollLoop poll (round :: rest) db = pollLoop poll rest (round.others db) := by
  rw [PollRound.Waits] at hwaits
  rw [pollLoop]
  cases hfailure : round.failure with
  | none =>
    rw [hfailure] at hwaits
    rw [hpoll.waits round _ hheld hbefore hfailure hwaits]
  | some err =>
    simp only [hfailure] at hwaits
    rw [hpoll.fails round _ err hbefore hfailure]
    simp only [hwaits, if_true]

/-- After a round that does not wait, the loop has not timed out. -/
theorem not_timesOut_of_not_waits (hpoll : Contends sender holder e deadlineMs poll)
    (hheld : lockHolder (round.others db) sender = some (holder, e))
    (hbefore : round.now < deadlineMs) (hwaits : ¬round.Waits e) :
    ¬TimesOut sender holder e (pollLoop poll (round :: rest) db) := by
  rw [PollRound.Waits] at hwaits
  rw [pollLoop]
  rintro ⟨hresult, -⟩
  cases hfailure : round.failure with
  | none =>
    simp only [hfailure, not_le] at hwaits
    have hgets := hpoll.gets round _ hheld hbefore hfailure hwaits
    generalize poll round (round.others db) = r at hgets hresult
    obtain ⟨result, db'⟩ := r
    rcases hgets with ⟨a, rfl⟩ | ⟨expected, got, rfl⟩
    · cases hresult
    · cases hresult
  | some err =>
    simp only [hfailure, Bool.not_eq_true] at hwaits
    rw [hpoll.fails round _ err hbefore hfailure] at hresult
    simp [hwaits] at hresult

/-- **A loop times out** exactly when every round before the deadline waits. -/
theorem pollLoop_timesOut_iff (hpoll : Contends sender holder e deadlineMs poll)
    {rounds : List PollRound} (hothers : LeaveLock sender holder e rounds)
    (hend : ReachesDeadline deadlineMs rounds)
    (hheld : lockHolder db sender = some (holder, e)) :
    TimesOut sender holder e (pollLoop poll rounds db) ↔
      ∀ round ∈ roundsBefore deadlineMs rounds, round.Waits e := by
  induction rounds generalizing db with
  | nil =>
    obtain ⟨round, hround, -⟩ := hend
    cases hround
  | cons round rest ih =>
    have hheld' := hothers round List.mem_cons_self db hheld
    have hrest : LeaveLock sender holder e rest :=
      fun r hr => hothers r (List.mem_cons_of_mem _ hr)
    by_cases hpast : deadlineMs ≤ round.now
    · rw [pollLoop, hpoll.past round _ hpast, roundsBefore,
        List.takeWhile_cons_of_neg (by simpa using hpast)]
      exact iff_of_true ⟨rfl, hheld'⟩ (by simp)
    · have hbefore := UInt64.not_le.mp hpast
      have hend' : ReachesDeadline deadlineMs rest := by
        obtain ⟨r, hr, hle⟩ := hend
        rcases List.mem_cons.mp hr with rfl | hr
        · exact absurd hle hpast
        · exact ⟨r, hr, hle⟩
      rw [roundsBefore, List.takeWhile_cons_of_pos (by simpa using hbefore),
        List.forall_mem_cons]
      by_cases hwaits : round.Waits e
      · rw [pollLoop_of_waits hpoll hheld' hbefore hwaits, ih hrest hend' hheld', roundsBefore]
        exact ⟨fun h => ⟨hwaits, h⟩, fun h => h.2⟩
      · exact iff_of_false (not_timesOut_of_not_waits hpoll hheld' hbefore hwaits)
          fun h => hwaits h.1

/-- The clock does not go back from the start of a call on. -/
def ClockRuns (start : UInt64) (rounds : List PollRound) : Prop :=
  (start :: rounds.map PollRound.now).Pairwise (· ≤ ·)

/-- SQLite fails only because the file is busy. -/
def OnlyBusy (rounds : List PollRound) : Prop :=
  ∀ round ∈ rounds, ∀ err, round.failure = some err →
    (IgraStoreError.sqlite err).isRetryableBusyError = true

theorem toNat_deadlineMs (store : IgraStore) (start : UInt64) :
    (store.deadlineMs start).toNat = min (start.toNat + store.timeoutMs.toNat) (2 ^ 64 - 1) :=
  toNat_saturatingAdd ..

theorem toNat_leaseExpiry (store : IgraStore) (now : UInt64) :
    (store.leaseExpiry now).toNat =
      min (now.toNat + min (2 * store.timeoutMs.toNat) (2 ^ 64 - 1)) (2 ^ 64 - 1) := by
  have htwo : (2 : UInt64).toNat = 2 := rfl
  rw [IgraStore.leaseExpiry, toNat_saturatingAdd, IgraStore.leaseMs, toNat_saturatingMul, htwo,
    Nat.mul_comm]

/-- When the deadline of a contender comes before the lease has ended. -/
theorem deadlineMs_le_iff (store : IgraStore) (acquired start : UInt64) :
    (store.deadlineMs start).toNat ≤ (store.leaseExpiry acquired).toNat + 1 ↔
      start.toNat ≤ acquired.toNat + store.timeoutMs.toNat + 1 ∨
        2 ^ 64 - 2 ≤ acquired.toNat + 2 * store.timeoutMs.toNat := by
  have hstart := start.toNat_lt
  rw [toNat_deadlineMs, toNat_leaseExpiry]
  omega

/-- Two rounds at given readings, with nothing between them. -/
def quietRounds (first second : UInt64) : List PollRound :=
  [⟨first, first, none, id⟩, ⟨second, second, none, id⟩]

theorem leaveLock_quietRounds (first second : UInt64) :
    LeaveLock sender holder e (quietRounds first second) := by
  intro round hround db h
  simp only [quietRounds, List.mem_cons, List.not_mem_nil, or_false] at hround
  rcases hround with rfl | rfl
  · exact h
  · exact h

theorem onlyBusy_quietRounds (first second : UInt64) : OnlyBusy (quietRounds first second) := by
  intro round hround err herr
  simp only [quietRounds, List.mem_cons, List.not_mem_nil, or_false] at hround
  rcases hround with rfl | rfl
  · cases herr
  · cases herr

theorem clockRuns_quietRounds {start first second : UInt64} (hfirst : start ≤ first)
    (hsecond : first ≤ second) : ClockRuns start (quietRounds first second) := by
  have hlast := UInt64.le_trans hfirst hsecond
  simp [ClockRuns, quietRounds, hfirst, hsecond, hlast]

/-- When the deadline comes at most a millisecond after the lease, every round before it waits. -/
theorem waits_of_deadline_le {rounds : List PollRound} (hdeadline : deadlineMs.toNat ≤ e + 1)
    (hbusy : OnlyBusy rounds) : ∀ round ∈ roundsBefore deadlineMs rounds, round.Waits e := by
  intro round hround
  have hbefore : round.now < deadlineMs :=
    of_decide_eq_true (List.all_eq_true.mp List.all_takeWhile round hround)
  rw [PollRound.Waits]
  cases hfailure : round.failure with
  | none =>
    rw [UInt64.lt_iff_toNat_lt] at hbefore
    simp only
    omega
  | some err => exact hbusy round (List.takeWhile_subset _ hround) err hfailure

/-- When it comes later, some clock passes the end of the lease just before the deadline. -/
theorem exists_not_waits {start : UInt64} (hstart : start.toNat ≤ e)
    (hdeadline : e + 1 < deadlineMs.toNat) (sender holder : String) :
    ∃ rounds, LeaveLock sender holder e rounds ∧ ReachesDeadline deadlineMs rounds ∧
      ClockRuns start rounds ∧ OnlyBusy rounds ∧
      ∃ round ∈ roundsBefore deadlineMs rounds, ¬round.Waits e := by
  have hlt := deadlineMs.toNat_lt
  have hfirst : (UInt64.ofNat (e + 1)).toNat = e + 1 :=
    UInt64.toNat_ofNat_of_lt' (show e + 1 < 2 ^ 64 by omega)
  generalize UInt64.ofNat (e + 1) = first at hfirst
  have hbefore : first < deadlineMs := by
    rw [UInt64.lt_iff_toNat_lt]
    omega
  have hafter : start ≤ first := by
    rw [UInt64.le_iff_toNat_le]
    omega
  refine ⟨quietRounds first deadlineMs, leaveLock_quietRounds _ _,
    ⟨_, List.mem_cons_of_mem _ List.mem_cons_self, UInt64.le_refl _⟩,
    clockRuns_quietRounds hafter (UInt64.le_of_lt hbefore), onlyBusy_quietRounds _ _,
    ⟨first, first, none, id⟩, by simp [roundsBefore, quietRounds, hbefore], fun hwaits => ?_⟩
  have hle : first.toNat ≤ e := hwaits
  omega

/-- Both acquisitions time out against a held lock exactly when every round before the deadline
waits. -/
theorem acquire_timesOut_iff {store : IgraStore} {ownerId : String} {start : UInt64}
    (hne : holder ≠ ownerId) (hheld : lockHolder db sender = some (holder, e)) (nonce : UInt64)
    (l2TxHash : String) {rounds : List PollRound} (hothers : LeaveLock sender holder e rounds)
    (hend : ReachesDeadline (store.deadlineMs start) rounds) :
    (TimesOut sender holder e (acquireSenderLock store sender ownerId start rounds db) ↔
      ∀ round ∈ roundsBefore (store.deadlineMs start) rounds, round.Waits e) ∧
    (TimesOut sender holder e
        (acquireSenderLockAndClassifyNonce store sender ownerId nonce l2TxHash start rounds db) ↔
      ∀ round ∈ roundsBefore (store.deadlineMs start) rounds, round.Waits e) :=
  ⟨pollLoop_timesOut_iff (contends_lockRound store hne) hothers hend hheld,
    pollLoop_timesOut_iff (contends_lockAndClassifyRound store hne nonce l2TxHash) hothers hend
      hheld⟩

/-- **When a contender cannot wait out the lease.** A call that reaches its deadline against a lock
that stays as it is times out, without the lock, exactly when no attempt before the deadline reads
a time after the lease (or fails for another reason than a busy file). Under every clock this holds
exactly when the contender starts at most the waiting time, and a millisecond, after the
acquisition. -/
theorem lockTimeout_iff {store : IgraStore} {ownerId : String} {acquired start : UInt64}
    (hne : holder ≠ ownerId)
    (hheld : lockHolder db sender = some (holder, (store.leaseExpiry acquired).toNat))
    (hunexpired : start ≤ store.leaseExpiry acquired) (nonce : UInt64) (l2TxHash : String) :
    (∀ rounds, LeaveLock sender holder (store.leaseExpiry acquired).toNat rounds →
      ReachesDeadline (store.deadlineMs start) rounds →
      (TimesOut sender holder (store.leaseExpiry acquired).toNat
          (acquireSenderLock store sender ownerId start rounds db) ↔
        ∀ round ∈ roundsBefore (store.deadlineMs start) rounds,
          round.Waits (store.leaseExpiry acquired).toNat) ∧
      (TimesOut sender holder (store.leaseExpiry acquired).toNat
          (acquireSenderLockAndClassifyNonce store sender ownerId nonce l2TxHash start rounds db) ↔
        ∀ round ∈ roundsBefore (store.deadlineMs start) rounds,
          round.Waits (store.leaseExpiry acquired).toNat)) ∧
    ((∀ rounds, LeaveLock sender holder (store.leaseExpiry acquired).toNat rounds →
        ReachesDeadline (store.deadlineMs start) rounds → ClockRuns start rounds →
        OnlyBusy rounds →
        TimesOut sender holder (store.leaseExpiry acquired).toNat
            (acquireSenderLock store sender ownerId start rounds db) ∧
          TimesOut sender holder (store.leaseExpiry acquired).toNat
            (acquireSenderLockAndClassifyNonce store sender ownerId nonce l2TxHash start rounds
              db)) ↔
      start.toNat ≤ acquired.toNat + store.timeoutMs.toNat + 1 ∨
        2 ^ 64 - 2 ≤ acquired.toNat + 2 * store.timeoutMs.toNat) := by
  refine ⟨fun rounds hothers hend =>
    acquire_timesOut_iff hne hheld nonce l2TxHash hothers hend, ?_⟩
  rw [← deadlineMs_le_iff]
  constructor
  · intro h
    by_contra hlate
    obtain ⟨rounds, hothers, hend, hclock, hbusy, round, hround, hnot⟩ := exists_not_waits
      (UInt64.le_iff_toNat_le.mp hunexpired) (Nat.not_le.mp hlate) sender holder
    have htimeout := (h rounds hothers hend hclock hbusy).1
    exact hnot ((acquire_timesOut_iff hne hheld nonce l2TxHash hothers hend).1.mp htimeout round
      hround)
  · intro hearly rounds hothers hend _ hbusy
    have hwaits := waits_of_deadline_le hearly hbusy
    obtain ⟨hlock, hclassify⟩ := acquire_timesOut_iff hne hheld nonce l2TxHash hothers hend
    exact ⟨hlock.mpr hwaits, hclassify.mpr hwaits⟩

end Contention

/-- The file after an owner took the lock at time 0; the lease ends at 2000. -/
def heldDb : Db :=
  (tryAcquireSenderLockOnce Db.empty "0x1111" "owner-a" 0 oneSecondStore.leaseMs).2

theorem lockHolder_heldDb :
    lockHolder heldDb "0x1111" = some ("owner-a", (oneSecondStore.leaseExpiry 0).toNat) := by
  decide +kernel

/-- A contender that starts at time 1500 waits out the lease: its deadline is 2500, and it takes
the lock at time 2001 on either path. -/
theorem lockTimeout_waited_out :
    lockHolder heldDb "0x1111" = some ("owner-a", 2000) ∧
    (acquireSenderLock oneSecondStore "0x1111" "owner-b" 1500 (quietRounds 1500 2001) heldDb).1 =
      some (.ok ()) ∧
    lockHolder (acquireSenderLock oneSecondStore "0x1111" "owner-b" 1500 (quietRounds 1500 2001)
      heldDb).2 "0x1111" = some ("owner-b", 4001) ∧
    (acquireSenderLockAndClassifyNonce oneSecondStore "0x1111" "owner-b" 0 "0xabcd" 1500
      (quietRounds 1500 2001) heldDb).1 = some (.ok (.inOrder 0)) := by
  exact ⟨by decide +kernel, rfl, by decide +kernel, rfl⟩

/-- A contender that starts right after the acquisition does not. -/
theorem lockTimeout_iff_at_once :
    lockHolder heldDb "0x1111" = some ("owner-a", (oneSecondStore.leaseExpiry 0).toNat) ∧
    ∀ rounds, LeaveLock "0x1111" "owner-a" (oneSecondStore.leaseExpiry 0).toNat rounds →
      ReachesDeadline (oneSecondStore.deadlineMs 1) rounds → ClockRuns 1 rounds →
      OnlyBusy rounds →
      TimesOut "0x1111" "owner-a" (oneSecondStore.leaseExpiry 0).toNat
          (acquireSenderLock oneSecondStore "0x1111" "owner-b" 1 rounds heldDb) ∧
        TimesOut "0x1111" "owner-a" (oneSecondStore.leaseExpiry 0).toNat
          (acquireSenderLockAndClassifyNonce oneSecondStore "0x1111" "owner-b" 0 "0xabcd" 1 rounds
            heldDb) := by
  have hne : "owner-a" ≠ "owner-b" := by decide
  exact ⟨lockHolder_heldDb,
    (lockTimeout_iff hne lockHolder_heldDb (by decide) 0 "0xabcd").2.mpr (Or.inl (by decide))⟩

end FoundryIgra.Store
