import FoundryIgra.Transport.Outcome
import FoundryIgra.Transport.Serialization

/-!
# What a request leaves behind

A request writes the lock row of its sender in an acquisition round that grants, gives the lock
back exactly when it got it, and touches the expected nonce of its sender only with a grant. Lock
rows of other owners it overwrites only in such a round, past their expiry, and the rows of other
senders not at all.

## Main definitions

* `LockPending`, `LockFinal`: the lock discipline of a request.
* `Spares`, `Untouched`: what a call leaves alone.
* `OwnRows`: where the lock rows under the owner id of a request come from.

## Main results

* `holds_lockDiscipline`: every tracked request keeps the lock discipline.
* `spares_of_effect`: the calls of a request spare what is not its own.
* `footprint`: what a request that has returned left behind.
-/

namespace FoundryIgra

open Rust Store Concurrency Relational

/-! ### The lock discipline -/

/-- The request holds its lock. -/
def Granted (g : Progress) : Prop :=
  (∃ p, g.grant = some p) ∧ g.released = false ∧ g.refusal = none

/-- What holds of the lock when a request makes a call. -/
def LockPending (g : Progress) : TransportOp → Prop
  | .pollLock _ _ => g.released = false
  | .markSubmitted _ _ _ => ∃ p, g.grant = some p
  | .release _ _ _ => ∃ p, g.grant = some p
  | _ => True

/-- What holds of the lock when a request returns: it never got it, or it gave it back. -/
def LockFinal (g : Progress) : Prop :=
  g.grant = none ∨ g.released = true ∧ g.refusal = none

section Discipline

variable {lib : Externals} {self : IgraTransport} {rawSend : RawSendRequest}
  {tracked : TrackedSend} {g : Progress}

theorem granted_submit (hg : Granted g) (txIdPrefix : String) (inOrderSubmit : Bool)
    (observation : ReplacementObservation) :
    Holds LockPending (fun _ g => Granted g)
      (submit lib self rawSend txIdPrefix (some tracked) inOrderSubmit observation) g := by
  refine holds_bind.mpr (holds_persist trivial ?_)
  refine holds_bind.mpr (holds_call trivial fun _ _ => ?_)
  refine holds_bind.mpr (holds_call trivial fun a _ => ?_)
  match a with
  | .error err => exact hg
  | .ok result =>
    exact holds_bind.mpr (holds_recordSubmission (fun _ _ _ => trivial) (fun _ _ => hg.1) hg)

/-- The inner block tells truly whether the lock was acquired. -/
theorem locks_sendRawTransaction :
    Holds LockPending (fun outcome g => if outcome.1 = true then Granted g else g.grant = none)
      (sendRawTransaction lib self rawSend (some tracked)) .start := by
  rw [sendRawTransaction]
  cases self.txIdPrefix with
  | none => exact rfl
  | some txIdPrefix =>
    refine holds_bind.mpr (holds_persist trivial ?_)
    refine holds_bind.mpr (holds_acquire trivial (fun _ => rfl) ?_ ?_ ?_)
    · rintro now ordering
      refine holds_bind.mpr (holds_recordObservation (fun _ _ => trivial) fun w => ?_)
      exact holds_bind.mpr (granted_submit ⟨⟨_, rfl⟩, rfl, rfl⟩ ..)
    · exact holds_bind.mpr (holds_persist trivial rfl)
    · exact fun e => holds_bind.mpr (holds_persist trivial rfl)

theorem lockFinal_of_granted {acquired : Bool} {result : Except TransportError ResponsePacket}
    (hg : if acquired = true then Granted g else g.grant = none) :
    LockFinal { g.concluded tracked result with released := acquired || g.released } := by
  cases acquired with
  | false => exact Or.inl (g.concluded_grant.trans hg)
  | true =>
    obtain ⟨-, -, hrefusal⟩ : Granted g := hg
    exact Or.inr ⟨rfl, g.concluded_refusal.trans hrefusal⟩

/-- **The lock discipline.** A tracked request acquires before it releases, and returns without
the lock. -/
theorem holds_lockDiscipline {stamp : RequestStamp} {packet : RequestPacket}
    (h : self.tracked lib stamp packet = some tracked) :
    Holds LockPending (fun _ g => LockFinal g) (self.request lib stamp packet) .start := by
  refine holds_request_of_tracked h (fun _ => locks_sendRawTransaction) ?_
  rintro ⟨acquired, result⟩ g hg
  refine holds_finish (fun _ _ => trivial) ?_ (lockFinal_of_granted hg)
  rintro rfl
  obtain ⟨hgrant, -⟩ : Granted g := hg
  simpa only [LockPending, Progress.concluded_grant] using hgrant

end Discipline

/-! ### What a call does to the tables -/

section Effects

variable {clock : ℕ} {db db' : Db} {op : TransportOp} {a : op.Ans}

theorem mem_writeSenderLock {sender ownerId : String} {now leaseMs : UInt64} {r : SenderLockRow} :
    r ∈ (writeSenderLock db sender ownerId now leaseMs).senderLocks.rows ↔
      r = ⟨sender, ownerId, (saturatingAdd now leaseMs).toInt64, now.toInt64⟩ ∨
        r ∈ db.senderLocks.rows ∧ r.sender ≠ sender :=
  Table.mem_upsert

theorem mem_releaseSenderLock {sender ownerId : String} {r : SenderLockRow} :
    r ∈ (releaseSenderLock db sender ownerId).senderLocks.rows ↔
      r ∈ db.senderLocks.rows ∧ (r.sender = sender → r.ownerId ≠ ownerId) := by
  simp [releaseSenderLock, imp_iff_not_or]

theorem find?_releaseSenderLock_of_sender_ne {sender s : String} (h : s ≠ sender)
    (ownerId : String) : (releaseSenderLock db sender ownerId).senderLocks.find? s =
      db.senderLocks.find? s := by
  rw [releaseSenderLock, Table.find?_deleteWhere]
  cases hfind : db.senderLocks.find? s with
  | none => rfl
  | some r =>
    have hs : r.sender = s := Table.key_of_find? hfind
    exact Option.filter_some_pos (by simp [hs, h])

/-- Only an acquisition round writes a lock row, under the owner id of its request, and a release
leaves none of the owner it is for. -/
theorem mem_senderLocks_effect (heff : Effect clock db db' op a) {r : SenderLockRow}
    (hr : r ∈ db'.senderLocks.rows) :
    (r ∈ db.senderLocks.rows ∧ ∀ store s o, op = .release store s o →
      r.sender = s → r.ownerId ≠ o) ∨
    ∃ t now, GrantedRound t now ⟨op, a⟩ ∧ r.sender = t.sender ∧ r.ownerId = t.lockOwnerId := by
  by_cases hrelease : ∃ store s o, op = .release store s o
  · obtain ⟨store, s, o, rfl⟩ := hrelease
    obtain rfl : db' = releaseSenderLock db s o := heff
    obtain ⟨hmem, hne⟩ := mem_releaseSenderLock.mp hr
    refine Or.inl ⟨hmem, ?_⟩
    rintro _ _ _ ⟨⟩
    exact hne
  · have hno : ∀ store s o, op = .release store s o → r.sender = s → r.ownerId ≠ o :=
      fun store s o h => absurd ⟨store, s, o, h⟩ hrelease
    rcases effect_cases heff with rfl | ⟨_, _, _, -, rfl⟩ | ⟨t, now, hround, -, -, hgrants⟩ |
      ⟨_, _, _, _, _, -, -, -, rfl⟩ | ⟨store, s, o, h, -⟩
    · exact Or.inl ⟨hr, hno⟩
    · exact Or.inl ⟨hr, hno⟩
    · rw [hgrants.tables.1] at hr
      rcases mem_writeSenderLock.mp hr with rfl | ⟨hmem, -⟩
      · exact Or.inr ⟨t, now, hround, rfl, rfl⟩
      · exact Or.inl ⟨hmem, hno⟩
    · exact Or.inl ⟨hr, hno⟩
    · exact absurd ⟨store, s, o, h⟩ hrelease

/-- What a call spares that concerns `t`: lock rows of other owners, but for an acquisition round
past their expiry, the rows of other senders, and the records of other transactions. -/
structure Spares (t : TrackedSend) (e : TransportOps.Event) (db db' : Db) : Prop where
  owners : ∀ r ∈ db.senderLocks.rows, r.ownerId ≠ t.lockOwnerId → r ∈ db'.senderLocks.rows ∨
    ∃ now, GrantedRound t now e ∧ r.expiresAtMs.toUInt64 < now
  senderLocks : ∀ sender, sender ≠ t.sender →
    db'.senderLocks.find? sender = db.senderLocks.find? sender
  senderNonceState : ∀ sender, sender ≠ t.sender →
    db'.senderNonceState.find? sender = db.senderNonceState.find? sender
  txMap : ∀ hash, hash ≠ t.l2TxHash → db'.txMap.find? hash = db.txMap.find? hash
  schemaMeta : db'.schemaMeta = db.schemaMeta

theorem Spares.refl (t : TrackedSend) (e : TransportOps.Event) (db : Db) : Spares t e db db :=
  ⟨fun _ hr _ => Or.inl hr, fun _ _ => rfl, fun _ _ => rfl, fun _ _ => rfl, rfl⟩

theorem find?_setNextExpectedNonce_of_ne {sender s : String} (h : s ≠ sender)
    (next ms : UInt64) : (setNextExpectedNonce db sender next ms).senderNonceState.find? s =
      db.senderNonceState.find? s := by
  rw [setNextExpectedNonce, Table.find?_upsert, if_neg (Ne.symm h)]

/-- Writing the lock row of `t` overwrites a row of another owner only past its expiry. -/
theorem mem_writeSenderLock_of_ne {t : TrackedSend} {now : UInt64}
    (hadmits : Lease.Admits (lockHolder db t.sender) t.lockOwnerId now.toNat)
    {r : SenderLockRow} (hr : r ∈ db.senderLocks.rows) (hne : r.ownerId ≠ t.lockOwnerId) :
    r ∈ (writeSenderLock db t.sender t.lockOwnerId now t.store.leaseMs).senderLocks.rows ∨
      r.expiresAtMs.toUInt64 < now := by
  by_cases hs : r.sender = t.sender
  · have hholder : lockHolder db t.sender = some (r.ownerId, r.expiresAtMs.toUInt64.toNat) := by
      rw [lockHolder, Table.find?_eq_some.mpr ⟨hr, hs⟩]
      rfl
    rcases hadmits _ _ hholder with howner | hexpired
    · exact absurd howner hne
    · exact Or.inr (UInt64.lt_iff_toNat_lt.mpr hexpired)
  · exact Or.inl (mem_writeSenderLock.mpr (Or.inr ⟨hr, hs⟩))

/-- The calls of a tracked request spare what is not its own. -/
theorem spares_of_effect {t : TrackedSend} {g : Progress} (heff : Effect clock db db' op a)
    (hpending : Pending t g op) : Spares t ⟨op, a⟩ db db' := by
  rcases effect_cases heff with rfl | ⟨store, u, now, rfl, rfl⟩ |
    ⟨t', now, hround, -, hadmits, hgrants⟩ | ⟨store, sender, nonce, next, ms, rfl, -, -, rfl⟩ |
    ⟨store, sender, ownerId, rfl, rfl⟩
  · exact .refl ..
  · obtain ⟨-, hhash⟩ := hpending
    refine ⟨fun _ hr _ => Or.inl hr, fun _ _ => rfl, fun _ _ => rfl, fun hash hne => ?_, rfl⟩
    rw [find?_persistTransition, if_neg fun h => hne (h.symm.trans hhash)]
  · obtain rfl : t' = t := by
      obtain ⟨deadlineMs, rfl⟩ := hround.op_eq
      exact hpending
    obtain ⟨hlocks, htx, hmeta⟩ := hgrants.tables
    refine ⟨fun r hr hne => ?_, fun sender hne => ?_, fun sender hne => ?_,
      fun hash _ => by rw [htx], hmeta⟩
    · rw [hlocks]
      exact (mem_writeSenderLock_of_ne hadmits hr hne).imp_right fun h => ⟨now, hround, h⟩
    · rw [hlocks, writeSenderLock, Table.find?_upsert, if_neg (Ne.symm hne)]
    · rcases hgrants with rfl | ⟨-, _, rfl⟩
      · rfl
      · exact find?_setNextExpectedNonce_of_ne hne _ _
  · obtain ⟨-, rfl, -⟩ := hpending
    exact ⟨fun _ hr _ => Or.inl hr, fun _ _ => rfl,
      fun s hne => find?_setNextExpectedNonce_of_ne hne _ _, fun _ _ => rfl, rfl⟩
  · obtain ⟨-, rfl, rfl⟩ := hpending
    refine ⟨fun r hr hne => Or.inl (mem_releaseSenderLock.mpr ⟨hr, fun _ => hne⟩),
      fun sender hne => ?_, fun _ _ => rfl, fun _ _ => rfl, rfl⟩
    exact find?_releaseSenderLock_of_sender_ne hne _

end Effects

/-! ### Runs -/

section Sessions

variable {lib : Externals} {calls : ℕ → RequestCall} {w : World} {c : SessionConf} {i : ℕ}
  {t : TrackedSend}

/-- The lock discipline at the pending call of a request. -/
theorem Session.lockPending (h : Session lib calls w c) (ht : (calls i).tracked lib = some t)
    {op : TransportOp} (ho : (c.thread i).status = .inl op) : LockPending (progress c i) op :=
  Reachable.pending h machine_succeeds (holds_lockDiscipline ht) ho

/-- The lock discipline at the return of a request. -/
theorem Session.lockFinal (h : Session lib calls w c) (ht : (calls i).tracked lib = some t)
    {result : Except TransportError ResponsePacket} (hr : (c.thread i).status = .inr result) :
    LockFinal (progress c i) :=
  Reachable.returned h machine_succeeds (holds_lockDiscipline ht) hr

/-- Every lock row under the owner id of `t` was there before, or is the row of a lock that
request `i` holds. -/
def OwnRows (w : World) (c : SessionConf) (i : ℕ) (t : TrackedSend) : Prop :=
  ∀ r ∈ c.world.db.senderLocks.rows, r.ownerId = t.lockOwnerId →
    r ∈ w.db.senderLocks.rows ∨
      r.sender = t.sender ∧ (progress c i).grant ≠ none ∧ (progress c i).released = false

/-- A call of the request itself keeps `OwnRows`. -/
theorem OwnRows.own (hrows : OwnRows w c i t) (ht : (calls i).tracked lib = some t)
    {op : TransportOp} {k : op.Out → Request (Except TransportError ResponsePacket)}
    {a : op.Ans} {w' : World} (hans : Answered lib calls c i op a w')
    (hlock : LockPending (progress c i) op) : OwnRows w (c.attempt i op k a w') i t := by
  intro r hr howner
  have hpending := hans.invariant
  rw [ht] at hpending
  rw [progress_attempt, if_pos rfl]
  rcases mem_senderLocks_effect hans.effect hr with ⟨hmem, hkept⟩ | ⟨t', now, hround, hsender, -⟩
  · rcases hrows r hmem howner with hprior | ⟨hsender, hgrant, hreleased⟩
    · exact Or.inl hprior
    · have hno : ∀ store s o, op ≠ .release store s o := by
        rintro store s o rfl
        obtain ⟨-, rfl, rfl⟩ := hpending
        exact hkept store t.sender t.lockOwnerId rfl hsender howner
      exact Or.inr ⟨hsender, grant_kept _ op a hgrant, (released_after hno).trans hreleased⟩
  · obtain ⟨ordering, hafter⟩ := hround.after (progress c i)
    obtain ⟨_, _, _, ⟨⟩, -, -⟩ := hround
    obtain rfl : t' = t := hpending
    rw [hafter]
    exact Or.inr ⟨hsender, nofun, hlock⟩

/-- A call of a request with another owner id keeps `OwnRows`. -/
theorem OwnRows.other {j : ℕ} (hji : j ≠ i) (hrows : OwnRows w c i t)
    (hne : ∀ t', (calls j).tracked lib = some t' → t'.lockOwnerId ≠ t.lockOwnerId)
    {op : TransportOp} {k : op.Out → Request (Except TransportError ResponsePacket)}
    {a : op.Ans} {w' : World} (hans : Answered lib calls c j op a w') :
    OwnRows w (c.attempt j op k a w') i t := by
  intro r hr howner
  rw [progress_attempt, if_neg hji]
  rcases mem_senderLocks_effect hans.effect hr with ⟨hmem, -⟩ | ⟨t', now, hround, -, howner'⟩
  · exact hrows r hmem howner
  · obtain ⟨deadlineMs, _, _, ⟨⟩, -, -⟩ := hround
    exact absurd (howner'.symm.trans howner) ((hans.owner_ne hne).1 t' deadlineMs rfl)

theorem Session.ownRows (h : Session lib calls w c) (ht : (calls i).tracked lib = some t)
    (howners : ∀ j t', j ≠ i → (calls j).tracked lib = some t' →
      t'.lockOwnerId ≠ t.lockOwnerId) : OwnRows w c i t := by
  refine Reachable.invariant h (P := fun c => OwnRows w c i t) (fun r hr _ => Or.inl hr)
    fun d d' m hd hrows hm => ?_
  rcases Session.step_cases hd hm with ⟨clock, -, rfl⟩ | ⟨j, op, k, a, w', hj, rfl, hans⟩
  · exact hrows
  · by_cases hji : j = i
    · subst hji
      exact hrows.own ht hans (Session.lockPending hd ht (by rw [hj]; rfl))
    · exact hrows.other hji (fun t' => howners j t' hji) hans

/-- The entry leaves the lock rows and the expected nonces alone. -/
def Untouched (x : Entry TransportOps World) : Prop :=
  x.after.db.senderLocks = x.before.db.senderLocks ∧
    x.after.db.senderNonceState = x.before.db.senderNonceState

/-- A call of a request without the lock that does not get it leaves the lock rows and the
expected nonces alone. -/
theorem untouched_of_effect {clock : ℕ} {db db' : Db} {op : TransportOp} {a : op.Ans}
    {g : Progress} (heff : Effect clock db db' op a) (hlock : LockPending g op)
    (hbefore : g.grant = none) (hafter : (g.after op a).grant = none) :
    db'.senderLocks = db.senderLocks ∧ db'.senderNonceState = db.senderNonceState := by
  rcases effect_cases heff with rfl | ⟨_, _, _, -, rfl⟩ | ⟨t', now, hround, -⟩ |
    ⟨store, sender, nonce, _, _, rfl, -⟩ | ⟨store, sender, ownerId, rfl, -⟩
  · exact ⟨rfl, rfl⟩
  · exact ⟨rfl, rfl⟩
  · obtain ⟨ordering, heq⟩ := hround.after g
    rw [heq] at hafter
    cases hafter
  · obtain ⟨p, hp⟩ := hlock
    rw [hbefore] at hp
    cases hp
  · obtain ⟨p, hp⟩ := hlock
    rw [hbefore] at hp
    cases hp

/-- A request that was not granted the lock touched neither the locks nor the expected nonces. -/
theorem Session.untouched (h : Session lib calls w c) (ht : (calls i).tracked lib = some t) :
    (progress c i).grant = none → ∀ x ∈ c.history, x.tid = i → Untouched x := by
  refine Reachable.invariant h
    (P := fun c => (progress c i).grant = none → ∀ x ∈ c.history, x.tid = i → Untouched x)
    (fun _ x hx => absurd hx List.not_mem_nil) fun d d' m hd hall hm => ?_
  rcases Session.step_cases hd hm with ⟨clock, -, rfl⟩ | ⟨j, op, k, a, w', hj, rfl, hans⟩
  · exact hall
  · intro hafter x hx hxi
    rw [progress_attempt] at hafter
    by_cases hji : j = i
    · subst hji
      rw [if_pos rfl] at hafter
      have hbefore : (progress d j).grant = none := by
        by_contra hgrant
        exact grant_kept _ op a hgrant hafter
      rcases List.mem_cons.mp hx with rfl | hx
      · exact untouched_of_effect hans.effect (Session.lockPending hd ht (by rw [hj]; rfl))
          hbefore hafter
      · exact hall hbefore x hx hxi
    · rw [if_neg hji] at hafter
      rcases List.mem_cons.mp hx with rfl | hx
      · exact absurd hxi hji
      · exact hall hafter x hx hxi

/-- The calls of a request spare what is not its own. -/
theorem Session.spares (h : Session lib calls w c) (ht : (calls i).tracked lib = some t) :
    ∀ x ∈ c.history, x.tid = i → Spares t x.event x.before.db x.after.db := by
  rintro x hx rfl
  obtain ⟨d, hd, hans⟩ := h.answered_of_mem x hx
  have hpending := hans.invariant
  have heff := hans.effect
  rw [ht] at hpending
  rw [hd] at heff
  exact spares_of_effect heff hpending

/-- **What a request leaves behind.** Once a tracked request has returned, a lock row under its
owner id was there before the session. Its calls spared what is not its own. If its acquisition
timed out or found a nonce gap, it returned that error and never touched the locks or the expected
nonces. -/
theorem footprint (h : Session lib calls w c) (ht : (calls i).tracked lib = some t)
    (howners : ∀ j t', j ≠ i → (calls j).tracked lib = some t' →
      t'.lockOwnerId ≠ t.lockOwnerId)
    {result : Except TransportError ResponsePacket} (hret : (c.thread i).status = .inr result) :
    (∀ r ∈ c.world.db.senderLocks.rows, r.ownerId = t.lockOwnerId →
      r ∈ w.db.senderLocks.rows) ∧
    (∀ x ∈ c.history, x.tid = i → Spares t x.event x.before.db x.after.db) ∧
    ∀ err, (progress c i).refusal = some err →
      (err = .lockTimeout t.sender ∨ ∃ e, err = .blockedNonceGap e t.l2Nonce) ∧
        result = .error err.toText ∧ ∀ x ∈ c.history, x.tid = i → Untouched x := by
  have hfinal := h.lockFinal ht hret
  refine ⟨fun r hr howner => ?_, h.spares ht, fun err herr => ?_⟩
  · rcases h.ownRows ht howners r hr howner with hprior | ⟨-, hgrant, hreleased⟩
    · exact hprior
    · rcases hfinal with hnone | ⟨htrue, -⟩
      · exact absurd hnone hgrant
      · exact absurd (htrue.symm.trans hreleased) nofun
  · have hgrant : (progress c i).grant = none := by
      rcases hfinal with hnone | ⟨-, hrefusal⟩
      · exact hnone
      · exact absurd (herr.symm.trans hrefusal) nofun
    exact ⟨(h.exists_refused ht herr).1, (h.returned hret t ht).refused err herr,
      h.untouched ht hgrant⟩

end Sessions

/-! ### The session of one transaction -/

/-- **A release after a takeover.** The first request outlives its lease inside `submit_payload`,
the second takes its lock over, and the release of the first leaves the row of the second. -/
theorem footprint_takeover : ∃ c, Session sampleExternals sampleCalls sampleWorld c ∧
    (c.thread 0).status = .inr (.ok sampleResponse) ∧
    (lockHolder c.world.db sampleSender).map Prod.fst =
      some (sampleTracked "1700000002001-4242-2-3e963e4e").lockOwnerId ∧
    (∀ r ∈ c.world.db.senderLocks.rows,
      r.ownerId ≠ (sampleTracked "1700000000000-4242-1-48a1f306").lockOwnerId) ∧
    ∀ x ∈ c.history, x.tid = 0 →
      Spares (sampleTracked "1700000000000-4242-1-48a1f306") x.event x.before.db x.after.db := by
  obtain ⟨c, hc, hP⟩ := exists_session_of_any sampleExternals sampleCalls sampleWorld
    (sampleMoves 0 5 1700000000000 (.error "") ++
      .tick (1700000002001 : ℕ) :: sampleMoves 1 5 1700000002001 (.error "") ++
      sampleMoves 0 6 1700000002001 (.ok sampleResult))
    (fun c => decide ((c.thread 0).status = .inr (.ok sampleResponse) ∧
      (lockHolder c.world.db sampleSender).map Prod.fst =
        some (sampleTracked "1700000002001-4242-2-3e963e4e").lockOwnerId)) (by decide +kernel)
  obtain ⟨hret, hholder⟩ := of_decide_eq_true hP
  obtain ⟨hrows, hspares, -⟩ := footprint hc tracked_sampleCalls_zero
    (fun j t' hj ht' howner => hj (distinctOwners_sampleCalls j 0 t' _ ht'
      tracked_sampleCalls_zero howner)) hret
  exact ⟨c, hc, hret, hholder, fun r hr howner => absurd (hrows r hr howner) List.not_mem_nil,
    hspares⟩

/-- A database file that names the first request of the sample session as the owner of the lock of
another sender, and has a row of another sender under the hash of its transaction. -/
def tracedWorld : World where
  db := persistTransition oneSecondStore
    (writeSenderLock Db.empty "other"
      (sampleTracked "1700000000000-4242-1-48a1f306").lockOwnerId 1700000000000 120000)
    { (sampleTracked "").update .receivedRawL2 none none none none false with sender := "other" }
    1700000000000
  clock := 1700000000000

/-- **What was there before.** A lock row of another sender under the owner id of a request
outlives the request, and a row of another sender under its transaction hash becomes its own. -/
theorem footprint_traced : ∃ c, Session sampleExternals soloCalls tracedWorld c ∧
    (∀ j t', j ≠ 0 → (soloCalls j).tracked sampleExternals ≠ some t') ∧
    (c.thread 0).status = .inr (.ok sampleResponse) ∧
    (∃ r ∈ c.world.db.senderLocks.rows,
      r.ownerId = (sampleTracked "1700000000000-4242-1-48a1f306").lockOwnerId) ∧
    ∃ x ∈ c.history, x.tid = 0 ∧
      ∃ r ∈ x.before.db.txMap.rows, r.sender ≠ sampleSender ∧ r ∉ x.after.db.txMap.rows := by
  obtain ⟨c, hc, hP⟩ := exists_session_of_any sampleExternals soloCalls tracedWorld
    (sampleMoves 0 11 1700000000000 (.ok sampleResult))
    (fun c => decide ((c.thread 0).status = .inr (.ok sampleResponse) ∧
      (∃ r ∈ c.world.db.senderLocks.rows,
        r.ownerId = (sampleTracked "1700000000000-4242-1-48a1f306").lockOwnerId) ∧
      ∃ x ∈ c.history, x.tid = 0 ∧
        ∃ r ∈ x.before.db.txMap.rows, r.sender ≠ sampleSender ∧ r ∉ x.after.db.txMap.rows))
    (by decide +kernel)
  obtain ⟨hret, hrow, hoverwritten⟩ := of_decide_eq_true hP
  exact ⟨c, hc, fun j t' hj ht => hj (tracked_soloCalls ht), hret, hrow, hoverwritten⟩

end FoundryIgra
