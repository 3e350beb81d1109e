import FoundryIgra.Transport.Lifecycle

/-!
# The record a request leaves

The inner block of a request records a refused acquisition under its own state and error code;
the tail then records every error as a recoverable failure and overwrites that row. So the row
that a finished request leaves names its outcome exactly when no acquisition round of the request
was refused.

## Main definitions

* `NamesOutcome`: the record names the outcome of a request.

## Main results

* `namesOutcome_iff`: when the row names the outcome.
-/

namespace FoundryIgra

open Rust Store Concurrency

/-- The record names the outcome of a request that returned `result`: a broadcast with the
submitter's answer and the code of a replacement candidate, a nonce gap, a timeout of the lock, or
else a recoverable failure with the code of a mining timeout. -/
structure NamesOutcome (result : Except TransportError ResponsePacket) (g : Progress)
    (record : TxMapRecord) : Prop where
  broadcasted : ∀ packet, result = .ok packet → ∃ r now ordering,
    g.answer = some (.ok r) ∧ g.grant = some (now, ordering) ∧
      record.state = .kaspaBroadcasted ∧ record.kaspaTxId = some r.kaspaTxId ∧
      record.payloadNonce = some r.payloadNonce ∧
      (record.lastErrorCode = some igraNonceReplacementCandidateErrorCode ↔
        ∃ expected, ordering = .stale expected true)
  nonceGap : ∀ expected got, g.refusal = some (.blockedNonceGap expected got) →
    record.state = .blockedNonceGap ∧ record.lastErrorCode = some igraNonceGapErrorCode
  lockTimeout : ∀ sender, g.refusal = some (.lockTimeout sender) →
    record.state = .blockedLockTimeout ∧
      record.lastErrorCode = some igraNonceLockTimeoutErrorCode
  failed : ∀ errText, result = .error errText → g.refusal = none →
    record.state = .failedRecoverable ∧
      (contains errText igraMiningTimeoutErrorCode = true →
        record.lastErrorCode = some igraMiningTimeoutErrorCode)

/-- A broadcast carries the code of a replacement candidate exactly when it is one. -/
theorem replacementCode_iff (tracked : TrackedSend) (ordering : NonceOrdering) :
    (replacementObservation tracked ordering).map Prod.fst =
        some igraNonceReplacementCandidateErrorCode ↔
      ∃ expected, ordering = .stale expected true := by
  simp only [replacementObservation]
  match ordering with
  | .stale expected true => simp
  | .stale expected false => simp
  | .inOrder expected => simp

section Sessions

variable {lib : Externals} {calls : ℕ → RequestCall} {w : World} {c : SessionConf}

/-- The row that a finished request leaves, when no other request is for its hash. -/
theorem Session.exists_record (h : Session lib calls w c) {i : ℕ} {t : TrackedSend}
    (ht : (calls i).tracked lib = some t)
    (halone : ∀ j t', (calls j).tracked lib = some t' → t'.l2TxHash = t.l2TxHash → j = i)
    {update : TxLifecycleUpdate} (hwrote : (progress c i).lastWrite = some update) :
    ∃ store attempts createdAtMs now, loadTx c.world.db t.l2TxHash =
      .ok (some (update.record store attempts createdAtMs now)) := by
  have hlast := h.lastWrites
  obtain ⟨x, hx⟩ := hlast.written i t ht (by simp [hwrote])
  obtain ⟨hxwrote, t', ht', hhash⟩ := hlast.writer t.l2TxHash x hx
  rw [halone x.tid t' ht' hhash, hwrote] at hxwrote
  obtain ⟨attempts, createdAtMs, now, hload⟩ := hlast.record t.l2TxHash x hx
  rw [← Option.some_inj.mp hxwrote] at hload
  exact ⟨x.store, attempts, createdAtMs, now, hload⟩

/-- A finished request that was not refused leaves the record of its outcome. -/
theorem Session.namesOutcome (h : Session lib calls w c) {i : ℕ} {t : TrackedSend}
    {result : Except TransportError ResponsePacket} (ht : (calls i).tracked lib = some t)
    (halone : ∀ j t', (calls j).tracked lib = some t' → t'.l2TxHash = t.l2TxHash → j = i)
    (hresult : (c.thread i).status = .inr result) (hnone : (progress c i).refusal = none) :
    ∃ record, loadTx c.world.db t.l2TxHash = .ok (some record) ∧
      NamesOutcome result (progress c i) record := by
  have hfinal := h.returned hresult t ht
  cases result with
  | ok packet =>
    obtain ⟨r, now, ordering, hanswer, hgrant, hwrote⟩ := hfinal.broadcasted packet rfl
    obtain ⟨store, attempts, createdAtMs, at', hload⟩ := h.exists_record ht halone hwrote
    refine ⟨_, hload, ?_, ?_, ?_, nofun⟩
    · intro _ _
      exact ⟨r, now, ordering, hanswer, hgrant, rfl, rfl, rfl, replacementCode_iff t ordering⟩
    · intro expected got hr
      rw [hnone] at hr
      cases hr
    · intro sender hr
      rw [hnone] at hr
      cases hr
  | error errText =>
    obtain ⟨store, attempts, createdAtMs, at', hload⟩ :=
      h.exists_record ht halone (hfinal.failed errText rfl)
    refine ⟨_, hload, nofun, ?_, ?_, ?_⟩
    · intro expected got hr
      rw [hnone] at hr
      cases hr
    · intro sender hr
      rw [hnone] at hr
      cases hr
    · rintro _ ⟨⟩ _
      exact ⟨rfl, fun hcode => if_pos hcode⟩

/-- A finished request that was refused leaves the record of a recoverable failure. -/
theorem Session.state_of_refused (h : Session lib calls w c) {i : ℕ} {t : TrackedSend}
    {result : Except TransportError ResponsePacket} (ht : (calls i).tracked lib = some t)
    (halone : ∀ j t', (calls j).tracked lib = some t' → t'.l2TxHash = t.l2TxHash → j = i)
    (hresult : (c.thread i).status = .inr result) {err : IgraStoreError}
    (hr : (progress c i).refusal = some err) {record : TxMapRecord}
    (hload : loadTx c.world.db t.l2TxHash = .ok (some record)) :
    record.state = .failedRecoverable := by
  have hfinal := h.returned hresult t ht
  obtain ⟨store, attempts, createdAtMs, now, hload'⟩ :=
    h.exists_record ht halone (hfinal.failed err.toText (hfinal.refused err hr))
  rw [hload'] at hload
  rw [← Option.some_inj.mp (Except.ok.inj hload)]
  rfl

/-- **When the row names the outcome.** The row that a finished request leaves, when no other
request is for its hash, names the outcome of the request exactly when none of its acquisition
rounds was made past the deadline or found the lock free and the nonce above the expected one. -/
theorem namesOutcome_iff (h : Session lib calls w c) {i : ℕ} {t : TrackedSend}
    {result : Except TransportError ResponsePacket} (ht : (calls i).tracked lib = some t)
    (halone : ∀ j t', (calls j).tracked lib = some t' → t'.l2TxHash = t.l2TxHash → j = i)
    (hresult : (c.thread i).status = .inr result) :
    (∃ record, loadTx c.world.db t.l2TxHash = .ok (some record) ∧
      NamesOutcome result (progress c i) record) ↔
    ∀ x ∈ c.history, x.tid = i → ¬RefusedRound t x := by
  have hiff : (progress c i).refusal = none ↔
      ∀ x ∈ c.history, x.tid = i → ¬RefusedRound t x := by
    rw [← not_iff_not]
    push Not
    exact h.refusal_iff ht
  rw [← hiff]
  constructor
  · rintro ⟨record, hload, hnames⟩
    by_contra hsome
    obtain ⟨err, herr⟩ := Option.ne_none_iff_exists'.mp hsome
    have hstate := h.state_of_refused ht halone hresult herr hload
    rcases (h.exists_refused ht herr).1 with rfl | ⟨expected, rfl⟩
    · rw [(hnames.lockTimeout _ herr).1] at hstate
      cases hstate
    · rw [(hnames.nonceGap _ _ herr).1] at hstate
      cases hstate
  · exact h.namesOutcome ht halone hresult

end Sessions

/-! ### A session of one request -/

/-- The first request of the sample session alone. -/
def soloCalls : ℕ → RequestCall
  | 0 => sampleCalls 0
  | _ => idleCall

theorem tracked_soloCalls {j : ℕ} {t : TrackedSend}
    (h : (soloCalls j).tracked sampleExternals = some t) : j = 0 := by
  match j with
  | 0 => rfl
  | j + 1 =>
    rw [show soloCalls (j + 1) = sampleCalls (j + 2) from rfl, tracked_sampleCalls_idle] at h
    cases h

theorem tracked_soloCalls_zero : (soloCalls 0).tracked sampleExternals =
    some (sampleTracked "1700000000000-4242-1-48a1f306") := tracked_sampleCalls_zero

/-- The request alone is broadcast, and its row says so. -/
theorem namesOutcome_solo : ∃ c, Session sampleExternals soloCalls sampleWorld c ∧
    ∃ record, loadTx c.world.db sampleHash = .ok (some record) ∧
      NamesOutcome (.ok sampleResponse) (progress c 0) record := by
  obtain ⟨c, hc, hP⟩ := exists_session_of_any sampleExternals soloCalls sampleWorld
    (sampleMoves 0 11 1700000000000 (.ok sampleResult))
    (fun c => decide ((c.thread 0).status = .inr (.ok sampleResponse) ∧
      (progress c 0).refusal = none)) (by decide +kernel)
  obtain ⟨hok, hnone⟩ := of_decide_eq_true hP
  refine ⟨c, hc, (namesOutcome_iff hc tracked_soloCalls_zero
    (fun _ _ ht _ => tracked_soloCalls ht) hok).mpr fun x hx hxi hrefused => ?_⟩
  exact (hc.refusal_iff tracked_soloCalls_zero).mpr ⟨x, hx, hxi, hrefused⟩ hnone

/-- The sender lock is held by someone else for two minutes. -/
def lockedWorld : World :=
  ⟨writeSenderLock Db.empty sampleSender "other" 1700000000000 120000, 1700000000000⟩

/-- **A lock timeout ends as a recoverable failure.** The request finds the lock taken, times out
after a second, and its row names neither the timeout nor its code. -/
theorem lockTimeout_overwritten : ∃ c, Session sampleExternals soloCalls lockedWorld c ∧
    (∀ j t, (soloCalls j).tracked sampleExternals = some t → j = 0) ∧
    (c.thread 0).status = .inr (.error (IgraStoreError.lockTimeout sampleSender).toText) ∧
    (progress c 0).refusal = some (.lockTimeout sampleSender) ∧
    ∃ record, loadTx c.world.db sampleHash = .ok (some record) ∧
      record.state = .failedRecoverable ∧ record.lastErrorCode = none := by
  obtain ⟨c, hc, hP⟩ := exists_session_of_any sampleExternals soloCalls lockedWorld
    (sampleMoves 0 3 1700000000000 (.error "") ++
      .tick (1700000001000 : ℕ) :: sampleMoves 0 3 1700000001000 (.error ""))
    (fun c => decide ((c.thread 0).status =
        .inr (.error (IgraStoreError.lockTimeout sampleSender).toText) ∧
      (progress c 0).refusal = some (.lockTimeout sampleSender) ∧
      ((loadTx c.world.db sampleHash).toOption.getD none).any
        fun r => r.state = .failedRecoverable ∧ r.lastErrorCode = none))
    (by decide +kernel)
  obtain ⟨herr, hrefusal, hrecord⟩ := of_decide_eq_true hP
  obtain ⟨record, hload, hlost⟩ := exists_record_of_any hrecord
  exact ⟨c, hc, fun _ _ ht => tracked_soloCalls ht, herr, hrefusal, record, hload,
    of_decide_eq_true hlost⟩

end FoundryIgra
