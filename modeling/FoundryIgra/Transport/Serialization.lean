import FoundryIgra.Transport.Session
import Mathlib.Data.Set.Subsingleton

/-!
# Serialization of same-sender submissions

A request submits while it holds the lock of its sender, and the lock is a lease of twice the
acquisition timeout that is never renewed. What a grant guarantees is that the lock row still
names the request or the lease has expired; so two requests of one sender are inside
`submit_payload` together only when one of them has outlived its lease.

## Main definitions

* `InSubmit`: a request is inside `submit_payload`.
* `DistinctOwners`, `WithinLease`.

## Main results

* `Session.covered`: every unreleased grant stays covered.
* `submit_exclusive`: within their leases, requests of one sender submit one at a time.
-/

namespace FoundryIgra

open Rust Store Concurrency

/-- Request `i` is inside `submit_payload`. -/
def InSubmit (c : SessionConf) (i : ℕ) : Prop :=
  ∃ request, (c.thread i).status = .inl (.leaveSubmit request)

/-- The submission that is under way. -/
def underWay : TransportOp ⊕ Except TransportError ResponsePacket → Option IgraSubmitRequest
  | .inl (.leaveSubmit request) => some request
  | _ => none

theorem inSubmit_iff {c : SessionConf} {i : ℕ} :
    InSubmit c i ↔ (underWay (c.thread i).status).isSome = true := by
  simp only [InSubmit, underWay]
  constructor
  · rintro ⟨request, h⟩
    rw [h]
    rfl
  · intro h
    split at h
    next request hr => exact ⟨request, hr⟩
    next => cases h

instance (c : SessionConf) (i : ℕ) : Decidable (InSubmit c i) :=
  decidable_of_iff _ inSubmit_iff.symm

/-- The requests of a sender that are inside `submit_payload`. -/
def submitting (lib : Externals) (calls : ℕ → RequestCall) (c : SessionConf) (sender : String) :
    Set ℕ :=
  {i | InSubmit c i ∧ ∃ t, (calls i).tracked lib = some t ∧ t.sender = sender}

/-- No two tracked requests share a lock owner id. -/
def DistinctOwners (lib : Externals) (calls : ℕ → RequestCall) : Prop :=
  ∀ i j t t', (calls i).tracked lib = some t → (calls j).tracked lib = some t' →
    t.lockOwnerId = t'.lockOwnerId → i = j

/-- The clock has not passed the expiry that the lock grant of request `i` recorded. -/
def WithinLease (lib : Externals) (calls : ℕ → RequestCall) (c : SessionConf) (i : ℕ) : Prop :=
  ∀ t now ordering, (calls i).tracked lib = some t →
    (progress c i).grant = some (now, ordering) →
    c.world.clock ≤ (t.store.leaseExpiry now).toNat

/-- Every unreleased grant is still in the lock row, or has expired. -/
def Covered (lib : Externals) (calls : ℕ → RequestCall) (c : SessionConf) : Prop :=
  ∀ i t now ordering, (calls i).tracked lib = some t →
    (progress c i).grant = some (now, ordering) → (progress c i).released = false →
    Lease.Covers (lockHolder c.world.db t.sender) c.world.clock t.lockOwnerId
      (t.store.leaseExpiry now).toNat

/-- A call that neither grants to `owner` nor releases for it keeps a cover of `owner`. -/
theorem covers_of_effect {clock : ℕ} {db db' : Db} {op : TransportOp} {a : op.Ans}
    (heff : Effect clock db db' op a) {sender owner : String} {e : ℕ}
    (hround : ∀ t now, GrantedRound t now ⟨op, a⟩ → t.lockOwnerId ≠ owner)
    (hrelease : ∀ store s o, op = .release store s o → o ≠ owner)
    (hc : Lease.Covers (lockHolder db sender) clock owner e) :
    Lease.Covers (lockHolder db' sender) clock owner e := by
  rcases effect_cases heff with rfl | ⟨_, _, _, -, rfl⟩ | ⟨t, now, hgranted, hnow, ha, hgrants⟩ |
    ⟨_, _, _, _, _, -, -, -, rfl⟩ | ⟨store, s, o, rfl, rfl⟩
  · exact hc
  · exact hc
  · rw [lockHolder_congr hgrants.tables.1, lockHolder_write]
    split_ifs with hs
    · subst hs
      exact hc.grant_of_ne ha (hround t now hgranted) hnow
    · exact hc
  · exact hc
  · rw [lockHolder_release]
    split_ifs with hs
    · exact hc.release_of_ne (hrelease store s o rfl)
    · exact hc

/-- The grant of an acquisition round is covered. -/
theorem covers_of_grant {clock : ℕ} {db db' : Db} {t : TrackedSend} {deadlineMs : UInt64}
    {a : PollAnswer} (heff : Effect clock db db' (.pollLock t deadlineMs) a)
    {ordering : NonceOrdering} (ha : a.exit = some (.ok ordering)) :
    Lease.Covers (lockHolder db' t.sender) clock t.lockOwnerId
      (t.store.leaseExpiry a.now).toNat := by
  obtain ⟨-, -, classifyNow, hclassify⟩ := effect_granted heff (PollAnswer.exit_eq_ok.mp ha)
  rw [lockHolder_acquired hclassify, if_pos rfl]
  exact Lease.covers_grant ..

section Sessions

variable {lib : Externals} {calls : ℕ → RequestCall} {w : World} {c : SessionConf}

/-- A call of another request leaves a request's lock alone: its acquisition rounds and its release
are under its own owner id. -/
theorem Answered.owner_ne {j : ℕ} {t : TrackedSend}
    (hne : ∀ t', (calls j).tracked lib = some t' → t'.lockOwnerId ≠ t.lockOwnerId)
    {op : TransportOp} {a : op.Ans} {w' : World} (hans : Answered lib calls c j op a w') :
    (∀ t' d, op = .pollLock t' d → t'.lockOwnerId ≠ t.lockOwnerId) ∧
      ∀ store s o, op = .release store s o → o ≠ t.lockOwnerId := by
  have hinv := hans.invariant
  cases htj : (calls j).tracked lib with
  | none =>
    rw [htj] at hinv
    constructor
    · rintro t' d rfl
      exact absurd hinv id
    · rintro store s o rfl
      exact absurd hinv id
  | some tj =>
    rw [htj] at hinv
    constructor
    · rintro t' d rfl
      obtain rfl : t' = tj := hinv
      exact hne t' htj
    · rintro store s o rfl
      obtain ⟨-, -, rfl⟩ := hinv
      exact hne tj htj

/-- A call of the request itself keeps its grant covered. -/
theorem Covered.own (hcov : Covered lib calls c) {i : ℕ} {t : TrackedSend}
    (ht : (calls i).tracked lib = some t) {op : TransportOp} {a : op.Ans} {w' : World}
    (hans : Answered lib calls c i op a w') {now : UInt64} {ordering : NonceOrdering}
    (hgrant : ((progress c i).after op a).grant = some (now, ordering))
    (hreleased : ((progress c i).after op a).released = false) :
    Lease.Covers (lockHolder w'.db t.sender) c.world.clock t.lockOwnerId
      (t.store.leaseExpiry now).toNat := by
  have hrelease : ∀ store s o, op ≠ .release store s o := by
    rintro store s o rfl
    exact absurd hreleased Bool.true_eq_false.mp
  rw [released_after hrelease] at hreleased
  by_cases hround : ∃ t' now', GrantedRound t' now' ⟨op, a⟩
  · obtain ⟨t', now', hround⟩ := hround
    obtain ⟨ordering', hafter⟩ := hround.after (progress c i)
    rw [hafter] at hgrant
    obtain ⟨rfl, -⟩ := Prod.mk.inj (Option.some_inj.mp hgrant)
    have hinv := hans.invariant
    have heff := hans.effect
    obtain ⟨deadlineMs, b, ordering'', ⟨⟩, hexit, rfl⟩ := hround
    rw [ht] at hinv
    obtain rfl : t' = t := hinv
    exact covers_of_grant heff hexit
  · have hno : ∀ t' now', ¬GrantedRound t' now' ⟨op, a⟩ := fun t' now' h =>
      hround ⟨t', now', h⟩
    rw [grant_after_of_not_granted hno] at hgrant
    exact covers_of_effect hans.effect (fun t' now' h => absurd h (hno t' now'))
      (fun store s o h => absurd h (hrelease store s o)) (hcov i t now ordering ht hgrant hreleased)

/-- One answered call keeps the grants covered. -/
theorem Covered.attempt (hdistinct : DistinctOwners lib calls) (hcov : Covered lib calls c)
    {j : ℕ} {op : TransportOp} {k : op.Out → Request (Except TransportError ResponsePacket)}
    {a : op.Ans} {w' : World} (hans : Answered lib calls c j op a w') :
    Covered lib calls (c.attempt j op k a w') := by
  intro i t now ordering ht hgrant hreleased
  rw [progress_attempt] at hgrant hreleased
  show Lease.Covers (lockHolder w'.db t.sender) w'.clock t.lockOwnerId _
  rw [hans.clock]
  by_cases hji : j = i
  · subst hji
    rw [if_pos rfl] at hgrant hreleased
    exact hcov.own ht hans hgrant hreleased
  · rw [if_neg hji] at hgrant hreleased
    obtain ⟨hpoll, hrelease⟩ := hans.owner_ne fun t' ht' howner =>
      hji (hdistinct j i t' t ht' ht howner)
    refine covers_of_effect hans.effect (fun t' now' hround => ?_) hrelease
      (hcov i t now ordering ht hgrant hreleased)
    obtain ⟨deadlineMs, hop⟩ := hround.op_eq
    exact hpoll t' deadlineMs hop

/-- Every unreleased grant stays covered. -/
theorem Session.covered (hdistinct : DistinctOwners lib calls) (h : Session lib calls w c) :
    Covered lib calls c := by
  refine Reachable.invariant h (fun i t now ordering _ hgrant => ?_) fun d d' m hd hcov hm => ?_
  · cases hgrant
  · rcases Session.step_cases hd hm with ⟨clock, hle, rfl⟩ | ⟨j, op, k, a, w', -, rfl, hans⟩
    · intro i t now ordering ht hgrant hreleased
      exact (hcov i t now ordering ht hgrant hreleased).mono hle
    · exact hcov.attempt hdistinct hans

/-- **Serialization within leases.** When every request inside `submit_payload` is within its
lease, at most one of the requests of a sender is inside. -/
theorem submit_exclusive (hdistinct : DistinctOwners lib calls) (h : Session lib calls w c)
    (hleases : ∀ i, InSubmit c i → WithinLease lib calls c i) (sender : String) :
    (submitting lib calls c sender).Subsingleton := by
  have hcov := h.covered hdistinct
  have hgranted : ∀ i t, (calls i).tracked lib = some t → InSubmit c i →
      ∃ now, Lease.Covers (lockHolder c.world.db t.sender) c.world.clock t.lockOwnerId
        (t.store.leaseExpiry now).toNat ∧ c.world.clock ≤ (t.store.leaseExpiry now).toNat := by
    rintro i t ht ⟨request, hstatus⟩
    have hinv := h.pending hstatus
    rw [ht] at hinv
    obtain ⟨hreleased, ⟨now, ordering⟩, hgrant⟩ := hinv
    exact ⟨now, hcov i t now ordering ht hgrant hreleased,
      hleases i ⟨request, hstatus⟩ t now ordering ht hgrant⟩
  rintro i ⟨hi, t, ht, rfl⟩ j ⟨hj, t', ht', hsender⟩
  obtain ⟨now, hc, hle⟩ := hgranted i t ht hi
  obtain ⟨now', hc', hle'⟩ := hgranted j t' ht' hj
  rw [hsender] at hc'
  by_contra hne
  exact hc.not_both hc' (fun howner => hne (hdistinct i j t t' ht ht' howner)) hle hle'

end Sessions

/-! ### The session of one transaction -/

theorem distinctOwners_sampleCalls : DistinctOwners sampleExternals sampleCalls := by
  have hne : (sampleTracked "1700000000000-4242-1-48a1f306").lockOwnerId ≠
      (sampleTracked "1700000002001-4242-2-3e963e4e").lockOwnerId := by decide +kernel
  intro i j t t' ht ht' howner
  match i, j with
  | 0, 0 => rfl
  | 1, 1 => rfl
  | 0, 1 =>
    rw [tracked_sampleCalls_zero] at ht
    rw [tracked_sampleCalls_one] at ht'
    obtain ⟨rfl⟩ := ht
    obtain ⟨rfl⟩ := ht'
    exact absurd howner hne
  | 1, 0 =>
    rw [tracked_sampleCalls_one] at ht
    rw [tracked_sampleCalls_zero] at ht'
    obtain ⟨rfl⟩ := ht
    obtain ⟨rfl⟩ := ht'
    exact absurd howner.symm hne
  | i + 2, _ =>
    rw [tracked_sampleCalls_idle] at ht
    cases ht
  | _, j + 2 =>
    rw [tracked_sampleCalls_idle] at ht'
    cases ht'

/-- The first request is inside alone, within its lease. -/
theorem submit_exclusive_first_request : ∃ c,
    Session sampleExternals sampleCalls sampleWorld c ∧ InSubmit c 0 ∧
      (submitting sampleExternals sampleCalls c sampleSender).Subsingleton := by
  obtain ⟨c, hc, hP⟩ := exists_session_of_any sampleExternals sampleCalls sampleWorld
    (sampleMoves 0 5 1700000000000 (.error ""))
    (fun c => decide (InSubmit c 0 ∧ c.world.clock = 1700000000000 ∧
      (progress c 0).grant = some (1700000000000, .inOrder 0) ∧ (progress c 1).grant = none))
    (by decide +kernel)
  obtain ⟨hin, hclock, hgrant, hnone⟩ := of_decide_eq_true hP
  refine ⟨c, hc, hin, submit_exclusive distinctOwners_sampleCalls hc (fun i _ => ?_) _⟩
  intro t now ordering ht hg
  match i with
  | 0 =>
    rw [tracked_sampleCalls_zero] at ht
    obtain ⟨rfl⟩ := ht
    rw [hgrant] at hg
    obtain ⟨rfl, rfl⟩ := Prod.mk.inj (Option.some_inj.mp hg)
    rw [hclock]
    decide +kernel
  | 1 =>
    rw [hnone] at hg
    cases hg
  | i + 2 =>
    rw [tracked_sampleCalls_idle] at ht
    cases ht

/-- **The lease is not renewed.** The first request is granted the lock until two seconds later.
One millisecond past that the second request takes the lock over, and both are inside. -/
theorem submit_overlaps : DistinctOwners sampleExternals sampleCalls ∧
    ∃ c, Session sampleExternals sampleCalls sampleWorld c ∧
      ¬ (submitting sampleExternals sampleCalls c sampleSender).Subsingleton := by
  refine ⟨distinctOwners_sampleCalls, ?_⟩
  obtain ⟨c, hc, hP⟩ := exists_session_of_any sampleExternals sampleCalls sampleWorld
    (sampleMoves 0 5 1700000000000 (.error "") ++
      .tick (1700000002001 : ℕ) :: sampleMoves 1 5 1700000002001 (.error ""))
    (fun c => decide (InSubmit c 0 ∧ InSubmit c 1)) (by decide +kernel)
  obtain ⟨h₀, h₁⟩ := of_decide_eq_true hP
  refine ⟨c, hc, fun hsub => ?_⟩
  have h := hsub ⟨h₀, _, tracked_sampleCalls_zero, rfl⟩ ⟨h₁, _, tracked_sampleCalls_one, rfl⟩
  cases h

end FoundryIgra
