import FoundryIgra.Transport.Session

/-!
# Histories of sessions

What a request has done (`progress`) is what the entries of its history say: every entry is an
answered call, and a grant, a result or a refusal of a request is in one of them.

## Main definitions

* `Classified`, `Returned`, `RefusedRound`: what an entry of a history did.

## Main results

* `Session.answered_of_mem`: every entry is an answered call of its request.
* `exists_of_progress`: what the progress of a request has came from an entry.
* `Session.refusal_iff`: a request is refused exactly when one of its rounds is.
-/

namespace FoundryIgra

open Rust Store Concurrency

/-- The entry classified the nonce of `t` as `ordering`. -/
def Classified (t : TrackedSend) (ordering : NonceOrdering) (x : Entry TransportOps World) :
    Prop :=
  ∃ (deadlineMs : UInt64) (a : PollAnswer),
    x.event = ⟨.pollLock t deadlineMs, a⟩ ∧ a.result = .ok (some ordering)

/-- The entry is a return of `submit_payload` with the result `r`. -/
def Returned (r : IgraSubmitResult) (x : Entry TransportOps World) : Prop :=
  ∃ request : IgraSubmitRequest, x.event = ⟨.leaveSubmit request, .ok r⟩

/-- Only an acquisition round grants. -/
theorem grant_after {g : Progress} {op : TransportOp} {a : op.Ans} {p : UInt64 × NonceOrdering}
    (hg : g.grant ≠ some p) (h : (g.after op a).grant = some p) :
    ∃ (t : TrackedSend) (deadlineMs : UInt64) (b : PollAnswer),
      (⟨op, a⟩ : TransportOps.Event) = ⟨.pollLock t deadlineMs, b⟩ ∧
        b.result = .ok (some p.2) := by
  rcases g.after_cases op a with heq | ⟨_, _, -, heq⟩ | ⟨t, deadlineMs, b, _, hevent, hexit, heq⟩ |
    ⟨_, -, heq⟩ | ⟨_, -, heq⟩ | ⟨_, _, -, heq⟩ | ⟨_, _, _, -, heq⟩
  case inr.inr.inl =>
    rw [heq] at h
    obtain rfl := Option.some_inj.mp h
    exact ⟨t, deadlineMs, b, hevent, PollAnswer.exit_eq_ok.mp hexit⟩
  all_goals
    rw [heq] at h
    exact absurd h hg

/-- Only a return of `submit_payload` answers. -/
theorem answer_after {g : Progress} {op : TransportOp} {a : op.Ans} {r : IgraSubmitResult}
    (hg : g.answer ≠ some (.ok r)) (h : (g.after op a).answer = some (.ok r)) :
    ∃ request : IgraSubmitRequest,
      (⟨op, a⟩ : TransportOps.Event) = ⟨.leaveSubmit request, .ok r⟩ := by
  rcases g.after_cases op a with heq | ⟨_, _, -, heq⟩ | ⟨_, _, _, _, -, -, heq⟩ | ⟨_, -, heq⟩ |
    ⟨_, -, heq⟩ | ⟨request, r', hevent, heq⟩ | ⟨_, _, _, -, heq⟩
  case inr.inr.inr.inr.inr.inl =>
    rw [heq] at h
    obtain rfl : r' = .ok r := Option.some_inj.mp h
    exact ⟨request, hevent⟩
  all_goals
    rw [heq] at h
    exact absurd h hg

/-- Without store failures only an acquisition round refuses. -/
theorem refusal_after {g : Progress} {op : TransportOp} {a : op.Ans} {err : IgraStoreError}
    (hsucc : Succeeds op a) (hg : g.refusal ≠ some err)
    (h : (g.after op a).refusal = some err) :
    ∃ (t : TrackedSend) (deadlineMs : UInt64) (b : PollAnswer),
      (⟨op, a⟩ : TransportOps.Event) = ⟨.pollLock t deadlineMs, b⟩ ∧ b.result = .error err := by
  rcases g.after_cases op a with heq | ⟨_, _, -, heq⟩ | ⟨_, _, _, _, -, -, heq⟩ |
    ⟨err', hevent, heq⟩ | ⟨_, -, heq⟩ | ⟨_, _, -, heq⟩ | ⟨_, _, _, -, heq⟩
  case inr.inr.inr.inl =>
    rw [heq] at h
    obtain rfl : err' = err := Option.some_inj.mp h
    rcases hevent with ⟨store, ⟨⟩⟩ | ⟨t, deadlineMs, b, hevent, hexit⟩
    · obtain ⟨now, hnow⟩ : ∃ now, Except.error err' = .ok now := hsucc
      cases hnow
    · exact ⟨t, deadlineMs, b, hevent, (PollAnswer.exit_eq_error.mp hexit).1⟩
  all_goals
    rw [heq] at h
    exact absurd h hg

/-- A refusal is not taken back. -/
theorem refusal_kept (g : Progress) (op : TransportOp) (a : op.Ans) (h : g.refusal ≠ none) :
    (g.after op a).refusal ≠ none := by
  rcases g.after_cases op a with heq | ⟨_, _, -, heq⟩ | ⟨_, _, _, _, -, -, heq⟩ | ⟨_, -, heq⟩ |
    ⟨_, -, heq⟩ | ⟨_, _, -, heq⟩ | ⟨_, _, _, -, heq⟩
  case inr.inr.inr.inl =>
    rw [heq]
    exact Option.some_ne_none _
  all_goals
    rw [heq]
    exact h

/-- The acquisition round that the entry is was refused. -/
def RefusedRound (t : TrackedSend) (x : Entry TransportOps World) : Prop :=
  ∃ (deadlineMs : UInt64) (a : PollAnswer), x.event = ⟨.pollLock t deadlineMs, a⟩ ∧
    Refused x.before.db t.sender t.lockOwnerId t.l2Nonce deadlineMs a.now

section Sessions

variable {lib : Externals} {calls : ℕ → RequestCall} {w : World} {c : SessionConf}

/-- Every entry of a history is an answered call of its request. -/
theorem Session.answered_of_mem (h : Session lib calls w c) :
    ∀ x ∈ c.history, ∃ d, d.world = x.before ∧
      Answered lib calls d x.tid x.event.1 x.event.2 x.after := by
  refine Reachable.invariant h (P := fun c => ∀ x ∈ c.history, ∃ d, d.world = x.before ∧
      Answered lib calls d x.tid x.event.1 x.event.2 x.after)
    (fun x hx => absurd hx List.not_mem_nil) fun d d' m hd hall hm => ?_
  rcases Session.step_cases hd hm with ⟨clock, -, rfl⟩ | ⟨j, op, k, a, w', -, rfl, hans⟩
  · exact hall
  · intro x hx
    rcases List.mem_cons.mp hx with rfl | hx
    · exact ⟨d, rfl, hans⟩
    · exact hall x hx

/-- A property that the progress of a request has and did not have at first was brought about by
a call of the request. -/
theorem exists_of_progress {Q : Progress → Prop} {i : ℕ} (h₀ : ¬Q .start)
    (h : Q (progress c i)) :
    ∃ x ∈ c.history, x.tid = i ∧ ∃ g, ¬Q g ∧ Q (g.after x.event.1 x.event.2) :=
  Conf.exists_of_ghost c h₀ h

/-- The grant of a tracked request is in the history. -/
theorem Session.exists_classified (h : Session lib calls w c) {i : ℕ} {t : TrackedSend}
    (ht : (calls i).tracked lib = some t) {p : UInt64 × NonceOrdering}
    (hg : (progress c i).grant = some p) : ∃ x ∈ c.history, x.tid = i ∧ Classified t p.2 x := by
  obtain ⟨x, hx, rfl, g, hnot, hnow⟩ :=
    exists_of_progress (Q := fun g => g.grant = some p) nofun hg
  obtain ⟨t', deadlineMs, b, hevent, hb⟩ := grant_after hnot hnow
  obtain ⟨d, -, hans⟩ := h.answered_of_mem x hx
  have hinv := hans.invariant
  rw [ht, congrArg Sigma.fst hevent] at hinv
  obtain rfl : t' = t := hinv
  exact ⟨x, hx, rfl, deadlineMs, b, hevent, hb⟩

/-- The result of a request is in the history. -/
theorem exists_returned {i : ℕ} {r : IgraSubmitResult}
    (hr : (progress c i).answer = some (.ok r)) :
    ∃ x ∈ c.history, x.tid = i ∧ Returned r x := by
  obtain ⟨x, hx, hi, g, hnot, hnow⟩ :=
    exists_of_progress (Q := fun g => g.answer = some (.ok r)) nofun hr
  exact ⟨x, hx, hi, answer_after hnot hnow⟩

/-- The refusal of a tracked request is a timeout or a nonce gap, found by one of its rounds. -/
theorem Session.exists_refused (h : Session lib calls w c) {i : ℕ} {t : TrackedSend}
    (ht : (calls i).tracked lib = some t) {err : IgraStoreError}
    (hr : (progress c i).refusal = some err) :
    (err = .lockTimeout t.sender ∨ ∃ expected, err = .blockedNonceGap expected t.l2Nonce) ∧
      ∃ x ∈ c.history, x.tid = i ∧ RefusedRound t x := by
  obtain ⟨x, hx, rfl, g, hnot, hnow⟩ :=
    exists_of_progress (Q := fun g => g.refusal = some err) nofun hr
  obtain ⟨d, hd, hans⟩ := h.answered_of_mem x hx
  obtain ⟨t', deadlineMs, b, hevent, hb⟩ := refusal_after hans.succeeds hnot hnow
  have hevent : x.event = ⟨.pollLock t' deadlineMs, b⟩ := hevent
  have hinv := hans.invariant
  have hsucc := hans.succeeds
  have heff := hans.effect
  rw [ht, hevent] at hinv
  rw [hevent] at hsucc heff
  obtain rfl : t' = t := hinv
  obtain ⟨-, classifyNow, heff⟩ := heff
  refine ⟨hsucc err hb, x, hx, rfl, deadlineMs, b, hevent, ?_⟩
  rw [← hd, ← pollSenderLockAndClassifyNonce_error_iff]
  exact ⟨err, (congrArg Prod.fst heff).trans hb⟩

/-- A tracked request is refused exactly when one of its rounds is. -/
theorem Session.refusal_iff (h : Session lib calls w c) {i : ℕ} {t : TrackedSend}
    (ht : (calls i).tracked lib = some t) :
    (progress c i).refusal ≠ none ↔ ∃ x ∈ c.history, x.tid = i ∧ RefusedRound t x := by
  constructor
  · intro hr
    obtain ⟨err, herr⟩ := Option.ne_none_iff_exists'.mp hr
    exact (h.exists_refused ht herr).2
  · rintro ⟨x, hx, rfl, deadlineMs, a, hevent, hrefused⟩
    obtain ⟨d, hd, hans⟩ := h.answered_of_mem x hx
    have hsucc := hans.succeeds
    have heff := hans.effect
    rw [hevent] at hsucc heff
    obtain ⟨-, classifyNow, heff⟩ := heff
    have hpoll : _ = a.result := congrArg Prod.fst heff
    rw [← hd] at hrefused
    obtain ⟨err, herr⟩ : ∃ err, a.result = .error err := by
      rw [← hpoll]
      exact pollSenderLockAndClassifyNonce_error_iff.mpr hrefused
    have hbusy : err.isRetryableBusyError = false := by
      rcases hsucc err herr with rfl | ⟨expected, rfl⟩ <;> rfl
    refine Conf.ghost_of_mem (Q := fun g => g.refusal ≠ none)
      (fun g e hg => refusal_kept g e.1 e.2 hg) hx fun g => ?_
    rw [hevent]
    simp [Progress.after, Progress.polled,
      PollAnswer.exit_eq_error.mpr ⟨herr, hbusy⟩]

end Sessions

end FoundryIgra
