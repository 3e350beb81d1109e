import FoundryIgra.Transport.NonceSafety
import FoundryIgra.Transport.Serialization

/-!
# Nonces are submitted once

Two requests of one sender submit the same nonce in order only when one of them outlived its lease.
Within the leases, every nonce that the expected nonce has passed was submitted in order by exactly
one request: the first holds the lock until it has advanced the expected nonce, or has failed.

## Main definitions

* `SubmittedBy`: the request that submitted a nonce in order.
* `HeldBeyondLease`: a request held its lock after its lease.
* `Passing`: how the course of a request goes with the expected nonce of its sender.
* `Apart`: two requests with the same nonce in order do not both succeed.

## Main results

* `Deployment.covered`, `Deployment.passing`, `Deployment.apart`: the invariants.
* `submittedOnce`: a nonce is submitted in order once.
-/

namespace FoundryIgra

open Rust Store Concurrency

/-- Request `i` of `sender`, with the nonce `k`, was classified as in order, and its submission
returned a result. -/
def SubmittedBy (lib : Externals) (calls : ℕ → RequestCall)
    (history : List (Entry TransportOps World)) (sender : String) (k : UInt64) (i : ℕ) : Prop :=
  ∃ t, (calls i).tracked lib = some t ∧ t.sender = sender ∧ t.l2Nonce = k ∧
    (∃ x ∈ history, x.tid = i ∧ Classified t (.inOrder k) x) ∧
    ∃ x ∈ history, x.tid = i ∧ ∃ r, Returned r x

/-- On the way to `c`, request `i` held its lock after its lease had expired. -/
def HeldBeyondLease (opens : IgraStore → Bool) (lib : Externals) (calls : ℕ → RequestCall)
    (w : World) (c : SessionConf) (i : ℕ) : Prop :=
  ∃ d, Deployment false opens lib calls w d ∧ Leads (deployment false opens) d c ∧
    (progress d i).released = false ∧ ¬WithinLease lib calls d i

/-! ### The expected nonce and the course of a request -/

/-- The expected nonce has reached a nonce that was found in order, and passed it once it was
marked. A request gives the lock back after it has marked its success. -/
structure Passing (expected : Option UInt64) (g : Course) : Prop where
  reached : ∀ now k, g.progress.grant = some (now, .inOrder k) → ∃ e, expected = some e ∧ k ≤ e
  passed : ∀ now k, g.progress.grant = some (now, .inOrder k) → g.marked = true → k ≠ u64Max →
    ∃ e, expected = some e ∧ k < e
  held : g.marked = true ∨ g.progress.released = true → g.progress.grant ≠ none
  settled : g.progress.released = true → g.Marked

theorem passing_start (expected : Option UInt64) : Passing expected .start := by
  refine ⟨?_, ?_, ?_, ?_⟩ <;> simp [Course.start, Progress.start]

/-- The expected nonce does not go back. -/
theorem Passing.mono {expected expected' : Option UInt64} {g : Course} (h : Passing expected g)
    (hle : ∀ e, expected = some e → ∃ e', expected' = some e' ∧ e ≤ e') : Passing expected' g := by
  refine ⟨fun now k hg => ?_, fun now k hg hm hmax => ?_, h.held, h.settled⟩
  · obtain ⟨e, he, hk⟩ := h.reached now k hg
    obtain ⟨e', he', hee⟩ := hle e he
    exact ⟨e', he', UInt64.le_trans hk hee⟩
  · obtain ⟨e, he, hk⟩ := h.passed now k hg hm hmax
    obtain ⟨e', he', hee⟩ := hle e he
    exact ⟨e', he', UInt64.lt_of_lt_of_le hk hee⟩

/-- Only the grant, the answer, the marking and the release matter. -/
theorem Passing.congr {expected : Option UInt64} {g g' : Course} (h : Passing expected g)
    (hgrant : g'.progress.grant = g.progress.grant)
    (hanswer : g'.progress.answer = g.progress.answer)
    (hreleased : g'.progress.released = g.progress.released) (hmarked : g'.marked = g.marked) :
    Passing expected g' := by
  obtain ⟨hreached, hpassed, hheld, hsettled⟩ := h
  refine ⟨?_, ?_, ?_, ?_⟩
  · rw [hgrant]
    exact hreached
  · rw [hgrant, hmarked]
    exact hpassed
  · rw [hgrant, hmarked, hreleased]
    exact hheld
  · rw [hreleased, Course.Marked, hgrant, hanswer, hmarked]
    exact hsettled

section Deployments

variable {opens : IgraStore → Bool} {lib : Externals} {calls : ℕ → RequestCall}
  {w : World} {c c' : SessionConf}

/-- A classification shows the expected nonce that it leaves. -/
theorem nextExpectedNonce_of_granted {clock : ℕ} {db db' : Db} {t : TrackedSend}
    {deadlineMs : UInt64} {a : PollAnswer} (heff : Effect clock db db' (.pollLock t deadlineMs) a)
    {ordering : NonceOrdering} (hexit : a.exit = some (.ok ordering)) :
    nextExpectedNonce db' t.sender = some ordering.expected ∧
      ∀ e, nextExpectedNonce db t.sender = some e → e = ordering.expected :=
  (expected_of_classified heff (PollAnswer.exit_eq_ok.mp hexit)).2.2

/-- A call of the request itself keeps the expected nonce of its sender in step with its course. -/
theorem Passing.own {i : ℕ} {t : TrackedSend} (ht : (calls i).tracked lib = some t)
    {op : TransportOp} {a : op.Ans} {w' : World} (hknown : Known false lib calls c i op a w')
    (hnonce : ∀ now k, (course c i).progress.grant = some (now, .inOrder k) → k = t.l2Nonce)
    (h : Passing (nextExpectedNonce c.world.db t.sender) (course c i)) :
    Passing (nextExpectedNonce w'.db t.sender) ((course c i).step ⟨op, a⟩) := by
  obtain ⟨-, heff⟩ | ⟨hfail, -⟩ := hknown.effect
  case inr => cases hfail
  have hle := h.mono fun e he => le_nextExpectedNonce_effect heff he
  have hinv : CoursePending t (course c i) op := by
    have hinv := hknown.invariant
    rw [ht] at hinv
    exact hinv
  cases op with
  | innerCall packet => exact hle.congr rfl rfl rfl rfl
  | persist store u =>
    cases a with
    | ok _ => exact hle.congr rfl rfl rfl rfl
    | error err => exact hle.congr rfl rfl rfl rfl
  | startAcquire store =>
    cases a with
    | ok now => exact hle.congr rfl rfl rfl rfl
    | error err => exact hle.congr rfl rfl rfl rfl
  | pollLock t' deadlineMs =>
    obtain ⟨rfl, hnone⟩ := hinv
    have hunheld : ¬((course c i).marked = true ∨ (course c i).progress.released = true) :=
      fun hheld => h.held hheld hnone
    simp only [Course.step, Course.recordedAfter, Course.markedAfter, Progress.after,
      Progress.polled]
    cases hexit : PollAnswer.exit a with
    | none => exact hle.congr rfl rfl rfl rfl
    | some r =>
      cases r with
      | error err => exact hle.congr rfl rfl rfl rfl
      | ok ordering =>
        obtain ⟨hnext, -⟩ := nextExpectedNonce_of_granted heff hexit
        refine ⟨fun now k hg => ?_, fun now k hg hm => absurd (Or.inl hm) hunheld, fun _ => ?_,
          fun hr => absurd (Or.inr hr) hunheld⟩
        · obtain ⟨-, rfl⟩ := Prod.mk.inj (Option.some_inj.mp hg)
          exact ⟨k, hnext, UInt64.le_refl k⟩
        · exact Option.some_ne_none _
  | enterSubmit request => exact hle.congr rfl rfl rfl rfl
  | leaveSubmit request =>
    refine ⟨hle.reached, hle.passed, hle.held, fun hreleased => ?_⟩
    have hunreleased : (course c i).progress.released = false := hinv.1
    have hreleased : (course c i).progress.released = true := hreleased
    rw [hunreleased] at hreleased
    cases hreleased
  | markSubmitted store sender nonce =>
    obtain ⟨-, rfl, rfl, ⟨now, e, hgrant⟩, -⟩ := hinv
    refine ⟨hle.reached, fun now' k hg _ hmax => ?_, fun _ => ?_, fun _ _ _ _ _ _ => rfl⟩
    · obtain rfl := hnonce now' k hg
      obtain ⟨ms, hmark⟩ := hknown.advance rfl store t.sender t.l2Nonce rfl hmax
      obtain ⟨e', he', hreached⟩ := h.reached now' t.l2Nonce hg
      exact lt_nextExpectedNonce_of_mark hmark he' hreached
    · exact ne_of_eq_of_ne hgrant (Option.some_ne_none _)
  | release store sender ownerId =>
    obtain ⟨-, -, -, ⟨p, hgrant⟩, hmarked⟩ := hinv
    refine ⟨hle.reached, hle.passed, fun _ => ?_, fun _ => hmarked⟩
    exact ne_of_eq_of_ne hgrant (Option.some_ne_none _)

/-- The nonce of a grant in order is the nonce of the request. -/
theorem Deployment.inOrder_nonce {mayFail : Bool} (h : Deployment mayFail opens lib calls w c)
    {i : ℕ} {t : TrackedSend} (ht : (calls i).tracked lib = some t) {now k : UInt64}
    (hg : (progress c i).grant = some (now, .inOrder k)) : k = t.l2Nonce := by
  obtain ⟨-, -, -, -, hin, -⟩ := h.exists_classified ht hg
  exact (hin k rfl).symm

/-- No move of a deployment that opens the recorded profile only takes an expected nonce back. -/
theorem Deployment.le_nextExpectedNonce_move {mayFail : Bool} {p : Profile}
    (hw : w.db.Records p) (hopens : ∀ store, opens store = true → store.profile = p)
    (h : Deployment mayFail opens lib calls w c) {m : Move (deployment mayFail opens)}
    (hm : c.move (deployment mayFail opens) m = some c') {sender : String} {e : UInt64}
    (he : nextExpectedNonce c.world.db sender = some e) :
    ∃ e', nextExpectedNonce c'.world.db sender = some e' ∧ e ≤ e' :=
  (h.advanced hw hopens (Leads.move hm) sender).le he

/-- **The expected nonces pass what was marked.** -/
theorem Deployment.passing {p : Profile} (hw : w.db.Records p)
    (hopens : ∀ store, opens store = true → store.profile = p)
    (h : Deployment false opens lib calls w c) :
    ∀ i t, (calls i).tracked lib = some t →
      Passing (nextExpectedNonce c.world.db t.sender) (course c i) := by
  refine Reachable.invariant h (P := fun c => ∀ i t, (calls i).tracked lib = some t →
    Passing (nextExpectedNonce c.world.db t.sender) (course c i))
    (fun i t _ => passing_start _) fun d d' m hd hpass hm i t ht => ?_
  have hle : ∀ e, nextExpectedNonce d.world.db t.sender = some e →
      ∃ e', nextExpectedNonce d'.world.db t.sender = some e' ∧ e ≤ e' := fun e he =>
    Deployment.le_nextExpectedNonce_move hw hopens hd hm he
  rcases Deployment.step_cases hd hm with ⟨u, w', -, rfl⟩ | ⟨j, op, k, a, w', -, rfl, hknown⟩
  · exact (hpass i t ht).mono hle
  · rw [course_attempt]
    split_ifs with hji
    · subst hji
      refine (hpass j t ht).own ht hknown fun now k hg => ?_
      rw [course_progress] at hg
      exact Deployment.inOrder_nonce hd ht hg
    · exact (hpass i t ht).mono hle

/-! ### Locks -/

/-- Without failures, an answered call of a deployment is an answered call of a session. -/
theorem Deployment.answered (h : Deployment false opens lib calls w c) {i : ℕ} {op : TransportOp}
    {k : op.Out → Request (Except TransportError ResponsePacket)} {a : op.Ans} {w' : World}
    (hi : c.thread i = .call op k) (hknown : Known false lib calls c i op a w') :
    Answered lib calls c i op a w' := by
  obtain ⟨hsucc, heff⟩ | ⟨hfail, -⟩ := hknown.effect
  case inr => cases hfail
  refine ⟨hknown.clock, heff, hsucc, ?_⟩
  exact Reachable.pending h (fun o i w op a w' ha => machine_succeeds o i w op a w' ha)
    (holds_request (calls i).stamp (calls i).packet) (by rw [hi]; rfl)

/-- The clock of a deployment is never turned back. -/
theorem Upkeep.clock_le {u : Upkeep} {w w' : World} (h : u.apply opens w = some w') :
    w.clock ≤ w'.clock := by
  cases u with
  | clock t =>
    simp only [Upkeep.apply] at h
    split_ifs at h with hle
    rw [← Option.some_inj.mp h]
    exact hle
  | migrate =>
    rw [← Option.some_inj.mp h]
  | reconcile store =>
    simp only [Upkeep.apply] at h
    split_ifs at h
    rw [← Option.some_inj.mp h]
  | deleteRows doomed =>
    rw [← Option.some_inj.mp h]

/-- Every unreleased grant of a deployment without failures stays covered. -/
theorem Deployment.covered {p : Profile} (hw : w.db.Records p)
    (hopens : ∀ store, opens store = true → store.profile = p)
    (hdistinct : DistinctOwners lib calls) (h : Deployment false opens lib calls w c) :
    Covered lib calls c := by
  refine Reachable.invariant h (P := Covered lib calls) (fun i t now ordering _ hgrant => ?_)
    fun d d' m hd hcov hm => ?_
  · cases hgrant
  · rcases Deployment.step_cases hd hm with ⟨u, w', hu, rfl⟩ | ⟨j, op, k, a, w', hj, rfl, hknown⟩
    · intro i t now ordering ht hgrant hreleased
      have hsame : w'.db.senderLocks = d.world.db.senderLocks := by
        rcases u.tables hu with ⟨-, hlocks⟩ | ⟨store, -, hopen, hchanged, -⟩
        · exact hlocks
        · rw [(profileChanged_eq_false_iff (Deployment.records hw hopens hd)).mpr
            (hopens store hopen).symm] at hchanged
          cases hchanged
      show Lease.Covers (lockHolder w'.db t.sender) w'.clock t.lockOwnerId _
      rw [lockHolder_congr hsame]
      exact (hcov i t now ordering ht hgrant hreleased).mono (Upkeep.clock_le hu)
    · exact hcov.attempt hdistinct (Deployment.answered hd hj hknown)

/-! ### Two requests with one nonce -/

/-- The request gave its lock back, and did not succeed. -/
def Spent (c : SessionConf) (i : ℕ) : Prop :=
  (progress c i).released = true ∧ ∀ r, (progress c i).answer ≠ some (.ok r)

/-- Of two requests, one did not succeed or held its lock beyond its lease. -/
def Apart (opens : IgraStore → Bool) (lib : Externals) (calls : ℕ → RequestCall) (w : World)
    (c : SessionConf) (i j : ℕ) : Prop :=
  (Spent c i ∨ HeldBeyondLease opens lib calls w c i) ∨
    (Spent c j ∨ HeldBeyondLease opens lib calls w c j)

/-- When a nonce is found in order again, the request that it was granted to before has given its
lock back without success, or has outlived its lease. -/
theorem spent_or_overdue {i j : ℕ} {t t' : TrackedSend} (hdistinct : DistinctOwners lib calls)
    (hij : i ≠ j) (ht : (calls i).tracked lib = some t) (ht' : (calls j).tracked lib = some t')
    (hsender : t.sender = t'.sender) (hcov : Covered lib calls c)
    (hpass : Passing (nextExpectedNonce c.world.db t'.sender) (course c j)) {k now : UInt64}
    (hmax : k ≠ u64Max) (hg : (progress c j).grant = some (now, .inOrder k)) {db' : Db}
    {deadlineMs : UInt64} {a : PollAnswer}
    (heff : Effect c.world.clock c.world.db db' (.pollLock t deadlineMs) a)
    (hexit : a.exit = some (.ok (.inOrder k))) :
    Spent c j ∨ (progress c j).released = false ∧ ¬WithinLease lib calls c j := by
  cases hreleased : (progress c j).released with
  | false =>
    refine Or.inr ⟨rfl, fun hwithin => ?_⟩
    -- the lock row still names the other request, so the round would not have been let in
    have hle := hwithin t' now _ ht' hg
    have hheld := (hcov j t' now _ ht' hg hreleased).resolve_right hle.not_gt
    obtain ⟨hnow, hadmits, -⟩ := effect_granted heff (PollAnswer.exit_eq_ok.mp hexit)
    rw [hsender] at hadmits
    rcases hadmits _ _ hheld with howner | hlt
    · exact hij (hdistinct i j t t' ht ht' howner.symm)
    · exact absurd (hlt.trans_le hnow) hle.not_gt
  | true =>
    refine Or.inl ⟨hreleased, fun r hanswer => ?_⟩
    -- a success was marked before the release, so the expected nonce has passed
    rw [← course_progress] at hg hreleased hanswer
    obtain ⟨e, he, hlt⟩ :=
      hpass.passed now k hg (hpass.settled hreleased now k r hg hanswer) hmax
    rw [← hsender] at he
    obtain rfl : e = k := (nextExpectedNonce_of_granted heff hexit).2 e he
    exact absurd hlt (UInt64.lt_irrefl e)

theorem HeldBeyondLease.mono {i : ℕ} (hlead : Leads (deployment false opens) c c')
    (h : HeldBeyondLease opens lib calls w c i) : HeldBeyondLease opens lib calls w c' i := by
  obtain ⟨d, hd, hdc, hheld⟩ := h
  exact ⟨d, hd, hdc.trans hlead, hheld⟩

/-- A request that is spent stays so. -/
theorem Spent.attempt {j : ℕ} {op : TransportOp}
    {k : op.Out → Request (Except TransportError ResponsePacket)} {a : op.Ans} {w' : World}
    (hknown : Known false lib calls c j op a w') {i : ℕ} {t : TrackedSend}
    (ht : (calls i).tracked lib = some t) (h : Spent c i) : Spent (c.attempt j op k a w') i := by
  rw [Spent, progress_attempt]
  split_ifs with hji
  case neg => exact h
  subst hji
  obtain ⟨hreleased, hanswer⟩ := h
  refine ⟨?_, fun r hr => ?_⟩
  · rcases (progress c j).after_cases op a with heq | ⟨_, _, -, heq⟩ | ⟨_, _, _, _, -, -, heq⟩ |
      ⟨_, -, heq⟩ | ⟨_, -, heq⟩ | ⟨_, _, -, heq⟩ | ⟨_, _, _, -, heq⟩
    case inr.inr.inr.inr.inr.inr => rw [heq]
    all_goals
      rw [heq]
      exact hreleased
  · obtain ⟨request, ⟨⟩⟩ := answer_after (hanswer r) hr
    have hinv := hknown.invariant
    rw [ht] at hinv
    have hunreleased : (course c j).progress.released = false := hinv.1
    rw [course_progress, hreleased] at hunreleased
    cases hunreleased

/-- Of two requests with one nonce, the first that is granted keeps the other out, or is spent. -/
theorem apart_attempt {p : Profile} (hw : w.db.Records p)
    (hopens : ∀ store, opens store = true → store.profile = p)
    (hdistinct : DistinctOwners lib calls) (h : Deployment false opens lib calls w c) {i j : ℕ}
    {t t' : TrackedSend} (hij : i ≠ j) (ht : (calls i).tracked lib = some t)
    (ht' : (calls j).tracked lib = some t') (hsender : t.sender = t'.sender) {k : UInt64}
    (hmax : k ≠ u64Max) {op : TransportOp}
    {q : op.Out → Request (Except TransportError ResponsePacket)} {a : op.Ans} {w' : World}
    (hknown : Known false lib calls c i op a w')
    (hlead : Leads (deployment false opens) c (c.attempt i op q a w')) {now now' : UInt64}
    (hold : (progress c i).grant = some (now, .inOrder k) → Apart opens lib calls w c i j)
    (hgi : ((progress c i).after op a).grant = some (now, .inOrder k))
    (hgj : (progress c j).grant = some (now', .inOrder k)) :
    Apart opens lib calls w (c.attempt i op q a w') i j := by
  have hkeep : ∀ n t, (calls n).tracked lib = some t →
      Spent c n ∨ HeldBeyondLease opens lib calls w c n →
      Spent (c.attempt i op q a w') n ∨
        HeldBeyondLease opens lib calls w (c.attempt i op q a w') n := fun n t ht hn =>
    hn.imp (Spent.attempt hknown ht) (HeldBeyondLease.mono hlead)
  by_cases hround : ∃ t now, GrantedRound t now ⟨op, a⟩
  · obtain ⟨t'', now'', hround⟩ := hround
    obtain ⟨ordering, hafter⟩ := hround.after (progress c i)
    rw [hafter] at hgi
    obtain ⟨rfl, rfl⟩ := Prod.mk.inj (Option.some_inj.mp hgi)
    obtain ⟨deadlineMs, b, ordering, ⟨⟩, hexit, rfl⟩ := hround
    have hinv := hknown.invariant
    rw [ht] at hinv
    obtain rfl : t'' = t := hinv.1
    obtain ⟨-, heff⟩ | ⟨hfail, -⟩ := hknown.effect
    case inr => cases hfail
    have hordering : ordering = .inOrder k := by
      simp only [Progress.after, Progress.polled, hexit] at hafter
      exact (Prod.mk.inj (Option.some_inj.mp (congrArg Progress.grant hafter))).2
    rw [hordering] at hexit
    refine Or.inr (hkeep j t' ht' ?_)
    exact (spent_or_overdue hdistinct hij ht ht' hsender
      (Deployment.covered hw hopens hdistinct h) (Deployment.passing hw hopens h j t' ht') hmax hgj
      heff hexit).imp_right fun hover => ⟨c, h, Leads.refl c, hover⟩
  · rw [grant_after_of_not_granted fun t now hr => hround ⟨t, now, hr⟩] at hgi
    exact (hold hgi).imp (hkeep i t ht) (hkeep j t' ht')

/-- **Two requests with one nonce in order do not both succeed**, unless one outlived its lease. -/
theorem Deployment.apart {p : Profile} (hw : w.db.Records p)
    (hopens : ∀ store, opens store = true → store.profile = p)
    (hdistinct : DistinctOwners lib calls) (h : Deployment false opens lib calls w c) :
    ∀ i j t t' k now now', i ≠ j → (calls i).tracked lib = some t →
      (calls j).tracked lib = some t' → t.sender = t'.sender → k ≠ u64Max →
      (progress c i).grant = some (now, .inOrder k) →
      (progress c j).grant = some (now', .inOrder k) → Apart opens lib calls w c i j := by
  refine Reachable.invariant h (P := fun c => ∀ i j t t' k now now', i ≠ j →
    (calls i).tracked lib = some t → (calls j).tracked lib = some t' → t.sender = t'.sender →
    k ≠ u64Max → (progress c i).grant = some (now, .inOrder k) →
    (progress c j).grant = some (now', .inOrder k) → Apart opens lib calls w c i j) ?_
    fun d d' m hd hall hm => ?_
  · intro i j t t' k now now' _ _ _ _ _ hgi _
    cases hgi
  · intro i j t t' k now now' hij ht ht' hsender hmax hgi hgj
    have hlead := Leads.move hm
    have hd : Deployment false opens lib calls w d := hd
    rcases hd.step_cases hm with ⟨u, w', -, rfl⟩ | ⟨n, op, q, a, w', -, rfl, hknown⟩
    · exact (hall i j t t' k now now' hij ht ht' hsender hmax hgi hgj).imp
        (Or.imp_right (HeldBeyondLease.mono hlead)) (Or.imp_right (HeldBeyondLease.mono hlead))
    · rw [progress_attempt] at hgi hgj
      by_cases hni : n = i
      · subst hni
        rw [if_pos rfl] at hgi
        rw [if_neg hij] at hgj
        exact apart_attempt hw hopens hdistinct hd hij ht ht' hsender hmax hknown hlead
          (fun hg => hall n j t t' k now now' hij ht ht' hsender hmax hg hgj) hgi hgj
      · rw [if_neg hni] at hgi
        by_cases hnj : n = j
        · subst hnj
          rw [if_pos rfl] at hgj
          exact (apart_attempt hw hopens hdistinct hd hij.symm ht' ht hsender.symm hmax hknown
            hlead (fun hg => (hall i n t t' k now now' hij ht ht' hsender hmax hgi hg).symm)
            hgj hgi).symm
        · rw [if_neg hnj] at hgj
          exact (hall i j t t' k now now' hij ht ht' hsender hmax hgi hgj).imp
            (Or.imp (Spent.attempt hknown ht) (HeldBeyondLease.mono hlead))
            (Or.imp (Spent.attempt hknown ht') (HeldBeyondLease.mono hlead))

/-! ### The history and the progress -/

/-- A request is granted once. -/
theorem Known.grant_kept {mayFail : Bool} {j : ℕ} {op : TransportOp} {a : op.Ans} {w' : World}
    (hknown : Known mayFail lib calls c j op a w') {t : TrackedSend}
    (ht : (calls j).tracked lib = some t) {p : UInt64 × NonceOrdering}
    (hg : (progress c j).grant = some p) : ((progress c j).after op a).grant = some p := by
  by_cases hround : ∃ t now, GrantedRound t now ⟨op, a⟩
  · obtain ⟨t', now', hround⟩ := hround
    obtain ⟨deadlineMs, rfl⟩ := hround.op_eq
    have hinv := hknown.invariant
    rw [ht] at hinv
    have hnone : (course c j).progress.grant = none := hinv.2
    rw [course_progress, hg] at hnone
    cases hnone
  · rw [grant_after_of_not_granted fun t now hr => hround ⟨t, now, hr⟩]
    exact hg

/-- What a classification in the history says is the grant of the request. -/
theorem Deployment.grant_of_classified {mayFail : Bool}
    (h : Deployment mayFail opens lib calls w c) :
    ∀ x ∈ c.history, ∀ t ordering, (calls x.tid).tracked lib = some t → Classified t ordering x →
      ∃ now, (progress c x.tid).grant = some (now, ordering) := by
  refine Reachable.invariant h (P := fun c => ∀ x ∈ c.history, ∀ t ordering,
    (calls x.tid).tracked lib = some t → Classified t ordering x →
      ∃ now, (progress c x.tid).grant = some (now, ordering))
    (fun x hx => absurd hx List.not_mem_nil) fun d d' m hd hall hm => ?_
  rcases Deployment.step_cases hd hm with ⟨u, w', -, rfl⟩ | ⟨j, op, k, a, w', -, rfl, hknown⟩
  · exact hall
  · intro x hx t ordering ht hclassified
    rcases List.mem_cons.mp hx with rfl | hx
    · show ∃ now, (progress (d.attempt j op k a w') j).grant = some (now, ordering)
      rw [progress_attempt, if_pos rfl]
      obtain ⟨deadlineMs, b, ⟨⟩, hb⟩ := hclassified
      refine ⟨b.now, ?_⟩
      simp only [Progress.after, Progress.polled, PollAnswer.exit_eq_ok.mpr hb]
    · obtain ⟨now, hg⟩ := hall x hx t ordering ht hclassified
      refine ⟨now, ?_⟩
      rw [progress_attempt]
      split_ifs with hj
      case neg => exact hg
      subst hj
      exact hknown.grant_kept ht hg

/-- What a return in the history says is the answer of the request. -/
theorem Deployment.answer_of_returned {mayFail : Bool}
    (h : Deployment mayFail opens lib calls w c) :
    ∀ x ∈ c.history, ∀ t r, (calls x.tid).tracked lib = some t → Returned r x →
      (progress c x.tid).answer = some (.ok r) := by
  refine Reachable.invariant h (P := fun c => ∀ x ∈ c.history, ∀ t r,
    (calls x.tid).tracked lib = some t → Returned r x →
      (progress c x.tid).answer = some (.ok r))
    (fun x hx => absurd hx List.not_mem_nil) fun d d' m hd hall hm => ?_
  rcases Deployment.step_cases hd hm with ⟨u, w', -, rfl⟩ | ⟨j, op, k, a, w', -, rfl, hknown⟩
  · exact hall
  · intro x hx t r ht hreturned
    rcases List.mem_cons.mp hx with rfl | hx
    · show (progress (d.attempt j op k a w') j).answer = some (.ok r)
      rw [progress_attempt, if_pos rfl]
      obtain ⟨request, ⟨⟩⟩ := hreturned
      rfl
    · have hg := hall x hx t r ht hreturned
      rw [progress_attempt]
      split_ifs with hj
      case neg => exact hg
      subst hj
      by_contra hne
      rcases (progress d x.tid).after_cases op a with heq | ⟨_, _, -, heq⟩ |
        ⟨_, _, _, _, -, -, heq⟩ | ⟨_, -, heq⟩ | ⟨_, -, heq⟩ | ⟨request, _, ⟨⟩, -⟩ |
        ⟨_, _, _, -, heq⟩
      case inr.inr.inr.inr.inr.inl =>
        have hinv := hknown.invariant
        rw [ht] at hinv
        have hnone : (course d x.tid).progress.answer = none := hinv.2
        rw [course_progress, hg] at hnone
        cases hnone
      all_goals
        rw [heq] at hne
        exact hne hg

/-- A request that is within its lease has been so before. -/
theorem WithinLease.of_leads {mayFail : Bool} (h : Deployment mayFail opens lib calls w c)
    (hlead : Leads (deployment mayFail opens) c c') {i : ℕ} (hc' : WithinLease lib calls c' i) :
    WithinLease lib calls c i := by
  intro t now ordering ht hg
  suffices hkept : (progress c' i).grant = some (now, ordering) ∧
      c.world.clock ≤ c'.world.clock from
    hkept.2.trans (hc' t now ordering ht hkept.1)
  refine Leads.invariant hlead (P := fun d => (progress d i).grant = some (now, ordering) ∧
    c.world.clock ≤ d.world.clock) ⟨hg, le_rfl⟩ fun d d' m hcd hd hm => ?_
  obtain ⟨hgd, hclock⟩ := hd
  rcases Deployment.step_cases (Leads.trans h hcd) hm with
    ⟨u, w', hu, rfl⟩ | ⟨j, op, k, a, w', -, rfl, hknown⟩
  · exact ⟨hgd, hclock.trans (Upkeep.clock_le hu)⟩
  · refine ⟨?_, hclock.trans hknown.clock.ge⟩
    rw [progress_attempt]
    split_ifs with hji
    · subst hji
      exact hknown.grant_kept ht hgd
    · exact hgd

/-- A request that is within its lease has not held its lock beyond it. -/
theorem WithinLease.not_heldBeyondLease {i : ℕ} (h : WithinLease lib calls c i) :
    ¬HeldBeyondLease opens lib calls w c i := by
  rintro ⟨d, hd, hlead, -, hover⟩
  exact hover (h.of_leads hd hlead)

/-- The request of a success in order. -/
theorem Deployment.submittedBy {mayFail : Bool} (h : Deployment mayFail opens lib calls w c) {i : ℕ}
    {t : TrackedSend} (ht : (calls i).tracked lib = some t) {now k : UInt64} {r : IgraSubmitResult}
    (hg : (progress c i).grant = some (now, .inOrder k))
    (hr : (progress c i).answer = some (.ok r)) :
    SubmittedBy lib calls c.history t.sender k i := by
  obtain ⟨x, hx, hxi, hclassified, hin, -⟩ := h.exists_classified ht hg
  obtain ⟨y, hy, hyi, hreturned⟩ := exists_returned hr
  exact ⟨t, ht, rfl, hin k rfl, ⟨x, hx, hxi, hclassified⟩, ⟨y, hy, hyi, r, hreturned⟩⟩

/-- Two requests that submitted one nonce in order are one, unless one outlived its lease. -/
theorem Deployment.submittedBy_eq {p : Profile} (hw : w.db.Records p)
    (hopens : ∀ store, opens store = true → store.profile = p)
    (hdistinct : DistinctOwners lib calls) (h : Deployment false opens lib calls w c)
    {sender : String} {k : UInt64} {i j : ℕ} (hmax : k ≠ u64Max)
    (hi : SubmittedBy lib calls c.history sender k i)
    (hj : SubmittedBy lib calls c.history sender k j) :
    i = j ∨ HeldBeyondLease opens lib calls w c i ∨ HeldBeyondLease opens lib calls w c j := by
  obtain ⟨t, ht, hs, -, ⟨x, hx, rfl, hxc⟩, ⟨y, hy, hyi, r, hyr⟩⟩ := hi
  obtain ⟨t', ht', hs', -, ⟨x', hx', rfl, hxc'⟩, ⟨y', hy', hyj, r', hyr'⟩⟩ := hj
  by_cases hij : x.tid = x'.tid
  · exact Or.inl hij
  right
  obtain ⟨now, hg⟩ := h.grant_of_classified x hx t _ ht hxc
  obtain ⟨now', hg'⟩ := h.grant_of_classified x' hx' t' _ ht' hxc'
  have hanswer := h.answer_of_returned y hy t r (hyi ▸ ht) hyr
  have hanswer' := h.answer_of_returned y' hy' t' r' (hyj ▸ ht') hyr'
  rw [hyi] at hanswer
  rw [hyj] at hanswer'
  exact (h.apart hw hopens hdistinct _ _ t t' k now now' hij ht ht' (hs.trans hs'.symm) hmax hg
    hg').imp (fun hspent => hspent.resolve_left fun hfail => hfail.2 r hanswer)
    fun hspent => hspent.resolve_left fun hfail => hfail.2 r' hanswer'

/-- **Nonces are submitted once.** In a deployment without store failures that opens its file for
the recorded profile only, and whose requests have distinct lock owner ids, two requests of one
sender submit one nonce in order only when one of them outlived its lease; and where none did,
between any two configurations of a run the expected nonce of a sender moves past nonces only that
were each submitted in order by exactly one request. The last nonce, `u64::MAX`, is never
passed. -/
theorem submittedOnce {p : Profile} (hw : w.db.Records p)
    (hopens : ∀ store, opens store = true → store.profile = p)
    (hdistinct : DistinctOwners lib calls) (h : Deployment false opens lib calls w c) :
    (∀ sender k i j, k ≠ u64Max → i ≠ j → SubmittedBy lib calls c.history sender k i →
      SubmittedBy lib calls c.history sender k j →
        HeldBeyondLease opens lib calls w c i ∨ HeldBeyondLease opens lib calls w c j) ∧
    ∀ c', Leads (deployment false opens) c c' → ∀ sender,
      (∀ i t, (calls i).tracked lib = some t → t.sender = sender →
        ¬HeldBeyondLease opens lib calls w c' i) →
      Advanced (fun k => ∃! i, SubmittedBy lib calls c'.history sender k i)
        (nextExpectedNonce c.world.db sender) (nextExpectedNonce c'.world.db sender) := by
  refine ⟨fun sender k i j hmax hij hi hj =>
    (h.submittedBy_eq hw hopens hdistinct hmax hi hj).resolve_left hij,
    fun c' hlead sender hnone => ?_⟩
  have h' : Deployment false opens lib calls w c' := Leads.trans h hlead
  refine (h.advanced hw hopens hlead sender).mono fun k hmax hk => ?_
  obtain ⟨i, hi⟩ := hk
  refine ⟨i, hi, fun j hj => ?_⟩
  obtain ⟨t, ht, hs, -⟩ := id hi
  obtain ⟨t', ht', hs', -⟩ := id hj
  rcases h'.submittedBy_eq hw hopens hdistinct hmax hj hi with hij | hheld | hheld
  · exact hij
  · exact absurd hheld (hnone j t' ht' hs')
  · exact absurd hheld (hnone i t ht hs)

end Deployments

/-! ### The deployment of two requests for one nonce -/

/-- The first request is inside `submit_payload` when its lease expires; the second request for the
same transaction takes the lock over and succeeds; then the first succeeds. -/
def takenOverMoves : List (Move (deployment false opensSameProfile)) :=
  deploymentMoves 0 5 1700000000000 (.ok sampleResult) ++
    .tick (M := deployment false opensSameProfile) (.clock 1700000002001) ::
      (deploymentMoves 1 11 1700000002001 (.ok sampleResult) ++
        deploymentMoves 0 6 1700000002001 (.ok sampleResult))

/-- The next `n` calls of the first request, which runs alone. -/
def aloneMoves (n : ℕ) : List (Move (deployment false opensSameProfile)) :=
  deploymentMoves 0 n 1700000000000 (.ok sampleResult)

/-- Where only the first request was granted the lock, and the clock has not moved since, every
request is within its lease. -/
theorem withinLease_sampleCalls {c : SessionConf} {ordering : NonceOrdering}
    (hclock : c.world.clock = 1700000000000)
    (h₀ : (progress c 0).grant = some (1700000000000, ordering)) (h₁ : (progress c 1).grant = none)
    (i : ℕ) : WithinLease sampleExternals sampleCalls c i := by
  intro t now o ht hg
  match i with
  | 0 =>
    obtain ⟨rfl, -⟩ := Prod.mk.inj (Option.some_inj.mp (hg.symm.trans h₀))
    obtain rfl := Option.some_inj.mp (tracked_sampleCalls_zero.symm.trans ht)
    rw [hclock]
    decide
  | 1 => cases hg.symm.trans h₁
  | i + 2 => cases (tracked_sampleCalls_idle i).symm.trans ht

/-- When both requests submit the nonce in order, one of them has outlived its lease; when the first
request runs alone, the nonce that it has seeded is passed, and was submitted by it only. -/
theorem submittedOnce_taken_over :
    (∃ c, Deployment false opensSameProfile sampleExternals sampleCalls openedWorld c ∧
      SubmittedBy sampleExternals sampleCalls c.history sampleSender 0 0 ∧
      SubmittedBy sampleExternals sampleCalls c.history sampleSender 0 1 ∧
      (HeldBeyondLease opensSameProfile sampleExternals sampleCalls openedWorld c 0 ∨
        HeldBeyondLease opensSameProfile sampleExternals sampleCalls openedWorld c 1)) ∧
    ∃ c c', Deployment false opensSameProfile sampleExternals sampleCalls openedWorld c ∧
      Leads (deployment false opensSameProfile) c c' ∧
      nextExpectedNonce c.world.db sampleSender = some 0 ∧
      nextExpectedNonce c'.world.db sampleSender = some 1 ∧
      ∃! i, SubmittedBy sampleExternals sampleCalls c'.history sampleSender 0 i := by
  have hw := records_reconcile oneSecondStore Db.empty
  have hopens : ∀ store, opensSameProfile store = true → store.profile = oneSecondStore.profile :=
    fun store hopens => of_decide_eq_true hopens
  constructor
  · obtain ⟨c, hc, hP⟩ := exists_deployment_of_any sampleExternals sampleCalls openedWorld
      takenOverMoves (fun c => decide (
        (progress c 0).grant = some (1700000000000, .inOrder 0) ∧
        (progress c 0).answer = some (.ok sampleResult) ∧
        (progress c 1).grant = some (1700000002001, .inOrder 0) ∧
        (progress c 1).answer = some (.ok sampleResult))) (by decide +kernel)
    obtain ⟨hg₀, hr₀, hg₁, hr₁⟩ := of_decide_eq_true hP
    have h₀ := hc.submittedBy tracked_sampleCalls_zero hg₀ hr₀
    have h₁ := hc.submittedBy tracked_sampleCalls_one hg₁ hr₁
    exact ⟨c, hc, h₀, h₁, (submittedOnce hw hopens distinctOwners_sampleCalls hc).1 sampleSender 0 0
      1 (by decide) (by decide) h₀ h₁⟩
  · have hplay : ((Conf.start (fun i => (sampleCalls i).program sampleExternals) openedWorld).play _
        (aloneMoves 3)).any (fun c => decide (nextExpectedNonce c.world.db sampleSender = some 0) &&
          (c.play _ (aloneMoves 8)).any fun c' => decide (
            nextExpectedNonce c'.world.db sampleSender = some 1 ∧
            c'.world.clock = 1700000000000 ∧
            (progress c' 0).grant = some (1700000000000, .inOrder 0) ∧
            (progress c' 1).grant = none)) = true := by decide +kernel
    obtain ⟨c, c', hc, hlead, hP, hQ⟩ := exists_leads_of_any hplay
    have hseeded := of_decide_eq_true hP
    obtain ⟨hpassed, hclock, hg₀, hg₁⟩ := of_decide_eq_true hQ
    have hadvanced := (submittedOnce hw hopens distinctOwners_sampleCalls hc).2 c' hlead sampleSender
      fun i t _ _ => (withinLease_sampleCalls hclock hg₀ hg₁ i).not_heldBeyondLease
    rw [hseeded, hpassed] at hadvanced
    exact ⟨c, c', hc, hlead, hseeded, hpassed,
      hadvanced.between.2 0 (UInt64.le_refl 0) (by decide)⟩

end FoundryIgra
