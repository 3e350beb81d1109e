import FoundryIgra.Transport.Deployment
import FoundryIgra.Transport.NonceProgress

/-!
# Expected nonces of a deployment

The nonce discipline does not rest on a store that never fails. Whatever calls fail and however
often the file is opened for the same profile, an expected nonce moves forward one submitted nonce
at a time, from any database the run started with; and a tracked request submits without a
classification only after its own acquisition failed with an SQLite or I/O error.

## Main definitions

* `FailedAcquisition`: an acquisition that failed with an SQLite or I/O error.

## Main results

* `Deployment.records`: the recorded profile of a deployment.
* `nonceSafety`: the expected nonces of a deployment.
-/

namespace FoundryIgra

open Rust Store Concurrency

/-- The entry is a call of an acquisition that failed with an SQLite or I/O error. -/
def FailedAcquisition (x : Entry TransportOps World) : Prop :=
  ∃ err : IgraStoreError, err.code = none ∧
    ((∃ store : IgraStore, x.event = ⟨.startAcquire store, .error err⟩) ∨
      ∃ (t : TrackedSend) (deadlineMs : UInt64) (a : PollAnswer),
        x.event = ⟨.pollLock t deadlineMs, a⟩ ∧ a.result = .error err)

/-- No call writes the metadata. -/
theorem schemaMeta_effect {clock : ℕ} {db db' : Db} {op : TransportOp} {a : op.Ans}
    (heff : Effect clock db db' op a) : db'.schemaMeta = db.schemaMeta := by
  rcases effect_cases heff with rfl | ⟨_, _, _, -, rfl⟩ | ⟨t, now, -, -, -, hgrants⟩ |
    ⟨_, _, _, _, _, -, -, -, rfl⟩ | ⟨_, _, _, -, rfl⟩
  · rfl
  · rfl
  · exact hgrants.tables.2.2
  · rfl
  · rfl

theorem nextExpectedNonce_congr {db db' : Db} (h : db'.senderNonceState = db.senderNonceState) :
    nextExpectedNonce db' = nextExpectedNonce db := by
  funext sender
  rw [nextExpectedNonce, nextExpectedNonce, h]

/-- Only an acquisition refuses. -/
theorem exists_error_of_refusal_after {g : Progress} {op : TransportOp} {a : op.Ans}
    {err : IgraStoreError} (hg : g.refusal ≠ some err) (h : (g.after op a).refusal = some err) :
    (∃ store : IgraStore, (⟨op, a⟩ : TransportOps.Event) = ⟨.startAcquire store, .error err⟩) ∨
      ∃ (t : TrackedSend) (deadlineMs : UInt64) (b : PollAnswer),
        (⟨op, a⟩ : TransportOps.Event) = ⟨.pollLock t deadlineMs, b⟩ ∧ b.result = .error err := by
  rcases g.after_cases op a with heq | ⟨_, _, -, heq⟩ | ⟨_, _, _, _, -, -, heq⟩ |
    ⟨err', hevent, heq⟩ | ⟨_, -, heq⟩ | ⟨_, _, -, heq⟩ | ⟨_, _, _, -, heq⟩
  case inr.inr.inr.inl =>
    rw [heq] at h
    obtain rfl : err' = err := Option.some_inj.mp h
    rcases hevent with hstart | ⟨t, deadlineMs, b, hevent, hexit⟩
    · exact Or.inl hstart
    · exact Or.inr ⟨t, deadlineMs, b, hevent, (PollAnswer.exit_eq_error.mp hexit).1⟩
  all_goals
    rw [heq] at h
    exact absurd h hg

section Deployments

variable {mayFail : Bool} {opens : IgraStore → Bool} {lib : Externals} {calls : ℕ → RequestCall}
  {w : World} {c c' : SessionConf}

/-- Every entry of a history was an answered call of its request. -/
theorem Deployment.known_of_mem (h : Deployment mayFail opens lib calls w c)
    {x : Entry TransportOps World} (hx : x ∈ c.history) : ∃ d, d.world = x.before ∧
      Known mayFail lib calls d x.tid x.event.1 x.event.2 x.after := by
  obtain ⟨later, earlier, hsplit⟩ := List.append_of_mem hx
  obtain ⟨d, -, -, hd, hknown⟩ := h.exists_before hsplit
  exact ⟨d, hd, hknown⟩

/-- A grant in the progress of a tracked request is in its history, and what it found. -/
theorem Deployment.exists_classified (h : Deployment mayFail opens lib calls w c) {i : ℕ}
    {t : TrackedSend} (ht : (calls i).tracked lib = some t) {p : UInt64 × NonceOrdering}
    (hg : (progress c i).grant = some p) :
    ∃ x ∈ c.history, x.tid = i ∧ Classified t p.2 x ∧ (∀ e, p.2 = .inOrder e → t.l2Nonce = e) ∧
      ClassifiedWithin t x := by
  obtain ⟨x, hx, rfl, g, hnot, hnow⟩ :=
    exists_of_progress (Q := fun g => g.grant = some p) nofun hg
  obtain ⟨t', deadlineMs, b, hevent, hb⟩ := grant_after hnot hnow
  obtain ⟨d, hd, hknown⟩ := h.known_of_mem hx
  have hevent : x.event = ⟨.pollLock t' deadlineMs, b⟩ := hevent
  have hinv := hknown.invariant
  have heffect := hknown.effect
  rw [ht, hevent] at hinv
  rw [hevent, hd] at heffect
  obtain rfl : t' = t := hinv.1
  rcases heffect with ⟨-, heff⟩ | ⟨-, -, err, -, herr⟩
  · obtain ⟨hle, hin, hafter, hbefore⟩ := expected_of_classified heff hb
    have hclassified : Classified t' p.2 x := ⟨deadlineMs, b, hevent, hb⟩
    exact ⟨x, hx, rfl, hclassified, hin, p.2, p.2.expected, hclassified, hafter, hbefore, hle⟩
  · have hfailed : b.result = .error err := herr
    rw [hb] at hfailed
    cases hfailed

/-- What a pending advance rests on: the nonce was submitted in order. -/
theorem Deployment.submittedInOrder (h : Deployment mayFail opens lib calls w c) {i : ℕ}
    {store : IgraStore} {sender : String} {nonce : UInt64}
    (hinv : CourseInvariant ((calls i).tracked lib) (course c i)
      (.markSubmitted store sender nonce)) :
    SubmittedInOrder lib calls c.history sender nonce := by
  cases ht : (calls i).tracked lib with
  | none => simp [ht, CourseInvariant, CourseLeaves, LeavesStore] at hinv
  | some t =>
    rw [ht] at hinv
    obtain ⟨-, rfl, rfl, ⟨now, e, hgrant⟩, r, hanswer⟩ := hinv
    rw [course_progress] at hgrant hanswer
    obtain ⟨x, hx, hxi, hxc, hin, -⟩ := h.exists_classified ht hgrant
    obtain ⟨y, hy, hyi, hyr⟩ := exists_returned hanswer
    have he : t.l2Nonce = e := hin e rfl
    exact ⟨i, t, ht, rfl, rfl, ⟨x, hx, hxi, he ▸ hxc⟩, ⟨y, hy, hyi, r, hyr⟩⟩

/-- **The recorded profile.** Opens of the recorded profile keep it recorded. -/
theorem Deployment.records {p : Profile} (hw : w.db.Records p)
    (hopens : ∀ store, opens store = true → store.profile = p)
    (h : Deployment mayFail opens lib calls w c) : c.world.db.Records p := by
  refine Reachable.invariant h (P := fun c => c.world.db.Records p) hw fun d d' m hd hrec hm => ?_
  rcases Deployment.step_cases hd hm with ⟨u, w', hu, rfl⟩ | ⟨j, op, k, a, w', -, rfl, hknown⟩
  · show w'.db.Records p
    cases u with
    | clock t =>
      simp only [Upkeep.apply] at hu
      split_ifs at hu
      obtain rfl := Option.some_inj.mp hu
      exact hrec
    | migrate =>
      obtain rfl := Option.some_inj.mp hu
      exact records_migrate hrec
    | reconcile store =>
      simp only [Upkeep.apply] at hu
      split_ifs at hu with hopen
      obtain rfl := Option.some_inj.mp hu
      exact hopens store hopen ▸ records_reconcile store d.world.db
    | deleteRows doomed =>
      obtain rfl := Option.some_inj.mp hu
      exact hrec
  · show w'.db.Records p
    rcases hknown.effect with ⟨-, heff⟩ | ⟨-, hsame, -⟩
    · exact hrec.congr (schemaMeta_effect heff)
    · exact hsame ▸ hrec

/-- **What a move can do to an expected nonce**: nothing, seed it, or move it from a nonce that was
submitted in order to its successor. -/
theorem Deployment.nextExpectedNonce_move {p : Profile} (hw : w.db.Records p)
    (hopens : ∀ store, opens store = true → store.profile = p)
    (h : Deployment mayFail opens lib calls w c) {m : Move (deployment mayFail opens)}
    (hm : c.move (deployment mayFail opens) m = some c') (sender : String) :
    c.history ⊆ c'.history ∧
      (nextExpectedNonce c'.world.db sender = nextExpectedNonce c.world.db sender ∨
        (nextExpectedNonce c.world.db sender = none ∧
          ∃ seed, nextExpectedNonce c'.world.db sender = some seed) ∨
        ∃ nonce next : UInt64, next.toNat = nonce.toNat + 1 ∧
          (∀ e, nextExpectedNonce c.world.db sender = some e → e = nonce) ∧
          nextExpectedNonce c'.world.db sender = some next ∧
          SubmittedInOrder lib calls c.history sender nonce) := by
  rcases Deployment.step_cases h hm with ⟨u, w', hu, rfl⟩ | ⟨j, op, k, a, w', -, rfl, hknown⟩
  · refine ⟨List.Subset.refl _, Or.inl ?_⟩
    rcases u.tables hu with ⟨hnonce, -⟩ | ⟨store, -, hopen, hchanged, -⟩
    · exact congrFun (nextExpectedNonce_congr hnonce) sender
    · have hprofile := (hopens store hopen).symm
      have hsame := (profileChanged_eq_false_iff (h.records hw hopens)).mpr hprofile
      rw [hsame] at hchanged
      cases hchanged
  · refine ⟨List.subset_cons_self .., ?_⟩
    rcases hknown.effect with ⟨-, heff⟩ | ⟨-, hsame, -⟩
    · rcases nextExpectedNonce_effect heff sender with
        heq | ⟨hnone, t, -, -, -, hseed⟩ | ⟨store, nonce, next, rfl, hnext, hcur, hdb'⟩
      · exact Or.inl heq
      · exact Or.inr (Or.inl ⟨hnone, t.l2Nonce, hseed⟩)
      · exact Or.inr (Or.inr ⟨nonce, next, hnext, hcur, hdb', h.submittedInOrder hknown.invariant⟩)
    · left
      show nextExpectedNonce w'.db sender = _
      rw [hsame]

/-- Between two configurations of a run, the expected nonce of a sender moves only past nonces that
were submitted in order. -/
theorem Deployment.advanced {p : Profile} (hw : w.db.Records p)
    (hopens : ∀ store, opens store = true → store.profile = p)
    (h : Deployment mayFail opens lib calls w c) (hlead : Leads (deployment mayFail opens) c c')
    (sender : String) :
    Advanced (SubmittedInOrder lib calls c'.history sender)
      (nextExpectedNonce c.world.db sender) (nextExpectedNonce c'.world.db sender) := by
  refine Leads.invariant hlead (P := fun d => Advanced (SubmittedInOrder lib calls d.history sender)
    (nextExpectedNonce c.world.db sender) (nextExpectedNonce d.world.db sender))
    (Advanced.refl _) fun d d' m hcd hadv hm => ?_
  have hd : Deployment mayFail opens lib calls w d := Leads.trans h hcd
  obtain ⟨hsub, hmove⟩ := hd.nextExpectedNonce_move hw hopens hm sender
  have hadv' : Advanced (SubmittedInOrder lib calls d'.history sender)
      (nextExpectedNonce c.world.db sender) (nextExpectedNonce d.world.db sender) :=
    hadv.mono fun k _ hk => hk.mono hsub
  rcases hmove with heq | ⟨hnone, seed, hseed⟩ | ⟨nonce, next, hnext, hcur, hdb', hsubmitted⟩
  · rw [heq]
    exact hadv'
  · rw [hseed]
    rw [hnone] at hadv'
    exact hadv'.seed seed
  · rw [hdb']
    exact hadv'.succ hnext hcur (hsubmitted.mono hsub)

/-- A call of `submit_payload` for a tracked request comes after the classification of its nonce, or
after its acquisition failed with an SQLite or I/O error. -/
theorem Deployment.classified_or_failed (h : Deployment mayFail opens lib calls w c)
    {later earlier : List (Entry TransportOps World)} {y : Entry TransportOps World}
    {request : IgraSubmitRequest} {t : TrackedSend} (hsplit : c.history = later ++ y :: earlier)
    (hy : y.event.1 = .enterSubmit request) (ht : (calls y.tid).tracked lib = some t) :
    (∃ x ∈ earlier, x.tid = y.tid ∧ ClassifiedWithin t x) ∨
      ∃ x ∈ earlier, x.tid = y.tid ∧ FailedAcquisition x := by
  obtain ⟨d, hd, rfl, -, hknown⟩ := h.exists_before hsplit
  have hinv := hknown.invariant
  rw [ht, hy] at hinv
  have hinv : (∃ p, (course d y.tid).progress.grant = some p) ∨
    FailedOpen (course d y.tid).progress := hinv
  rw [course_progress] at hinv
  rcases hinv with ⟨p, hgrant⟩ | ⟨err, hrefusal, hnotTimeout, hnotGap⟩
  · obtain ⟨x, hx, hxi, -, -, hwithin⟩ := hd.exists_classified ht hgrant
    exact Or.inl ⟨x, hx, hxi, hwithin⟩
  · right
    obtain ⟨x, hx, hxi, g, hnot, hnow⟩ :=
      exists_of_progress (Q := fun g => g.refusal = some err) nofun hrefusal
    have hevent := exists_error_of_refusal_after hnot hnow
    obtain ⟨d', -, hknown'⟩ := hd.known_of_mem hx
    have heffect := hknown'.effect
    refine ⟨x, hx, hxi, err, ?_, hevent⟩
    -- without a failure the acquisition is refused by a timeout or a nonce gap only
    rcases hevent with ⟨store, hevent⟩ | ⟨t', deadlineMs, b, hevent, hb⟩
    · have hevent : x.event = ⟨.startAcquire store, .error err⟩ := hevent
      rw [hevent] at heffect
      rcases heffect with ⟨⟨now, hnow⟩, -⟩ | ⟨-, -, err', hcode, herr⟩
      · cases hnow
      · obtain rfl : err = err' := Except.error.inj herr
        exact hcode
    · have hevent : x.event = ⟨.pollLock t' deadlineMs, b⟩ := hevent
      rw [hevent] at heffect
      rcases heffect with ⟨hsucc, -⟩ | ⟨-, -, err', hcode, herr⟩
      · rcases hsucc err hb with rfl | ⟨expected, rfl⟩
        · exact absurd rfl (hnotTimeout _)
        · exact absurd rfl (hnotGap _ _)
      · obtain rfl : err = err' := Except.error.inj (hb.symm.trans herr)
        exact hcode

/-- **Nonce safety.** In a deployment that opens its file for the recorded profile only, whatever
calls of the store fail: between any two configurations of a run the expected nonce of a sender is
not lost and moves only past nonces that were classified as in order and submitted; and a tracked
request calls `submit_payload` only after its nonce was found not to exceed the expected one, or
after its own acquisition failed with an SQLite or I/O error. -/
theorem nonceSafety {p : Profile} (hw : w.db.Records p)
    (hopens : ∀ store, opens store = true → store.profile = p)
    (h : Deployment mayFail opens lib calls w c) :
    (∀ c', Leads (deployment mayFail opens) c c' → ∀ sender,
      Advanced (SubmittedInOrder lib calls c'.history sender)
        (nextExpectedNonce c.world.db sender) (nextExpectedNonce c'.world.db sender)) ∧
    ∀ later earlier y request t, c.history = later ++ y :: earlier →
      y.event.1 = .enterSubmit request → (calls y.tid).tracked lib = some t →
        (∃ x ∈ earlier, x.tid = y.tid ∧ ClassifiedWithin t x) ∨
          ∃ x ∈ earlier, x.tid = y.tid ∧ FailedAcquisition x :=
  ⟨fun _ hlead sender => h.advanced hw hopens hlead sender,
    fun _ _ _ _ _ hsplit hy ht => h.classified_or_failed hsplit hy ht⟩

end Deployments

/-! ### A deployment of one request -/

/-- The file that the store of the sample session was opened on. -/
def openedWorld : World := ⟨reconcileProfileCache oneSecondStore Db.empty, 1700000000000⟩

/-- Opens for the profile of the store. -/
def opensSameProfile (store : IgraStore) : Bool := store.profile = oneSecondStore.profile

/-- The first request cannot write its first record, and comes to `submit_payload` with the lock. -/
def unrecordedMoves : List (Move (deployment true opensSameProfile)) :=
  .run 0 { sampleOracle 1700000000000 (.ok sampleResult) with fault := some (.io "disk full") } ::
    deploymentMoves 0 3 1700000000000 (.ok sampleResult)

/-- Another process opens the file for the same profile while the request holds the lock. -/
def reopenedMoves : List (Move (deployment true opensSameProfile)) :=
  .tick (M := deployment true opensSameProfile) (.reconcile oneSecondStore) ::
    deploymentMoves 0 7 1700000000000 (.ok sampleResult)

/-- The seeded nonce of the request is passed: it was submitted in order. -/
theorem nonceSafety_reopened : ∃ c c',
    Deployment true opensSameProfile sampleExternals sampleCalls openedWorld c ∧
      Leads (deployment true opensSameProfile) c c' ∧
      nextExpectedNonce c.world.db sampleSender = some 0 ∧
      nextExpectedNonce c'.world.db sampleSender = some 1 ∧
      SubmittedInOrder sampleExternals sampleCalls c'.history sampleSender 0 := by
  have hplay : ((Conf.start (fun i => (sampleCalls i).program sampleExternals) openedWorld).play _
      unrecordedMoves).any (fun c => decide (nextExpectedNonce c.world.db sampleSender = some 0) &&
        (c.play _ reopenedMoves).any fun c' =>
          decide (nextExpectedNonce c'.world.db sampleSender = some 1)) = true := by decide +kernel
  obtain ⟨c, c', hc, hlead, hP, hQ⟩ := exists_leads_of_any hplay
  have hseeded := of_decide_eq_true hP
  have hpassed := of_decide_eq_true hQ
  have hadvanced := (nonceSafety (records_reconcile oneSecondStore Db.empty)
    (fun store hopens => of_decide_eq_true hopens) hc).1 c' hlead sampleSender
  rw [hseeded, hpassed] at hadvanced
  exact ⟨c, c', hc, hlead, hseeded, hpassed, hadvanced.between.2 0 (UInt64.le_refl 0) (by decide)⟩

end FoundryIgra
