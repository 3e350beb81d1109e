import FoundryIgra.Concurrency.Completion
import FoundryIgra.Transport.Composition
import FoundryIgra.Transport.Deployment

/-!
# Requests do a bounded amount of work

A request makes at most twelve calls besides the rounds in which its acquisition found the sender
lock taken or the database busy, and each such round is made before the deadline that the request
set when it started to acquire (`transport.rs`, the async body; `store.rs`,
`acquire_sender_lock_and_classify_nonce`).

A round reads the clock and checks its deadline before it touches the database, so no failure of the
database is met past the deadline. The machine of a deployment allows that too; here it does not.

## Main definitions

* `Late`, `punctual`: the machine in which a round checks its deadline first.
* `HasDeadline`: a poll has a deadline that its request set.

## Main results

* `within_request`: the calls of a request.
* `boundedWork`: the calls and the rounds of every request, in every run.
-/

namespace FoundryIgra

open Rust Store Concurrency

/-! ### The calls of a request -/

section Within

theorem within_call (op : TransportOp) : (call op).Within 1 :=
  Program.within_perform (I := TransportOps) op

theorem within_persist (t : TrackedSend) (state : TxLifecycleState) (payloadNonce : Option UInt64)
    (txId code message : Option String) (increment : Bool) :
    (persistTransitionSafe t state payloadNonce txId code message increment).Within 1 :=
  Program.within_bind (Nat.le_refl (1 + 0)) (within_call _) fun _ => Program.within_pure () 0

theorem within_forTracked {tracked : Option TrackedSend} {f : TrackedSend → Request Unit} {n : ℕ}
    (h : ∀ t, (f t).Within n) : (forTracked tracked f).Within n := by
  cases tracked with
  | none => exact Program.within_pure () n
  | some t => exact h t

theorem within_acquire (t : TrackedSend) : (acquire t).Within 2 := by
  refine Program.within_bind (Nat.le_refl (1 + 1)) (within_call _) fun a => ?_
  cases a with
  | error err => exact Program.within_pure _ 1
  | ok now => exact within_call _

/-- The records that an observation makes. -/
def observationCalls : ReplacementObservation → ℕ
  | none => 0
  | some _ => 1

theorem within_recordObservation (t : TrackedSend) (observation : ReplacementObservation) :
    (recordObservation t observation).Within (observationCalls observation) := by
  cases observation with
  | none => exact Program.within_pure () 0
  | some o => exact within_persist ..

theorem within_recordSubmission (t : TrackedSend) (inOrderSubmit : Bool)
    (observation : ReplacementObservation) (result : IgraSubmitResult) :
    (recordSubmission t inOrderSubmit observation result).Within (3 + inOrderSubmit.toNat) := by
  have hmark : (if inOrderSubmit = true then do
      let _ ← call (.markSubmitted t.store t.sender t.l2Nonce)
      pure ()
    else pure () : Request Unit).Within inOrderSubmit.toNat := by
    cases inOrderSubmit with
    | false => exact Program.within_pure () 0
    | true =>
      exact Program.within_bind (Nat.le_refl (1 + 0)) (within_call _)
        fun _ => Program.within_pure () 0
  exact Program.within_bind (by omega) (within_persist ..) fun _ =>
    Program.within_bind (Nat.le_refl (1 + _)) (within_persist ..) fun _ =>
      Program.within_bind (Nat.le_refl (1 + _)) (within_persist ..) fun _ => hmark

variable (lib : Externals) (self : IgraTransport) (rawSend : RawSendRequest)

theorem within_submit (txIdPrefix : String) (tracked : Option TrackedSend) (inOrderSubmit : Bool)
    (observation : ReplacementObservation) :
    (submit lib self rawSend txIdPrefix tracked inOrderSubmit observation).Within
      (6 + inOrderSubmit.toNat) := by
  refine Program.within_bind (by omega) (within_forTracked fun t => within_persist ..) fun _ =>
    Program.within_bind (Nat.le_refl (1 + _)) (within_call _) fun _ =>
      Program.within_bind (n := 3 + inOrderSubmit.toNat) (Nat.le_refl (1 + _)) (within_call _)
        fun a => ?_
  cases a with
  | error err => exact Program.within_pure _ _
  | ok result =>
    exact Program.within_bind (Nat.le_refl (_ + 0))
      (within_forTracked fun t => within_recordSubmission ..) fun _ => Program.within_pure _ 0

theorem within_sendRawTransaction (tracked : Option TrackedSend) :
    (sendRawTransaction lib self rawSend tracked).Within 10 := by
  rw [sendRawTransaction]
  cases self.txIdPrefix with
  | none => exact Program.within_pure _ 10
  | some txIdPrefix =>
    cases tracked with
    | none =>
      exact Program.within_bind (n := 0) (by simp) (within_submit ..)
        fun _ => Program.within_pure _ 0
    | some t =>
      refine Program.within_bind (n := 9) (Nat.le_refl (1 + _)) (within_persist ..) fun _ =>
        Program.within_bind (n := 7) (Nat.le_refl (2 + _)) (within_acquire t) fun a => ?_
      cases a with
      | ok ordering =>
        -- a stale nonce may be observed, a nonce in order is advanced past
        cases ordering with
        | inOrder expected =>
          exact Program.within_bind (Nat.le_refl (0 + 7)) (within_recordObservation t none)
            fun _ => Program.within_bind (Nat.le_refl (7 + 0)) (within_submit ..)
              fun _ => Program.within_pure _ 0
        | stale expected candidate =>
          refine Program.within_bind (n := 6) ?_ (within_recordObservation ..)
            fun _ => Program.within_bind (Nat.le_refl (6 + 0)) (within_submit ..)
              fun _ => Program.within_pure _ 0
          cases candidate <;> simp [replacementObservation, observationCalls]
      | error err =>
        cases err with
        | lockTimeout sender =>
          exact Program.within_bind (n := 0) (by omega) (within_persist ..)
            fun _ => Program.within_pure _ 0
        | blockedNonceGap expected got =>
          exact Program.within_bind (n := 0) (by omega) (within_persist ..)
            fun _ => Program.within_pure _ 0
        | nonceOverflow sender nonce =>
          exact Program.within_bind (n := 0) (by simp) (within_submit ..)
            fun _ => Program.within_pure _ 0
        | sqlite err =>
          exact Program.within_bind (n := 0) (by simp) (within_submit ..)
            fun _ => Program.within_pure _ 0
        | io text =>
          exact Program.within_bind (n := 0) (by simp) (within_submit ..)
            fun _ => Program.within_pure _ 0

theorem within_finish (tracked : Option TrackedSend)
    (outcome : Bool × Except TransportError ResponsePacket) :
    (finish tracked outcome).Within 2 := by
  have hrelease : ∀ t : TrackedSend, (if outcome.1 = true then do
      let _ ← call (.release t.store t.sender t.lockOwnerId)
      pure ()
    else pure () : Request Unit).Within 1 := fun t => by
    split_ifs
    · exact Program.within_bind (Nat.le_refl (1 + 0)) (within_call _)
        fun _ => Program.within_pure () 0
    · exact Program.within_pure () 1
  refine Program.within_bind (Nat.le_refl (2 + 0)) (within_forTracked fun t => ?_)
    fun _ => Program.within_pure _ 0
  cases outcome.2 with
  | ok packet => exact (hrelease t).mono (by omega)
  | error errText =>
    exact Program.within_bind (Nat.le_refl (1 + 1)) (within_persist ..) fun _ => hrelease t

/-- **The calls of a request**, whatever is answered. -/
theorem within_request (stamp : RequestStamp) (packet : RequestPacket) :
    (self.request lib stamp packet).Within 12 := by
  rw [IgraTransport.request]
  cases self.route lib packet with
  | forward packet => exact (within_call _).mono (by omega)
  | reject reason => exact Program.within_pure _ 12
  | send rawSend =>
    exact Program.within_bind (Nat.le_refl (10 + 2)) (within_sendRawTransaction ..)
      fun _ => within_finish ..

end Within

/-! ### The deadline of a request -/

/-- A poll is for the tracked send, with the deadline set at a reading of the same request. -/
def HasDeadline (tracked : Option TrackedSend) (made : TransportOps.Event → Prop) :
    TransportOp → Prop
  | .pollLock t deadlineMs => tracked = some t ∧ ∃ store start,
      made ⟨.startAcquire store, .ok start⟩ ∧ deadlineMs = saturatingAdd start t.store.timeoutMs
  | _ => True

section Timed

variable {tracked : Option TrackedSend} {es : List TransportOps.Event}

theorem monotone_hasDeadline : Monotone (HasDeadline tracked : Assertion TransportOps) := by
  intro made made' hmade op h
  cases op with
  | pollLock t deadlineMs =>
    obtain ⟨ht, store, start, hstart, hdeadline⟩ := h
    exact ⟨ht, store, start, hmade _ hstart, hdeadline⟩
  | _ => trivial

/-- The one poll of a request. -/
theorem timed_acquire {t : TrackedSend} (ht : tracked = some t) :
    Asserts (HasDeadline tracked) (fun _ _ => True) (acquire t) es := by
  refine asserts_call trivial fun a b hb => ?_
  obtain rfl : a = b := Option.some.inj hb
  cases a with
  | error err => exact asserts_pure trivial
  | ok now =>
    exact asserts_transportCall (.pollLock ..) ⟨ht, t.store, now, List.mem_cons_self, rfl⟩

theorem timed_recordSubmission (t : TrackedSend) (inOrderSubmit : Bool)
    (observation : ReplacementObservation) (result : IgraSubmitResult) :
    Asserts (HasDeadline tracked) (fun _ _ => True)
      (recordSubmission t inOrderSubmit observation result) es := by
  refine (asserts_persist trivial).bind fun _ _ _ _ => (asserts_persist trivial).bind
    fun _ _ _ _ => (asserts_persist trivial).bind fun _ _ _ _ => ?_
  cases inOrderSubmit with
  | false => exact asserts_pure trivial
  | true =>
    exact (asserts_transportCall (.markSubmitted ..) trivial).bind
      fun _ _ _ _ => asserts_pure trivial

variable (lib : Externals) (self : IgraTransport) (rawSend : RawSendRequest)

theorem timed_submit (txIdPrefix : String) (o : Option TrackedSend) (inOrderSubmit : Bool)
    (observation : ReplacementObservation) : Asserts (HasDeadline tracked) (fun _ _ => True)
      (submit lib self rawSend txIdPrefix o inOrderSubmit observation) es := by
  refine (asserts_forTracked fun t => asserts_persist trivial).bind fun _ _ _ _ =>
    (asserts_transportCall (.enterSubmit _) trivial).bind fun _ _ _ _ =>
      (asserts_transportCall (.leaveSubmit _) trivial).bind fun a _ _ _ => ?_
  cases a with
  | error err => exact asserts_pure trivial
  | ok result =>
    exact (asserts_forTracked fun t => timed_recordSubmission ..).bind
      fun _ _ _ _ => asserts_pure trivial

/-- The polls of every request have the deadline of the request. -/
theorem timed_request (stamp : RequestStamp) (packet : RequestPacket) :
    Asserts (HasDeadline (self.tracked lib stamp packet)) (fun _ _ => True)
      (self.request lib stamp packet) es := by
  have hparts : HoldsOfParts lib self (self.tracked lib stamp packet) (fun p => ∀ es,
      Asserts (HasDeadline (self.tracked lib stamp packet)) (fun _ _ => True) p es) :=
    { composes_asserts with
      innerCall := fun _ _ => asserts_transportCall (.innerCall _) trivial
      record := fun _ _ _ _ _ _ => asserts_persist trivial
      acquire := fun _ ht _ => timed_acquire ht
      submit := fun _ _ _ _ _ _ => timed_submit ..
      release := fun _ _ => asserts_transportCall (.release ..) trivial }
  exact hparts.request es

end Timed

/-! ### Runs -/

/-- A failure of the database past the deadline of a round. -/
def Late (o : Oracle) : TransportOp → Bool
  | .pollLock _ deadlineMs => o.fault.isSome && decide (deadlineMs ≤ o.now)
  | _ => false

/-- The machine of a deployment in which a round checks its deadline before it touches the
database. -/
def punctual (mayFail : Bool) (opens : IgraStore → Bool) : Machine TransportOps World :=
  { deployment mayFail opens with
    answer := fun o i w op => if Late o op then none else (machine mayFail).answer o i w op }

/-- The event is a round of the acquisition of `t`, made before the deadline that was set at a
reading of the same request. -/
def WaitsInTime (tracked : Option TrackedSend) (own : List TransportOps.Event)
    (e : TransportOps.Event) : Prop :=
  ∃ (t : TrackedSend) (store : IgraStore) (start deadlineMs : UInt64) (a : PollAnswer),
    tracked = some t ∧ (⟨.startAcquire store, .ok start⟩ : TransportOps.Event) ∈ own ∧
      deadlineMs = saturatingAdd start t.store.timeoutMs ∧ e = ⟨.pollLock t deadlineMs, a⟩ ∧
        a.now < deadlineMs

/-- A round that is repeated was made in time. -/
theorem now_lt_of_repeated {mayFail : Bool} {opens : IgraStore → Bool} {o : Oracle} {i : ℕ}
    {w w' : World} {t : TrackedSend} {deadlineMs : UInt64} {a : PollAnswer}
    (h : (punctual mayFail opens).answer o i w (.pollLock t deadlineMs) = some (a, w'))
    (hexit : a.exit = none) : a.now < deadlineMs := by
  simp only [punctual] at h
  split_ifs at h with hlate
  simp only [machine] at h
  split_ifs at h
  refine UInt64.not_le.mp fun hle => ?_
  cases hf : o.fault with
  | some err =>
    simp only [hf] at h
    split_ifs at h
    obtain ⟨rfl, -⟩ := Prod.mk.inj (Option.some_inj.mp h)
    have hpast : deadlineMs ≤ o.now := hle
    simp [Late, hf, hpast] at hlate
  | none =>
    simp only [hf] at h
    obtain ⟨rfl, -⟩ := Prod.mk.inj (Option.some_inj.mp h)
    have hpast : deadlineMs ≤ o.now := hle
    have hresult : (serve o w.db (.pollLock t deadlineMs)).1 =
        ⟨o.now, .error (.lockTimeout t.sender)⟩ := by
      simp only [serve, pollSenderLockAndClassifyNonce, if_pos hpast]
      rfl
    rw [hresult] at hexit
    cases hexit

section Runs

variable {mayFail : Bool} {opens : IgraStore → Bool} {lib : Externals} {calls : ℕ → RequestCall}
  {w : World} {c : SessionConf}

theorem WaitsInTime.mono {tracked : Option TrackedSend} {es es' : List TransportOps.Event}
    {e : TransportOps.Event} (h : WaitsInTime tracked es e) (hes : es ⊆ es') :
    WaitsInTime tracked es' e := by
  obtain ⟨t, store, start, deadlineMs, a, ht, hstart, hrest⟩ := h
  exact ⟨t, store, start, deadlineMs, a, ht, hes hstart, hrest⟩

/-- **Requests do a bounded amount of work.** In every run each request makes at most twelve calls
besides the rounds it repeats, and each of these was made before its deadline. -/
theorem boundedWork
    (h : Reachable (punctual mayFail opens) (fun i => (calls i).program lib) w c) (i : ℕ) :
    (c.own i).countP TransportOps.concludes ≤ 12 ∧
      ∀ e ∈ c.own i, TransportOps.concludes e = false →
        WaitsInTime ((calls i).tracked lib) (c.own i) e := by
  constructor
  · obtain ⟨m, hm, -⟩ := (h.trace i).within
      (within_request lib (calls i).transport (calls i).stamp (calls i).packet)
    omega
  refine h.invariant (P := fun c => ∀ e ∈ c.own i, TransportOps.concludes e = false →
    WaitsInTime ((calls i).tracked lib) (c.own i) e) (fun e he => by cases he)
    fun d d' m hd ih hm => ?_
  rcases Conf.move_cases hm with ⟨t, w', -, rfl⟩ | ⟨j, o, op, k, a, w', hj, ha, rfl⟩
  · exact ih
  by_cases hji : j = i
  swap
  · rw [Conf.own_attempt_of_ne d hji]
    exact ih
  subst hji
  rw [Conf.own_attempt_self]
  intro e he hrepeated
  refine WaitsInTime.mono ?_ (List.subset_cons_self _ _)
  rcases List.mem_cons.mp he with rfl | he
  swap
  · exact ih e he hrepeated
  -- the answered call polls: it has the deadline of the request
  have hpending : HasDeadline ((calls j).tracked lib) (· ∈ d.own j) op :=
    Reachable.asserted monotone_hasDeadline hd
      (timed_request lib (calls j).transport (calls j).stamp (calls j).packet) (by rw [hj]; rfl)
  have hexit : TransportOps.exit op a = none :=
    Option.isNone_iff_eq_none.mp (Option.isSome_eq_false_iff.mp hrepeated)
  cases op with
  | pollLock t deadlineMs =>
    obtain ⟨ht, store, start, hstart, hdeadline⟩ := hpending
    exact ⟨t, store, start, deadlineMs, a, ht, hstart, hdeadline, rfl,
      now_lt_of_repeated ha hexit⟩
  | _ => cases hexit

end Runs

/-! ### A request that waits until its deadline -/

section Sample

/-- The schedule: the first request takes the lock; the second finds it taken, then the database
busy, and is refused at its deadline. -/
def waitingMoves : List (Move (punctual true fun _ => false)) :=
  List.replicate 3 (.run 0 (sampleOracle 1700000000000 (.ok sampleResult))) ++
    List.replicate 3 (.run 1 (sampleOracle 1700000000000 (.ok sampleResult))) ++
    [.run 1 { sampleOracle 1700000000000 (.ok sampleResult) with
      fault := some (.sqlite (.sqliteFailure .databaseBusy "database is locked")) },
    .tick (.clock 1700000001000)] ++
    List.replicate 3 (.run 1 (sampleOracle 1700000001000 (.ok sampleResult)))

/-- The second request makes five calls besides the two rounds that it repeats. -/
theorem boundedWork_waiting : ∃ c : SessionConf,
    Reachable (punctual true fun _ => false) (fun i => (sampleCalls i).program sampleExternals)
        sampleWorld c ∧
      (c.own 1).length = 7 ∧ (c.own 1).countP TransportOps.concludes = 5 ∧
      ∀ e ∈ c.own 1, TransportOps.concludes e = false →
        WaitsInTime ((sampleCalls 1).tracked sampleExternals) (c.own 1) e := by
  have hplay : ((Conf.start (fun i => (sampleCalls i).program sampleExternals)
      sampleWorld).play _ waitingMoves).any (fun c =>
        decide ((c.own 1).length = 7 ∧ (c.own 1).countP TransportOps.concludes = 5)) = true := by
    decide +kernel
  obtain ⟨c, hc, hP⟩ := (Option.any_eq_true ..).mp hplay
  obtain ⟨hlength, hcount⟩ := of_decide_eq_true hP
  have h : Reachable (punctual true fun _ => false)
      (fun i => (sampleCalls i).program sampleExternals) sampleWorld c := ⟨waitingMoves, hc⟩
  exact ⟨c, h, hlength, hcount, (boundedWork h 1).2⟩

end Sample

end FoundryIgra
