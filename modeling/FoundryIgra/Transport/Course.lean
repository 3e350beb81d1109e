import FoundryIgra.Transport.Calls
import FoundryIgra.Transport.Progress

/-!
# The course of a request

What a tracked request does whatever the store answers: failures are admitted at every call. The
lifecycle records that it writes follow one another in a fixed order, and each carries exactly the
columns of its state. It submits after a grant or after an acquisition that failed with another
error than a timeout or a nonce gap; it advances the expected nonce only after a grant in order and
a result of the submitter.

## Main definitions

* `nextStates`, `Coherent`, `RecordOf`: the order of the records, and what they carry.
* `Course`: the progress of a request with the state of its last record.
* `CoursePending`: what holds at each call of a tracked request.

## Main results

* `always_request`: every tracked request meets `CoursePending`, whatever is answered.
-/

namespace FoundryIgra

open Rust Store Concurrency

/-! ### Records -/

/-- The states that a request may record next, by the state it recorded last. -/
def nextStates : Option TxLifecycleState → List TxLifecycleState
  | none => [.receivedRawL2, .failedRecoverable]
  | some .receivedRawL2 =>
    [.blockedLockTimeout, .blockedNonceGap, .staleReplacementCandidate, .kaspaUnsignedCreated]
  | some .blockedLockTimeout => [.failedRecoverable]
  | some .blockedNonceGap => [.failedRecoverable]
  | some .staleReplacementCandidate => [.kaspaUnsignedCreated]
  | some .kaspaUnsignedCreated => [.kaspaPrefixMined, .failedRecoverable]
  | some .kaspaPrefixMined => [.kaspaSigned]
  | some .kaspaSigned => [.kaspaBroadcasted]
  | some .kaspaBroadcasted => [.failedRecoverable]
  | some .failedRecoverable => []

/-- The states whose records carry a payload nonce. -/
def minedStates : List TxLifecycleState := [.kaspaPrefixMined, .kaspaSigned, .kaspaBroadcasted]

/-- The error codes that a record of a state may carry. -/
def errorCodes : TxLifecycleState → List (Option String)
  | .receivedRawL2 => [none]
  | .blockedNonceGap => [some igraNonceGapErrorCode]
  | .blockedLockTimeout => [some igraNonceLockTimeoutErrorCode]
  | .staleReplacementCandidate => [some igraNonceReplacementCandidateErrorCode]
  | .failedRecoverable => [none, some igraMiningTimeoutErrorCode]
  | _ => [none, some igraNonceReplacementCandidateErrorCode]

/-- The columns of a record go with its state. -/
structure Coherent (state : TxLifecycleState) (payloadNonce : Option UInt64)
    (kaspaTxId code message : Option String) : Prop where
  mined : payloadNonce.isSome = true ↔ state ∈ minedStates
  broadcasted : kaspaTxId.isSome = true ↔ state = .kaspaBroadcasted
  errorCode : code ∈ errorCodes state
  errorMessage : message.isSome = true ↔ code.isSome = true ∨ state = .failedRecoverable

/-- The update is a record of the tracked send. -/
structure RecordOf (tracked : TrackedSend) (u : TxLifecycleUpdate) : Prop where
  l2TxHash : u.l2TxHash = tracked.l2TxHash
  sender : u.sender = tracked.sender
  l2Nonce : u.l2Nonce = tracked.l2Nonce
  correlationId : u.correlationId = tracked.correlationId
  coherent : Coherent u.state u.payloadNonce u.kaspaTxId u.lastErrorCode u.lastErrorMessage
  incrementAttempts : u.incrementAttempts = true ↔ u.state = .failedRecoverable

variable {tracked : TrackedSend}

theorem recordOf_update {state : TxLifecycleState} {payloadNonce : Option UInt64}
    {kaspaTxId code message : Option String} {increment : Bool}
    (h : Coherent state payloadNonce kaspaTxId code message)
    (hincrement : increment = true ↔ state = .failedRecoverable) :
    RecordOf tracked (tracked.update state payloadNonce kaspaTxId code message increment) :=
  ⟨rfl, rfl, rfl, rfl, h, hincrement⟩

theorem coherent_received : Coherent .receivedRawL2 none none none none := by
  refine ⟨?_, ?_, List.mem_singleton.mpr rfl, ?_⟩ <;> simp [minedStates]

theorem coherent_lockTimeout (sender : String) : Coherent .blockedLockTimeout none none
    (IgraStoreError.lockTimeout sender).code (some (IgraStoreError.lockTimeout sender).toText) := by
  refine ⟨?_, ?_, List.mem_singleton.mpr rfl, ?_⟩ <;> simp [minedStates, IgraStoreError.code]

theorem coherent_nonceGap (message : String) :
    Coherent .blockedNonceGap none none (some igraNonceGapErrorCode) (some message) := by
  refine ⟨?_, ?_, List.mem_singleton.mpr rfl, ?_⟩ <;> simp [minedStates]

theorem coherent_failed (errText : String) :
    Coherent .failedRecoverable none none (failureCode errText) (some errText) := by
  refine ⟨by simp [minedStates], by simp, ?_, by simp⟩
  rw [failureCode]
  split_ifs <;> simp [errorCodes]

/-- The code and the message of a replacement observation. -/
def Observed (observation : ReplacementObservation) : Prop :=
  ∀ code message, observation = some (code, message) →
    code = igraNonceReplacementCandidateErrorCode

theorem observed_none : Observed none := nofun

theorem observed_replacementObservation (ordering : NonceOrdering) :
    Observed (replacementObservation tracked ordering) := by
  intro code message h
  match ordering with
  | .inOrder _ => cases h
  | .stale _ false => cases h
  | .stale _ true =>
    obtain ⟨rfl, -⟩ := Prod.mk.inj (Option.some_inj.mp h)
    rfl

theorem coherent_stale (message : String) : Coherent .staleReplacementCandidate none none
    (some igraNonceReplacementCandidateErrorCode) (some message) := by
  refine ⟨?_, ?_, List.mem_singleton.mpr rfl, ?_⟩ <;> simp [minedStates]

/-- The states from the unsigned record to the broadcast. -/
def submittingStates : List TxLifecycleState :=
  [.kaspaUnsignedCreated, .kaspaPrefixMined, .kaspaSigned, .kaspaBroadcasted]

theorem coherent_submitting {observation : ReplacementObservation} (ho : Observed observation)
    {state : TxLifecycleState} (hstate : state ∈ submittingStates) {payloadNonce : Option UInt64}
    {kaspaTxId : Option String} (hnonce : payloadNonce.isSome = true ↔ state ∈ minedStates)
    (hid : kaspaTxId.isSome = true ↔ state = .kaspaBroadcasted) :
    Coherent state payloadNonce kaspaTxId (observation.map Prod.fst)
      (observation.map Prod.snd) := by
  have hcodes : errorCodes state = [none, some igraNonceReplacementCandidateErrorCode] := by
    simp only [submittingStates, List.mem_cons, List.not_mem_nil, or_false] at hstate
    rcases hstate with rfl | rfl | rfl | rfl <;> rfl
  have hne : state ≠ .failedRecoverable := by
    rintro rfl
    simp [submittingStates] at hstate
  refine ⟨hnonce, hid, ?_, by simp [hne]⟩
  rw [hcodes]
  match observation with
  | none => simp
  | some (code, message) => simp [ho code message rfl]

/-! ### The ghost value -/

/-- The progress of a request, with the state of the last record it tried to write and whether it
tried to advance the expected nonce. -/
structure Course where
  progress : Progress
  recorded : Option TxLifecycleState
  marked : Bool

namespace Course

/-- Nothing was done yet. -/
def start : Course := ⟨.start, none, false⟩

/-- The state of the last record after a call. -/
def recordedAfter (g : Course) : TransportOp → Option TxLifecycleState
  | .persist _ u => some u.state
  | _ => g.recorded

/-- Whether the expected nonce was to be advanced, after a call. -/
def markedAfter (g : Course) : TransportOp → Bool
  | .markSubmitted _ _ _ => true
  | _ => g.marked

/-- After an answered call. -/
def step (g : Course) (e : TransportOps.Event) : Course :=
  ⟨g.progress.after e.1 e.2, g.recordedAfter e.1, g.markedAfter e.1⟩

/-- After a record of a state, whose write may have failed. -/
def record (g : Course) (state : TxLifecycleState) (written : Option TxLifecycleUpdate) : Course :=
  { g with progress := { g.progress with lastWrite := written }, recorded := some state }

/-- A submission in order that succeeded was followed by an advance. -/
def Marked (g : Course) : Prop :=
  ∀ now e r, g.progress.grant = some (now, .inOrder e) → g.progress.answer = some (.ok r) →
    g.marked = true

end Course

/-- The acquisition failed with an error that lets the send go on without the lock. -/
def FailedOpen (g : Progress) : Prop :=
  ∃ err, g.refusal = some err ∧ (∀ sender, err ≠ .lockTimeout sender) ∧
    ∀ expected got, err ≠ .blockedNonceGap expected got

/-- What holds when a tracked request makes a call, whatever was answered before. -/
def CoursePending (tracked : TrackedSend) (g : Course) : TransportOp → Prop
  | .innerCall _ => False
  | .persist store u =>
    store = tracked.store ∧ RecordOf tracked u ∧ u.state ∈ nextStates g.recorded
  | .startAcquire store => store = tracked.store
  | .pollLock t _ => t = tracked ∧ g.progress.grant = none
  | .enterSubmit _ => (∃ p, g.progress.grant = some p) ∨ FailedOpen g.progress
  | .leaveSubmit _ => g.progress.released = false ∧ g.progress.answer = none
  | .markSubmitted store sender nonce =>
    store = tracked.store ∧ sender = tracked.sender ∧ nonce = tracked.l2Nonce ∧
      (∃ now e, g.progress.grant = some (now, .inOrder e)) ∧ ∃ r, g.progress.answer = some (.ok r)
  | .release store sender ownerId => store = tracked.store ∧ sender = tracked.sender ∧
      ownerId = tracked.lockOwnerId ∧ (∃ p, g.progress.grant = some p) ∧ g.Marked

/-- The weakest precondition of a request over its course, whatever is answered. -/
def Always {α : Type} (J : Course → TransportOp → Prop) (post : α → Course → Prop)
    (p : Request α) (g : Course) : Prop :=
  Program.wp (I := TransportOps) (fun _ => True) Course.step J post p g

section Rules

variable {α β : Type} {J : Course → TransportOp → Prop} {g : Course}

theorem always_bind {post : β → Course → Prop} {p : Request α} {f : α → Request β} :
    Always J post (p >>= f) g ↔ Always J (fun a g => Always J post (f a) g) p g :=
  Program.wp_bind ..

theorem Always.mono {post post' : α → Course → Prop} {p : Request α} (h : Always J post p g)
    (hpost : ∀ a g, post a g → post' a g) : Always J post' p g :=
  Program.wp_mono (fun _ _ h => h) hpost p g h

/-- The rule of a call that does not poll. -/
theorem always_call {op : TransportOp} {post : op.Out → Course → Prop} (hJ : J g op)
    (h : ∀ a, match TransportOps.exit op a with
      | none => g.step ⟨op, a⟩ = g
      | some b => post b (g.step ⟨op, a⟩)) : Always J post (call op) g := by
  refine ⟨hJ, fun a _ => ?_⟩
  have hstep := h a
  cases hx : TransportOps.exit op a with
  | none =>
    rw [hx] at hstep
    exact hstep
  | some b =>
    rw [hx] at hstep
    exact hstep

theorem always_forTracked_none {post : Unit → Course → Prop} {f : TrackedSend → Request Unit}
    (h : post () g) : Always J post (forTracked none f) g := h

end Rules

section Sends

variable {lib : Externals} {self : IgraTransport} {rawSend : RawSendRequest} {g : Course}

/-- The rule of a record: the state is recorded whether or not the write succeeds. -/
theorem always_persist {post : Unit → Course → Prop} {state : TxLifecycleState}
    {previous : Option TxLifecycleState} {payloadNonce : Option UInt64}
    {txId code message : Option String} {increment : Bool}
    (hcoherent : Coherent state payloadNonce txId code message)
    (hincrement : increment = true ↔ state = .failedRecoverable)
    (hg : g.recorded = previous) (hnext : state ∈ nextStates previous)
    (h : ∀ written, post () (g.record state written)) :
    Always (CoursePending tracked) post
      (persistTransitionSafe tracked state payloadNonce txId code message increment) g := by
  refine always_bind.mpr
    (always_call ⟨rfl, recordOf_update hcoherent hincrement, hg ▸ hnext⟩ fun a => ?_)
  match a with
  | .ok _ => exact h _
  | .error _ => exact h g.progress.lastWrite

theorem always_acquire {post : Except IgraStoreError NonceOrdering → Course → Prop}
    (hg : g.progress.grant = none)
    (hok : ∀ now ordering, post (.ok ordering)
      { g with progress := { g.progress with grant := some (now, ordering) } })
    (herr : ∀ err, post (.error err)
      { g with progress := { g.progress with refusal := some err } }) :
    Always (CoursePending tracked) post (acquire tracked) g := by
  refine always_bind.mpr (always_call rfl fun a => ?_)
  match a with
  | .error err => exact herr err
  | .ok start =>
    refine always_call ⟨rfl, hg⟩ fun a => ?_
    obtain ⟨now, result⟩ := a
    simp only [Course.step, Course.recordedAfter, Course.markedAfter, Progress.after,
      Progress.polled]
    cases hexit : PollAnswer.exit ⟨now, result⟩ with
    | none => rfl
    | some r =>
      cases r with
      | ok ordering => exact hok now ordering
      | error err => exact herr err

theorem always_recordObservation {observation : ReplacementObservation}
    (ho : Observed observation) {post : Unit → Course → Prop}
    (hg : g.recorded = some .receivedRawL2)
    (h : ∀ written state, .kaspaUnsignedCreated ∈ nextStates (some state) →
      post () (g.record state written)) :
    Always (CoursePending tracked) post (recordObservation tracked observation) g := by
  match observation with
  | none =>
    have hpost := h g.progress.lastWrite .receivedRawL2 (by decide)
    rw [Course.record, ← hg] at hpost
    exact hpost
  | some (code, message) =>
    obtain rfl := ho code message rfl
    exact always_persist (coherent_stale message) (by simp) hg (by decide) fun written =>
      h written .staleReplacementCandidate (by decide)

/-- The rule of the three records of a submission. -/
theorem always_recordSubmission {observation : ReplacementObservation}
    (ho : Observed observation) {inOrderSubmit : Bool} {result : IgraSubmitResult}
    {post : Unit → Course → Prop} (hg : g.recorded = some .kaspaUnsignedCreated)
    (hgrant : inOrderSubmit = true → ∃ now e, g.progress.grant = some (now, .inOrder e))
    (hanswer : g.progress.answer = some (.ok result))
    (h : ∀ written marked, (inOrderSubmit = true → marked = true) →
      post () { g.record .kaspaBroadcasted written with marked := marked }) :
    Always (CoursePending tracked) post
      (recordSubmission tracked inOrderSubmit observation result) g := by
  have hrecord : ∀ {state}, state ∈ [TxLifecycleState.kaspaPrefixMined, .kaspaSigned] →
      Coherent state (some result.payloadNonce) none (observation.map Prod.fst)
        (observation.map Prod.snd) := fun {state} hstate => by
    rcases List.mem_pair.mp hstate with rfl | rfl
    · exact coherent_submitting ho (by decide) (by simp [minedStates]) (by simp)
    · exact coherent_submitting ho (by decide) (by simp [minedStates]) (by simp)
  refine always_bind.mpr (always_persist (hrecord (by decide)) (by decide) hg
    List.mem_cons_self fun written₁ => ?_)
  refine always_bind.mpr (always_persist (hrecord (by decide)) (by decide) rfl
    List.mem_cons_self fun written₂ => ?_)
  refine always_bind.mpr (always_persist
    (coherent_submitting ho (by decide) (by simp [minedStates]) (by simp)) (by decide) rfl
    List.mem_cons_self fun written₃ => ?_)
  cases inOrderSubmit with
  | false => exact h written₃ g.marked fun hin => Bool.noConfusion hin
  | true =>
    exact always_bind.mpr (always_call ⟨rfl, rfl, rfl, hgrant rfl, result, hanswer⟩
      fun _ => h written₃ true fun _ => rfl)

/-- What holds at the end of the inner block: a success is recorded, a failure can be recorded next,
and the lock was granted when it is to be released. -/
structure Concludes (outcome : Bool × Except TransportError ResponsePacket) (g : Course) :
    Prop where
  success : ∀ packet, outcome.2 = .ok packet →
    g.recorded = some .kaspaBroadcasted ∧ ∃ r, g.progress.answer = some (.ok r)
  failure : ∀ errText, outcome.2 = .error errText → .failedRecoverable ∈ nextStates g.recorded
  acquired : outcome.1 = true → (∃ p, g.progress.grant = some p) ∧ g.Marked

theorem always_submit {txIdPrefix : String} {inOrderSubmit acquired : Bool}
    {observation : ReplacementObservation} (ho : Observed observation)
    {previous : TxLifecycleState} (hg : g.recorded = some previous)
    (hnext : .kaspaUnsignedCreated ∈ nextStates (some previous))
    (hinOrder : inOrderSubmit = true → ∃ now e, g.progress.grant = some (now, .inOrder e))
    (hmark : ∀ now e, g.progress.grant = some (now, .inOrder e) → inOrderSubmit = true)
    (hreleased : g.progress.released = false) (hanswer : g.progress.answer = none)
    (hopen : (∃ p, g.progress.grant = some p) ∨ FailedOpen g.progress)
    (hacquired : acquired = true → ∃ p, g.progress.grant = some p) :
    Always (CoursePending tracked) (fun result g => Concludes (acquired, result) g)
      (submit lib self rawSend txIdPrefix (some tracked) inOrderSubmit observation) g := by
  refine always_bind.mpr (always_persist (coherent_submitting ho (by decide)
    (by simp [minedStates]) (by simp)) (by decide) hg hnext fun written => ?_)
  refine always_bind.mpr (always_call hopen fun _ => ?_)
  refine always_bind.mpr (always_call ⟨hreleased, hanswer⟩ fun a => ?_)
  match a with
  | .error err =>
    exact ⟨nofun, fun _ _ => List.mem_cons_of_mem _ List.mem_cons_self,
      fun h => ⟨hacquired h, nofun⟩⟩
  | .ok result =>
    exact always_bind.mpr (always_recordSubmission ho rfl hinOrder rfl fun _ _ hmarked =>
      ⟨fun _ _ => ⟨rfl, result, rfl⟩, fun _ _ => List.mem_cons_self,
        fun h => ⟨hacquired h, fun now e _ hgrant _ => hmarked (hmark now e hgrant)⟩⟩)

theorem concludes_error {errText : TransportError}
    (h : .failedRecoverable ∈ nextStates g.recorded) : Concludes (false, .error errText) g := by
  refine ⟨?_, fun _ _ => h, fun hacquired => Bool.noConfusion hacquired⟩
  rintro _ ⟨⟩

/-- The inner block of a tracked request. -/
theorem always_sendRawTransaction :
    Always (CoursePending tracked) Concludes
      (sendRawTransaction lib self rawSend (some tracked)) .start := by
  rw [sendRawTransaction]
  cases self.txIdPrefix with
  | none => exact concludes_error (by decide)
  | some txIdPrefix =>
    refine always_bind.mpr (always_persist coherent_received (by decide) rfl (by decide)
      fun written => ?_)
    refine always_bind.mpr (always_acquire rfl (fun now ordering => ?_) fun err => ?_)
    · refine always_bind.mpr (always_recordObservation (observed_replacementObservation ordering)
        rfl fun written' state hstate => ?_)
      have hgrant : ∃ p, some (now, ordering) = some p := ⟨_, rfl⟩
      refine always_bind.mpr (always_submit (observed_replacementObservation ordering) rfl hstate
        ?_ ?_ rfl rfl (Or.inl hgrant) fun _ => hgrant)
      · cases ordering with
        | inOrder e => exact fun _ => ⟨now, e, rfl⟩
        | stale e candidate => exact fun h => Bool.noConfusion h
      · intro now' e hg
        obtain ⟨-, rfl⟩ := Prod.mk.inj (Option.some_inj.mp hg)
        rfl
    · have hsubmit : (∀ sender, err ≠ .lockTimeout sender) →
          (∀ expected got, err ≠ .blockedNonceGap expected got) →
          Always (CoursePending tracked) Concludes (do
            let result ← submit lib self rawSend txIdPrefix (some tracked) false none
            pure (false, result))
            { Course.start.record .receivedRawL2 written with
              progress := { (Course.start.record .receivedRawL2 written).progress with
                refusal := some err } } := fun htimeout hgap => by
        refine always_bind.mpr (always_submit observed_none rfl (by decide) ?_ ?_ rfl rfl
          (Or.inr ⟨err, rfl, htimeout, hgap⟩) ?_)
        · exact fun h => Bool.noConfusion h
        · intro _ _ hg
          cases hg
        · exact fun h => Bool.noConfusion h
      cases err with
      | lockTimeout sender =>
        exact always_bind.mpr (always_persist (coherent_lockTimeout sender) (by decide) rfl
          List.mem_cons_self fun _ => concludes_error List.mem_cons_self)
      | blockedNonceGap expected got =>
        exact always_bind.mpr (always_persist (coherent_nonceGap _) (by decide) rfl
          (List.mem_cons_of_mem _ List.mem_cons_self) fun _ =>
          concludes_error List.mem_cons_self)
      | nonceOverflow sender nonce => exact hsubmit (by simp) (by simp)
      | sqlite err => exact hsubmit (by simp) (by simp)
      | io text => exact hsubmit (by simp) (by simp)

/-- What a request records last names its result, and a success was one of the submitter. -/
structure Ends (result : Except TransportError ResponsePacket) (g : Course) : Prop where
  success : ∀ packet, result = .ok packet →
    g.recorded = some .kaspaBroadcasted ∧ ∃ r, g.progress.answer = some (.ok r)
  failure : ∀ errText, result = .error errText → g.recorded = some .failedRecoverable

theorem always_finish {outcome : Bool × Except TransportError ResponsePacket}
    (h : Concludes outcome g) :
    Always (CoursePending tracked) Ends (finish (some tracked) outcome) g := by
  have hrelease : ∀ g : Course,
      (outcome.1 = true → (∃ p, g.progress.grant = some p) ∧ g.Marked) →
      Always (CoursePending tracked)
        (fun _ g' => g'.recorded = g.recorded ∧ g'.progress.answer = g.progress.answer)
        (if outcome.1 = true then do
          let _ ← call (.release tracked.store tracked.sender tracked.lockOwnerId)
          pure ()
        else pure ()) g := fun g hg => by
    split_ifs with hacquired
    · exact always_bind.mpr (always_call ⟨rfl, rfl, rfl, hg hacquired⟩ fun _ => ⟨rfl, rfl⟩)
    · exact ⟨rfl, rfl⟩
  obtain ⟨acquired, result⟩ := outcome
  refine always_bind.mpr ?_
  cases result with
  | ok packet =>
    refine (hrelease g h.acquired).mono fun _ _ hg => ⟨fun _ _ => ?_, nofun⟩
    obtain ⟨hrecorded, r, hanswer⟩ := h.success packet rfl
    exact ⟨hg.1.trans hrecorded, r, hg.2.trans hanswer⟩
  | error errText =>
    exact always_bind.mpr (always_persist (coherent_failed errText) (by decide) rfl
      (h.failure errText rfl) fun written =>
        (hrelease (g.record .failedRecoverable written) h.acquired).mono fun _ _ hg =>
          ⟨nofun, fun _ _ => hg.1⟩)

/-- **Requests.** Whatever is answered, a tracked request meets `CoursePending` at its calls, and
its last record names its result. -/
theorem always_request {stamp : RequestStamp} {packet : RequestPacket}
    (h : self.tracked lib stamp packet = some tracked) :
    Always (CoursePending tracked) Ends (self.request lib stamp packet) .start := by
  rw [IgraTransport.tracked] at h
  rw [IgraTransport.request]
  cases hroute : self.route lib packet with
  | forward packet => simp [hroute] at h
  | reject reason => simp [hroute] at h
  | send rawSend =>
    simp only [hroute] at h
    simp only [h]
    exact always_bind.mpr (always_sendRawTransaction.mono fun _ _ => always_finish)

/-! ### Requests that are not tracked -/

/-- The calls that do not touch a store. -/
def CourseLeaves (g : Course) (op : TransportOp) : Prop := LeavesStore g.progress op

theorem always_submit_untracked {txIdPrefix : String} :
    Always CourseLeaves
      (fun result g => ∀ packet, result = .ok packet → ∃ r, g.progress.answer = some (.ok r))
      (submit lib self rawSend txIdPrefix none false none) g := by
  refine always_bind.mpr (always_forTracked_none ?_)
  refine always_bind.mpr (always_call trivial fun _ => ?_)
  refine always_bind.mpr (always_call trivial fun a => ?_)
  match a with
  | .error err => rintro _ ⟨⟩
  | .ok result => exact fun _ _ => ⟨result, rfl⟩

/-- A success of a raw send was one of the submitter. -/
def SubmittedIfSent (lib : Externals) (self : IgraTransport) (packet : RequestPacket)
    (result : Except TransportError ResponsePacket) (g : Course) : Prop :=
  ∀ rawSend, self.route lib packet = .send rawSend → ∀ packet', result = .ok packet' →
    ∃ r, g.progress.answer = some (.ok r)

/-- A request that is not tracked leaves the store alone, whatever is answered. -/
theorem always_request_untracked {stamp : RequestStamp} {packet : RequestPacket}
    (h : self.tracked lib stamp packet = none) :
    Always CourseLeaves (SubmittedIfSent lib self packet)
      (self.request lib stamp packet) .start := by
  rw [IgraTransport.tracked] at h
  rw [IgraTransport.request]
  cases hroute : self.route lib packet with
  | forward packet' =>
    refine always_call ?_ fun _ rawSend hsend => ?_
    · trivial
    · rw [hroute] at hsend
      cases hsend
  | reject reason =>
    rintro rawSend hsend
    rw [hroute] at hsend
    cases hsend
  | send rawSend =>
    simp only [hroute] at h
    simp only [h]
    refine always_bind.mpr ?_
    rw [sendRawTransaction]
    cases self.txIdPrefix with
    | none => rintro _ _ _ ⟨⟩
    | some txIdPrefix =>
      exact always_bind.mpr (always_submit_untracked.mono fun _ _ hsubmitted _ _ => hsubmitted)

/-- What holds at a call of any request, whatever was answered before. -/
def CourseInvariant (tracked : Option TrackedSend) (g : Course) (op : TransportOp) : Prop :=
  match tracked with
  | some tracked => CoursePending tracked g op
  | none => CourseLeaves g op

/-- What holds when any request returns. -/
def CourseEnds (tracked : Option TrackedSend) (result : Except TransportError ResponsePacket)
    (g : Course) : Prop :=
  ∀ t, tracked = some t → Ends result g

theorem always_request_any (stamp : RequestStamp) (packet : RequestPacket) :
    Always (CourseInvariant (self.tracked lib stamp packet))
      (CourseEnds (self.tracked lib stamp packet)) (self.request lib stamp packet) .start := by
  cases h : self.tracked lib stamp packet with
  | none => exact (always_request_untracked h).mono fun _ _ _ => nofun
  | some tracked => exact (always_request h).mono fun _ _ hends _ _ => hends

/-- A raw send succeeds only when its submission did. -/
theorem always_request_submitted (stamp : RequestStamp) (packet : RequestPacket) :
    Always (CourseInvariant (self.tracked lib stamp packet)) (SubmittedIfSent lib self packet)
      (self.request lib stamp packet) .start := by
  cases h : self.tracked lib stamp packet with
  | none => exact always_request_untracked h
  | some tracked =>
    exact (always_request h).mono fun _ _ hends _ _ packet' hok => (hends.success packet' hok).2

end Sends

end FoundryIgra
