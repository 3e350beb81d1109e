import FoundryIgra.Concurrency.Erasure
import FoundryIgra.Transport.Session

/-!
# Tracking is transparent

A transport with a store makes the calls of the same transport without one, and store calls in
between (`transport.rs`, `tracked_send`, `persist_transition_safe`). Whatever the store calls are
answered, failures included, the other calls and the result are those of the untracked send, unless
the step that acquires the sender lock and classifies the nonce ends in `LockTimeout` or
`BlockedNonceGap`: then no other call is made, and that error is returned.

## Main definitions

* `TransportOp.isStoreCall`, `storeErasure`: the calls that an untracked send does not make.
* `IgraTransport.withoutStore`: the same transport without a store.
* `CombinedStepEnds`: how the acquisition of a run ended.

## Main results

* `hides_request`: the untracked request is the request without its store calls.
* `tracking_transparent`: what this says of every run.
-/

namespace FoundryIgra

open Rust Store Concurrency

/-- The calls of a store. -/
def TransportOp.isStoreCall : TransportOp → Bool
  | innerCall _ => false
  | enterSubmit _ => false
  | leaveSubmit _ => false
  | _ => true

/-- The errors that end a send before it is submitted. -/
def Store.IgraStoreError.isBlocking : IgraStoreError → Bool
  | lockTimeout _ => true
  | blockedNonceGap _ _ => true
  | _ => false

/-- The blocking error that an outcome of the combined step is. -/
def blockingError {α : Type} : Except IgraStoreError α → Option IgraStoreError
  | .error err => if err.isBlocking then some err else none
  | .ok _ => none

/-- The blocking error that a call ended in. -/
def TransportOp.blockingError : (op : TransportOp) → op.Out → Option IgraStoreError
  | .startAcquire _, b => FoundryIgra.blockingError b
  | .pollLock _ _, b => FoundryIgra.blockingError b
  | _, _ => none

/-- Store calls are hidden; a combined step that ends in a blocking error stops the send. -/
def storeErasure : Erasure TransportOps IgraStoreError where
  hidden := TransportOp.isStoreCall
  stop := TransportOp.blockingError
  stop_kept op b h := by
    cases op with
    | startAcquire store => cases h
    | pollLock tracked deadlineMs => cases h
    | _ => rfl

/-- The same transport without a store. -/
def IgraTransport.withoutStore (self : IgraTransport) : IgraTransport := { self with store := none }

/-- The combined step of a run ended in a blocking error. -/
def CombinedStepEnds (err : IgraStoreError) (es : List TransportOps.Event) : Prop :=
  ∃ x ∈ es, storeErasure.StopsWith err x

theorem blockingError_eq_some {α : Type} {r : Except IgraStoreError α} {err : IgraStoreError} :
    blockingError r = some err ↔ r = .error err ∧ err.isBlocking = true := by
  cases r with
  | ok a => simp [blockingError]
  | error err' =>
    simp only [blockingError, Except.error.injEq]
    split_ifs with h
    · rw [Option.some_inj]
      exact ⟨fun heq => ⟨heq, heq ▸ h⟩, And.left⟩
    · constructor
      · intro heq
        cases heq
      · rintro ⟨rfl, h'⟩
        exact absurd h' h

section Programs

variable {lib : Externals} {self : IgraTransport} {tracked : TrackedSend}

/-- A program makes store calls only, which end in no blocking error. -/
abbrev StoreOnly {α : Type} (post : α → Prop) (p : Request α) : Prop :=
  Program.Silent storeErasure post p

/-- Without its store calls a send is another send with the same result; one that is blocked
returns the error. -/
abbrev Hides {α β : Type} (post : IgraStoreError → α → Prop) (R : α → β → Prop) (fresh : Bool)
    (p : Request α) (q : Request β) : Prop :=
  Program.Erases storeErasure post R fresh p q

theorem storeOnly_persist (state : TxLifecycleState) (payloadNonce : Option UInt64)
    (kaspaTxId lastErrorCode lastErrorMessage : Option String) (incrementAttempts : Bool) :
    StoreOnly (fun _ => True) (persistTransitionSafe tracked state payloadNonce kaspaTxId
      lastErrorCode lastErrorMessage incrementAttempts) :=
  .call rfl (fun _ => rfl) fun _ => .done trivial

theorem storeOnly_recordObservation (observation : ReplacementObservation) :
    StoreOnly (fun _ => True) (recordObservation tracked observation) := by
  cases observation with
  | none => exact .done trivial
  | some observed => exact storeOnly_persist ..

theorem storeOnly_recordSubmission (inOrderSubmit : Bool) (observation : ReplacementObservation)
    (result : IgraSubmitResult) :
    StoreOnly (fun _ => True) (recordSubmission tracked inOrderSubmit observation result) := by
  refine (storeOnly_persist ..).bind fun _ _ => (storeOnly_persist ..).bind fun _ _ => ?_
  refine (storeOnly_persist ..).bind fun _ _ => ?_
  cases inOrderSubmit with
  | false => exact .done trivial
  | true => exact .call rfl (fun _ => rfl) fun _ => .done trivial

theorem storeOnly_forTracked {tracked : Option TrackedSend} {f : TrackedSend → Request Unit}
    (hf : ∀ t, StoreOnly (fun _ => True) (f t)) :
    StoreOnly (fun _ => True) (forTracked tracked f) := by
  cases tracked with
  | none => exact .done trivial
  | some t => exact hf t

/-- The tail makes store calls only. -/
theorem storeOnly_finish (tracked : Option TrackedSend)
    (outcome : Bool × Except TransportError ResponsePacket) :
    StoreOnly (fun result => result = outcome.2) (finish tracked outcome) := by
  have hrelease : ∀ t : TrackedSend, StoreOnly (fun _ => True) (if outcome.1 = true then do
      let _ ← call (.release t.store t.sender t.lockOwnerId)
      pure ()
    else pure ()) := fun t => by
    split_ifs
    · exact .call rfl (fun _ => rfl) fun _ => .done trivial
    · exact .done trivial
  refine (storeOnly_forTracked fun t => ?_).bind fun _ _ => .done rfl
  cases outcome.2 with
  | ok packet => exact hrelease t
  | error errText => exact (storeOnly_persist ..).bind fun _ _ => hrelease t

variable {post : IgraStoreError → Except TransportError ResponsePacket → Prop}

/-- The submission, with its records left out. -/
theorem hides_submit (rawSend : RawSendRequest) (txIdPrefix : String)
    (tracked : Option TrackedSend) (inOrderSubmit : Bool) (observation : ReplacementObservation)
    (fresh : Bool) :
    Hides post Eq fresh (submit lib self rawSend txIdPrefix tracked inOrderSubmit observation)
      (submit lib self.withoutStore rawSend txIdPrefix none false none) := by
  refine .hidden_bind (storeOnly_forTracked fun t => storeOnly_persist ..) fun _ _ => ?_
  refine .keep rfl fun _ => .keep rfl fun answer => ?_
  match answer with
  | .error err => exact .done rfl
  | .ok result =>
    have hrecords : Hides post Eq false (do
        forTracked tracked fun t => recordSubmission t inOrderSubmit observation result
        pure (successL2TxHashResponse lib rawSend.id rawSend.metadata.l2TxHash))
        (pure (successL2TxHashResponse lib rawSend.id rawSend.metadata.l2TxHash)) :=
      .hidden_bind (storeOnly_forTracked fun t => storeOnly_recordSubmission ..) fun _ _ =>
        .done rfl
    exact hrecords

/-- The combined step, and what follows when it does not end in a blocking error. -/
theorem hides_acquire {α β : Type} {post : IgraStoreError → α → Prop} {R : α → β → Prop}
    {f : Except IgraStoreError NonceOrdering → Request α} {q : Request β}
    (hgoes : ∀ r, blockingError r = none → Hides post R true (f r) q)
    (hstops : ∀ err, err.isBlocking = true → StoreOnly (post err) (f (.error err))) :
    Hides post R true (acquire tracked >>= f) q := by
  have hstop : ∀ r err, blockingError r = some err →
      true = true ∧ StoreOnly (post err) (f r) := by
    intro r err hr
    obtain ⟨rfl, hblocking⟩ := blockingError_eq_some.mp hr
    exact ⟨rfl, hstops err hblocking⟩
  refine .hide rfl (fun started hstarted => ?_) fun started err hstarted => ?_
  · match started with
    | .error err => exact hgoes (.error err) hstarted
    | .ok now => exact .hide rfl hgoes hstop
  · match started with
    | .error err' => exact hstop (.error err') err hstarted
    | .ok now => cases hstarted

/-- A send that was refused by the combined step, or that ends as the other send does. -/
abbrev HidesSend (p q : Request (Bool × Except TransportError ResponsePacket)) : Prop :=
  Hides (fun err outcome => outcome.2 = .error err.toText)
    (fun outcome outcome' => outcome.2 = outcome'.2) true p q

/-- The submission, with the outcome of the lock beside it. -/
theorem hidesSend_submit (rawSend : RawSendRequest) (txIdPrefix : String)
    (tracked : Option TrackedSend) (inOrderSubmit : Bool) (observation : ReplacementObservation)
    (acquired : Bool) :
    HidesSend
      (do
        let result ← submit lib self rawSend txIdPrefix tracked inOrderSubmit observation
        pure (acquired, result))
      (do
        let result ← submit lib self.withoutStore rawSend txIdPrefix none false none
        pure (false, result)) := by
  have hsubmit : Hides (fun _ _ => False) Eq true
      (submit lib self rawSend txIdPrefix tracked inOrderSubmit observation)
      (submit lib self.withoutStore rawSend txIdPrefix none false none) := hides_submit ..
  refine hsubmit.bind (fun _ a b hab => ?_) fun _ _ h => h.elim
  subst hab
  exact .done rfl

/-- The inner block. -/
theorem hides_sendRawTransaction (rawSend : RawSendRequest) (tracked : Option TrackedSend) :
    HidesSend (sendRawTransaction lib self rawSend tracked)
      (sendRawTransaction lib self.withoutStore rawSend none) := by
  have hprefix : self.withoutStore.txIdPrefix = self.txIdPrefix := rfl
  rw [sendRawTransaction, sendRawTransaction, hprefix]
  cases self.txIdPrefix with
  | none => exact .done rfl
  | some txIdPrefix =>
    cases tracked with
    | none => exact hidesSend_submit ..
    | some tracked =>
      refine .hidden_bind (storeOnly_persist ..) fun _ _ => hides_acquire (fun r hr => ?_) ?_
      · cases r with
        | ok ordering =>
          exact .hidden_bind (storeOnly_recordObservation _) fun _ _ => hidesSend_submit ..
        | error err =>
          cases err with
          | nonceOverflow sender nonce => exact hidesSend_submit ..
          | sqlite err => exact hidesSend_submit ..
          | io text => exact hidesSend_submit ..
          | lockTimeout sender => cases hr
          | blockedNonceGap expected got => cases hr
      · intro err herr
        cases err with
        | lockTimeout sender => exact (storeOnly_persist ..).bind fun _ _ => .done rfl
        | blockedNonceGap expected got => exact (storeOnly_persist ..).bind fun _ _ => .done rfl
        | nonceOverflow sender nonce => cases herr
        | sqlite err => cases herr
        | io text => cases herr

/-- **Requests.** The request without a store is the request without its store calls. -/
theorem hides_request (stamp : RequestStamp) (packet : RequestPacket) :
    Hides (fun err result => result = .error err.toText) Eq true (self.request lib stamp packet)
      (self.withoutStore.request lib stamp packet) := by
  have hroute : self.withoutStore.route lib packet = self.route lib packet := rfl
  rw [IgraTransport.request, IgraTransport.request, hroute]
  cases self.route lib packet with
  | forward forwarded => exact .keep rfl fun _ => .done rfl
  | reject reason => exact .done rfl
  | send rawSend =>
    refine (hides_sendRawTransaction rawSend (self.trackedSend lib rawSend.metadata stamp)).bind
      (fun fresh outcome outcome' heq => ?_) fun err outcome herr => ?_
    · exact (storeOnly_finish _ outcome).erases fun _ h => h.trans heq
    · exact (storeOnly_finish _ outcome).mono fun _ h => h.trans herr

/-- **Tracking is transparent.** Whatever the calls of a request are answered: unless its combined
step ends in a blocking error, the calls that are not store calls are those that the request
without a store makes on the same answers, and the result is the same; otherwise no such call is
made, and the error is returned. -/
theorem tracking_transparent (lib : Externals) (self : IgraTransport) (stamp : RequestStamp)
    (packet : RequestPacket) {es : List TransportOps.Event}
    {rest : Request (Except TransportError ResponsePacket)}
    (h : Program.Trace (self.request lib stamp packet) es rest) :
    ((∀ err, ¬CombinedStepEnds err es) → ∃ rest',
      Program.Trace (self.withoutStore.request lib stamp packet) (storeErasure.visible es) rest' ∧
        ∀ result, rest.status = .inr result → rest'.status = .inr result) ∧
    ∀ err, CombinedStepEnds err es → storeErasure.visible es = [] ∧
      ∀ result, rest.status = .inr result → result = .error err.toText := by
  have herased : Program.Erased storeErasure (fun err result => result = .error err.toText) Eq
      (self.withoutStore.request lib stamp packet) es rest := h.erase (hides_request stamp packet)
  cases herased with
  | goes fresh rest' htrace herases _ hgoes =>
    refine ⟨fun _ => ⟨rest', htrace, fun result hresult => ?_⟩, fun err ⟨x, hx, hxe⟩ => ?_⟩
    · obtain ⟨result', hresult', rfl⟩ := herases.status_inr hresult
      exact hresult'
    · exact absurd hxe (hgoes x hx err)
  | stopped err hsilent hnone hstops heq =>
    refine ⟨fun hgoes => absurd hstops (hgoes err), fun err' ⟨x, hx, hxe⟩ => ?_⟩
    obtain rfl := heq x hx err' hxe
    exact ⟨hnone, fun result hresult => hsilent.status_inr hresult⟩

end Programs

/-! ### A request whose store fails -/

section Sample

/-- Every transaction of the store fails; the submitter answers with a result. -/
def failingOracle : Oracle where
  now := 1700000000000
  classifyNow := 1700000000000
  submit := .ok sampleResult
  inner := .error "not called"
  fault := some (.io "No space left on device (os error 28)")

/-- No event ends in a blocking error. -/
def endsUnblocked (x : TransportOps.Event) : Bool :=
  match TransportOps.exit x.1 x.2 with
  | some b => (x.1.blockingError b).isNone
  | none => true

theorem not_combinedStepEnds_of_all {es : List TransportOps.Event}
    (h : es.all endsUnblocked = true) (err : IgraStoreError) : ¬CombinedStepEnds err es := by
  rintro ⟨x, hx, b, hb, herr⟩
  have hunblocked := List.all_eq_true.mp h x hx
  rw [endsUnblocked, hb] at hunblocked
  have hnone : storeErasure.stop x.1 b = none := Option.isNone_iff_eq_none.mp hunblocked
  rw [hnone] at herr
  cases herr

/-- A request has returned a response. -/
def hasResponded (p : Request (Except TransportError ResponsePacket)) : Bool :=
  match p.status with
  | .inr (.ok _) => true
  | _ => false

theorem status_of_hasResponded {p : Request (Except TransportError ResponsePacket)}
    (h : hasResponded p = true) : ∃ response, p.status = .inr (.ok response) := by
  rw [hasResponded] at h
  split at h
  next response hr => exact ⟨response, hr⟩
  · cases h

/-- Every store call of a request fails; it returns the response of the untracked request. -/
theorem tracking_transparent_failing : ∃ es rest rest' response,
    Program.Trace ((sampleCalls 0).program sampleExternals) es rest ∧
    Program.Trace ((sampleCalls 0).transport.withoutStore.request sampleExternals
      (sampleCalls 0).stamp (sampleCalls 0).packet) (storeErasure.visible es) rest' ∧
    rest.status = .inr (.ok response) ∧ rest'.status = .inr (.ok response) := by
  obtain ⟨c, hc, hP⟩ := (Option.any_eq_true ..).mp (show
    ((Conf.start (fun i => (sampleCalls i).program sampleExternals) sampleWorld).play
      (machine true) (List.replicate 8 (.run 0 failingOracle))).any
        (fun c => (c.own 0).all endsUnblocked && hasResponded (c.thread 0)) = true
    by decide +kernel)
  obtain ⟨hunblocked, hresponded⟩ := Bool.and_eq_true_iff.mp hP
  obtain ⟨response, hresponse⟩ := status_of_hasResponded hresponded
  have htrace : Program.Trace ((sampleCalls 0).program sampleExternals) (c.own 0) (c.thread 0) :=
    Reachable.trace (M := machine true) ⟨_, hc⟩ 0
  obtain ⟨hgoes, -⟩ := tracking_transparent sampleExternals (sampleCalls 0).transport
    (sampleCalls 0).stamp (sampleCalls 0).packet htrace
  obtain ⟨rest', htrace', hresult⟩ := hgoes (not_combinedStepEnds_of_all hunblocked)
  exact ⟨_, _, rest', response, htrace, htrace', hresponse, hresult _ hresponse⟩

end Sample

end FoundryIgra
