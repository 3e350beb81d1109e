import FoundryIgra.Transport.Request

/-!
# What a request calls

The calls of a request whose packet the transport takes over, whatever is answered: all of them
concern the raw send and its tracked send, and what is returned is the hash of the raw send or an
error.

## Main definitions

* `Makes`: a program makes only some calls and returns only some results.
* `SendCalls`, `ReturnsHash`: the calls and the results of a request that is taken over.

## Main results

* `makes_request`: a request that is taken over makes these calls and returns these results.
-/

namespace FoundryIgra

open Rust Store Concurrency

/-- Whatever the answers, the program makes only calls in `allowed`, and its result meets
`post`. -/
def Makes {α : Type} (allowed : TransportOp → Prop) (post : α → Prop) (p : Request α) : Prop :=
  Program.wp (I := TransportOps) (fun _ => True) (fun g _ => g) (fun _ => allowed)
    (fun a _ => post a) p ()

section Rules

variable {α β : Type} {allowed : TransportOp → Prop}

theorem makes_pure {post : α → Prop} {a : α} (h : post a) : Makes allowed post (pure a) := h

theorem Makes.bind {post : α → Prop} {post' : β → Prop} {p : Request α} {f : α → Request β}
    (hp : Makes allowed post p) (hf : ∀ a, post a → Makes allowed post' (f a)) :
    Makes allowed post' (p >>= f) :=
  (Program.wp_bind ..).mpr (Program.wp_mono (fun _ _ h => h) (fun a _ ha => hf a ha) p () hp)

theorem Makes.mono {allowed' : TransportOp → Prop} {post post' : α → Prop} {p : Request α}
    (h : Makes allowed post p) (hallowed : ∀ op, allowed op → allowed' op)
    (hpost : ∀ a, post a → post' a) : Makes allowed' post' p :=
  Program.wp_mono (fun _ => hallowed) (fun a _ => hpost a) p () h

theorem makes_call {op : TransportOp} (h : allowed op) :
    Makes allowed (fun _ => True) (call op) := by
  refine ⟨h, fun a _ => ?_⟩
  cases TransportOps.exit op a with
  | none => rfl
  | some b => trivial

/-- Along every trace the pending call is allowed, and at its end the result meets `post`. -/
theorem Makes.of_trace {post : α → Prop} {p q : Request α} {es : List TransportOps.Event}
    (h : Makes allowed post p) (ht : Program.Trace p es q) :
    (∀ op, q.status = .inl op → allowed op) ∧ ∀ a, q.status = .inr a → post a :=
  Program.wp_status (Program.Trace.wp h ht fun _ _ => trivial)

end Rules

/-! ### Requests that are taken over -/

/-- The calls for a raw send whose tracked send, if there is one, is `tracked`. -/
def SendCalls (self : IgraTransport) (rawSend : RawSendRequest) (tracked : Option TrackedSend) :
    TransportOp → Prop
  | .innerCall _ => False
  | .persist store u => ∃ t, tracked = some t ∧ store = t.store ∧ u.l2TxHash = t.l2TxHash
  | .startAcquire store => ∃ t, tracked = some t ∧ store = t.store
  | .pollLock t _ => tracked = some t
  | .enterSubmit request => ∃ txIdPrefix, self.txIdPrefix = some txIdPrefix ∧
      request = self.submitRequest rawSend.metadata.l2TxHash rawSend.rawTx txIdPrefix
  | .leaveSubmit request => ∃ txIdPrefix, self.txIdPrefix = some txIdPrefix ∧
      request = self.submitRequest rawSend.metadata.l2TxHash rawSend.rawTx txIdPrefix
  | .markSubmitted store sender nonce => ∃ t, tracked = some t ∧ store = t.store ∧
      sender = t.sender ∧ nonce = t.l2Nonce
  | .release store sender ownerId => ∃ t, tracked = some t ∧ store = t.store ∧
      sender = t.sender ∧ ownerId = t.lockOwnerId

/-- The result is the hash of the raw send, or an error. -/
def ReturnsHash (lib : Externals) (rawSend : RawSendRequest)
    (result : Except TransportError ResponsePacket) : Prop :=
  ∀ packet, result = .ok packet →
    successL2TxHashResponse lib rawSend.id rawSend.metadata.l2TxHash = .ok packet

theorem returnsHash_error {lib : Externals} {rawSend : RawSendRequest} {err : TransportError} :
    ReturnsHash lib rawSend (.error err) := nofun

section Sends

variable {lib : Externals} {self : IgraTransport} {rawSend : RawSendRequest}
  {tracked : Option TrackedSend}

theorem makes_persist {t : TrackedSend} (ht : tracked = some t) (state : TxLifecycleState)
    (payloadNonce : Option UInt64) (txId code message : Option String) (increment : Bool) :
    Makes (SendCalls self rawSend tracked) (fun _ => True)
      (persistTransitionSafe t state payloadNonce txId code message increment) :=
  (makes_call ⟨t, ht, rfl, rfl⟩).bind fun _ _ => trivial

theorem makes_forTracked {f : TrackedSend → Request Unit}
    (h : ∀ t, tracked = some t →
      Makes (SendCalls self rawSend tracked) (fun _ => True) (f t)) :
    Makes (SendCalls self rawSend tracked) (fun _ => True) (forTracked tracked f) := by
  cases tracked with
  | none => trivial
  | some t => exact h t rfl

theorem makes_acquire {t : TrackedSend} (ht : tracked = some t) :
    Makes (SendCalls self rawSend tracked) (fun _ => True) (acquire t) := by
  refine (makes_call ⟨t, ht, rfl⟩).bind fun a _ => ?_
  match a with
  | .error err => trivial
  | .ok now => exact makes_call ht

theorem makes_recordObservation {t : TrackedSend} (ht : tracked = some t)
    (observation : ReplacementObservation) :
    Makes (SendCalls self rawSend tracked) (fun _ => True) (recordObservation t observation) := by
  match observation with
  | none => trivial
  | some (code, message) => exact makes_persist ht ..

theorem makes_recordSubmission {t : TrackedSend} (ht : tracked = some t) (inOrderSubmit : Bool)
    (observation : ReplacementObservation) (result : IgraSubmitResult) :
    Makes (SendCalls self rawSend tracked) (fun _ => True)
      (recordSubmission t inOrderSubmit observation result) := by
  refine (makes_persist ht ..).bind fun _ _ => (makes_persist ht ..).bind fun _ _ =>
    (makes_persist ht ..).bind fun _ _ => ?_
  cases inOrderSubmit with
  | false => trivial
  | true => exact (makes_call ⟨t, ht, rfl, rfl, rfl⟩).bind fun _ _ => trivial

theorem makes_submit {txIdPrefix : String} (htxid : self.txIdPrefix = some txIdPrefix)
    (inOrderSubmit : Bool) (observation : ReplacementObservation) :
    Makes (SendCalls self rawSend tracked) (ReturnsHash lib rawSend)
      (submit lib self rawSend txIdPrefix tracked inOrderSubmit observation) := by
  refine (makes_forTracked fun t ht => makes_persist ht ..).bind fun _ _ =>
    (makes_call ⟨txIdPrefix, htxid, rfl⟩).bind fun _ _ =>
    (makes_call ⟨txIdPrefix, htxid, rfl⟩).bind fun a _ => ?_
  match a with
  | .error err => exact makes_pure returnsHash_error
  | .ok result =>
    exact (makes_forTracked fun t ht => makes_recordSubmission ht ..).bind
      fun _ _ => makes_pure fun _ h => h

theorem makes_sendRawTransaction :
    Makes (SendCalls self rawSend tracked) (fun outcome => ReturnsHash lib rawSend outcome.2)
      (sendRawTransaction lib self rawSend tracked) := by
  rw [sendRawTransaction]
  cases htxid : self.txIdPrefix with
  | none => exact makes_pure returnsHash_error
  | some txIdPrefix =>
    cases ht : tracked with
    | none => exact (makes_submit htxid ..).bind fun _ h => makes_pure h
    | some t =>
      refine (makes_persist rfl ..).bind fun _ _ => (makes_acquire rfl).bind fun a _ => ?_
      rcases a with err | ordering
      · cases err with
        | lockTimeout sender =>
          exact (makes_persist rfl ..).bind fun _ _ => makes_pure returnsHash_error
        | blockedNonceGap expected got =>
          exact (makes_persist rfl ..).bind fun _ _ => makes_pure returnsHash_error
        | nonceOverflow sender nonce =>
          exact (makes_submit htxid ..).bind fun _ h => makes_pure h
        | sqlite err => exact (makes_submit htxid ..).bind fun _ h => makes_pure h
        | io text => exact (makes_submit htxid ..).bind fun _ h => makes_pure h
      · exact (makes_recordObservation rfl _).bind fun _ _ =>
          (makes_submit htxid ..).bind fun _ h => makes_pure h

theorem makes_finish {outcome : Bool × Except TransportError ResponsePacket}
    (h : ReturnsHash lib rawSend outcome.2) :
    Makes (SendCalls self rawSend tracked) (ReturnsHash lib rawSend) (finish tracked outcome) := by
  have hrelease : ∀ t : TrackedSend, tracked = some t →
      Makes (SendCalls self rawSend tracked) (fun _ => True) (if outcome.1 = true then do
        let _ ← call (.release t.store t.sender t.lockOwnerId)
        pure ()
      else pure ()) := fun t ht => by
    split_ifs
    · exact (makes_call ⟨t, ht, rfl, rfl, rfl⟩).bind fun _ _ => trivial
    · trivial
  refine (makes_forTracked fun t ht => ?_).bind fun _ _ => makes_pure h
  cases outcome.2 with
  | ok packet => exact hrelease t ht
  | error errText => exact (makes_persist ht ..).bind fun _ _ => hrelease t ht

/-- **What a request that is taken over does**, whatever is answered. -/
theorem makes_request (stamp : RequestStamp) {packet : RequestPacket}
    (hroute : self.route lib packet = .send rawSend) :
    Makes (SendCalls self rawSend (self.trackedSend lib rawSend.metadata stamp))
      (ReturnsHash lib rawSend) (self.request lib stamp packet) := by
  rw [IgraTransport.request, hroute]
  exact makes_sendRawTransaction.bind fun outcome h => makes_finish h

end Sends

end FoundryIgra
