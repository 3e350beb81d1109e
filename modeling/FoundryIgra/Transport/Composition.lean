import FoundryIgra.Concurrency.Past
import FoundryIgra.Transport.Request

/-!
# Properties that compose

A property of programs that holds of results and of sequences holds of every request, once it holds
of the parts that a request is made of (`transport.rs`, the async body).

## Main definitions

* `Composes`: the property holds of results and of sequences.
* `HoldsOfParts`: it holds of the parts of a request.

## Main results

* `HoldsOfParts.request`: it holds of the request.
* `composes_asserts`: meeting an assertion composes.
-/

namespace FoundryIgra

open Rust Store Concurrency

/-- The property holds of results and of sequences. -/
structure Composes (R : ∀ {α : Type}, Request α → Prop) : Prop where
  pure : ∀ {α : Type} (a : α), R (Pure.pure a : Request α)
  bind : ∀ {α β : Type} {p : Request α} {f : α → Request β}, R p → (∀ a, R (f a)) → R (p >>= f)

/-- The property composes, and holds of the parts of a request of the transport whose tracked send
is `tracked`. -/
structure HoldsOfParts (lib : Externals) (transport : IgraTransport) (tracked : Option TrackedSend)
    (R : ∀ {α : Type}, Request α → Prop) : Prop extends Composes R where
  innerCall : ∀ packet, R (call (.innerCall packet))
  record : ∀ (t : TrackedSend) (state : TxLifecycleState) (code message : Option String)
    (increment : Bool), R (persistTransitionSafe t state none none code message increment)
  acquire : ∀ t, tracked = some t → R (acquire t)
  submit : ∀ (rawSend : RawSendRequest) (txIdPrefix : String) (o : Option TrackedSend)
    (inOrderSubmit : Bool) (observation : ReplacementObservation),
      R (submit lib transport rawSend txIdPrefix o inOrderSubmit observation)
  release : ∀ t : TrackedSend, R (call (.release t.store t.sender t.lockOwnerId))

section Rules

variable {R : ∀ {α : Type}, Request α → Prop}

theorem Composes.forTracked (h : Composes R) {o : Option TrackedSend}
    {f : TrackedSend → Request Unit} (hf : ∀ t, R (f t)) : R (forTracked o f) := by
  cases o with
  | none => exact h.pure ()
  | some t => exact hf t

namespace HoldsOfParts

variable {lib : Externals} {transport : IgraTransport} {tracked : Option TrackedSend}

theorem recordObservation (h : HoldsOfParts lib transport tracked R) (t : TrackedSend)
    (observation : ReplacementObservation) : R (recordObservation t observation) := by
  cases observation with
  | none => exact h.pure ()
  | some o => exact h.record ..

theorem sendRawTransaction (h : HoldsOfParts lib transport tracked R) (rawSend : RawSendRequest) :
    R (sendRawTransaction lib transport rawSend tracked) := by
  rw [FoundryIgra.sendRawTransaction]
  cases transport.txIdPrefix with
  | none => exact h.pure _
  | some txIdPrefix =>
    cases tracked with
    | none => exact h.bind (h.submit ..) fun _ => h.pure _
    | some t =>
      refine h.bind (h.record ..) fun _ => h.bind (h.acquire t rfl) fun a => ?_
      cases a with
      | ok ordering =>
        exact h.bind (h.recordObservation ..) fun _ => h.bind (h.submit ..) fun _ => h.pure _
      | error err =>
        -- a refusal is recorded, any other failure goes on to the submission
        cases err with
        | lockTimeout sender => exact h.bind (h.record ..) fun _ => h.pure _
        | blockedNonceGap expected got => exact h.bind (h.record ..) fun _ => h.pure _
        | nonceOverflow sender nonce => exact h.bind (h.submit ..) fun _ => h.pure _
        | sqlite err => exact h.bind (h.submit ..) fun _ => h.pure _
        | io text => exact h.bind (h.submit ..) fun _ => h.pure _

theorem finish (h : HoldsOfParts lib transport tracked R) (o : Option TrackedSend)
    (outcome : Bool × Except TransportError ResponsePacket) : R (finish o outcome) := by
  have hrelease : ∀ t : TrackedSend, R (if outcome.1 = true then do
      let _ ← call (.release t.store t.sender t.lockOwnerId)
      pure ()
    else pure ()) := fun t => by
    split_ifs
    · exact h.bind (h.release t) fun _ => h.pure ()
    · exact h.pure ()
  refine h.bind (h.forTracked fun t => ?_) fun _ => h.pure _
  cases outcome.2 with
  | ok packet => exact hrelease t
  | error errText => exact h.bind (h.record ..) fun _ => hrelease t

/-- **Requests.** A property that composes and holds of the parts holds of the request. -/
theorem request {stamp : RequestStamp} {packet : RequestPacket}
    (h : HoldsOfParts lib transport (transport.tracked lib stamp packet) R) :
    R (transport.request lib stamp packet) := by
  rw [IgraTransport.tracked] at h
  rw [IgraTransport.request]
  cases hroute : transport.route lib packet with
  | forward packet => exact h.innerCall packet
  | reject reason => exact h.pure _
  | send rawSend =>
    rw [hroute] at h
    exact h.bind (h.sendRawTransaction rawSend) fun _ => h.finish ..

end HoldsOfParts

end Rules

/-! ### Assertions on the past -/

section Assertions

variable {A : Assertion TransportOps} {es : List TransportOps.Event}

theorem composes_asserts : Composes fun p => ∀ es, Asserts A (fun _ _ => True) p es where
  pure _ _ := asserts_pure trivial
  bind hp hf es := (hp es).bind fun a es' _ _ => hf a es'

theorem asserts_transportCall (op : TransportOp) (h : A (· ∈ es) op) :
    Asserts A (fun _ _ => True) (call op) es :=
  asserts_perform (I := TransportOps) op h fun _ _ _ => trivial

theorem asserts_persist {t : TrackedSend} {state : TxLifecycleState} {payloadNonce : Option UInt64}
    {txId code message : Option String} {increment : Bool}
    (h : A (· ∈ es) (.persist t.store (t.update state payloadNonce txId code message increment))) :
    Asserts A (fun _ _ => True)
      (persistTransitionSafe t state payloadNonce txId code message increment) es :=
  (asserts_transportCall _ h).bind fun _ _ _ _ => asserts_pure trivial

theorem asserts_forTracked {o : Option TrackedSend} {f : TrackedSend → Request Unit}
    (hf : ∀ t, Asserts A (fun _ _ => True) (f t) es) :
    Asserts A (fun _ _ => True) (forTracked o f) es := by
  cases o with
  | none => exact asserts_pure trivial
  | some t => exact hf t

end Assertions

end FoundryIgra
