import FoundryIgra.Transport.Calls
import FoundryIgra.Transport.Session

/-!
# What reaches the inner transport

The interception stages decide what a request does; a packet reaches the inner transport exactly
when they forward it. A single raw send is taken over, a single priority-fee query goes on as a
gas-price query, a packet with a rejected call stays, and everything else is forwarded as it is.
The raw-send and fee stages look at single requests only, so a batch passes them by.

## Main definitions

* `ReachesInner`: a request calls the inner transport with a packet.

## Main results

* `reachesInner_request_iff`: what is called is what the stages forward.
* `routing`: the stages over packet shapes.
-/

namespace FoundryIgra

open Rust Store Concurrency

/-! ### Calls of the inner transport -/

/-- On some answers, the program calls the inner transport with `packet`. -/
def ReachesInner {α : Type} (p : Request α) (packet : RequestPacket) : Prop :=
  ∃ es q, Program.Trace p es q ∧ q.status = .inl (.innerCall packet)

/-- The call is one of the inner transport. -/
def TransportOp.isInner : TransportOp → Bool
  | .innerCall _ => true
  | _ => false

/-- Whatever the answers, the program makes only calls in `allowed`. -/
def CallsOnly {α : Type} (allowed : TransportOp → Prop) (p : Request α) : Prop :=
  Program.wp (I := TransportOps) (fun _ => True) (fun g _ => g) (fun _ => allowed)
    (fun _ _ => True) p ()

/-- Whatever the answers, the program does not call the inner transport. -/
def AvoidsInner {α : Type} (p : Request α) : Prop := CallsOnly (fun op => op.isInner = false) p

section Rules

variable {α : Type}

theorem CallsOnly.allowed {allowed : TransportOp → Prop} {p : Request α}
    (h : CallsOnly allowed p) {packet : RequestPacket} (hreach : ReachesInner p packet) :
    allowed (.innerCall packet) := by
  obtain ⟨es, q, htrace, hstatus⟩ := hreach
  have hq := Program.Trace.wp h htrace fun _ _ => trivial
  exact (Program.wp_status hq).1 _ hstatus

theorem callsOnly_call {allowed : TransportOp → Prop} {op : TransportOp} (h : allowed op) :
    CallsOnly allowed (call op) :=
  makes_call h

theorem AvoidsInner.not_reaches {p : Request α} (h : AvoidsInner p) (packet : RequestPacket) :
    ¬ReachesInner p packet := fun hreach => Bool.noConfusion (CallsOnly.allowed h hreach)

end Rules

section Sends

variable (lib : Externals) (self : IgraTransport)

/-- A packet that is taken over does not reach the inner transport. -/
theorem avoidsInner_request {rawSend : RawSendRequest} {stamp : RequestStamp}
    {packet : RequestPacket} (hroute : self.route lib packet = .send rawSend) :
    AvoidsInner (self.request lib stamp packet) := by
  refine (makes_request stamp hroute).mono (fun op hop => ?_) fun _ _ => trivial
  cases op with
  | innerCall packet => exact hop.elim
  | persist store update => rfl
  | startAcquire store => rfl
  | pollLock t deadlineMs => rfl
  | enterSubmit request => rfl
  | leaveSubmit request => rfl
  | markSubmitted store sender nonce => rfl
  | release store sender ownerId => rfl

/-- **What reaches the inner transport** is what the stages forward. -/
theorem reachesInner_request_iff (stamp : RequestStamp) (packet sent : RequestPacket) :
    ReachesInner (self.request lib stamp packet) sent ↔
      self.route lib packet = .forward sent := by
  cases hroute : self.route lib packet with
  | forward forwarded =>
    rw [IgraTransport.request, hroute]
    have honly : CallsOnly (fun op => op = .innerCall forwarded) (call (.innerCall forwarded)) :=
      callsOnly_call rfl
    constructor
    · intro hreach
      rw [TransportOp.innerCall.inj (honly.allowed hreach)]
    · rintro ⟨⟩
      exact ⟨[], _, .nil, rfl⟩
  | reject reason =>
    rw [IgraTransport.request, hroute]
    have hnone : AvoidsInner
        (pure (.error reason) : Request (Except TransportError ResponsePacket)) := trivial
    exact iff_of_false (hnone.not_reaches sent) (by simp)
  | send rawSend =>
    exact iff_of_false ((avoidsInner_request lib self hroute).not_reaches sent) (by simp)

end Sends

/-! ### The stages -/

/-- The method of a priority-fee query. -/
def feeMethod : String := "eth_maxPriorityFeePerGas"

/-- The method of a raw send. -/
def rawSendMethod : String := "eth_sendRawTransaction"

/-- The libraries serialize a request under its method and id. -/
def SerializesRequests (lib : Externals) : Prop :=
  ∀ method id r, lib.serializeRequest method id = .ok r → r.method = method ∧ r.id = id

section Stages

variable {lib : Externals} {self : IgraTransport} {packet sent : RequestPacket}

theorem route_disabled (h : self.enabled = false) : self.route lib packet = .forward packet := by
  simp [IgraTransport.route, IgraTransport.feeOverride, IgraTransport.rejectionReason, h]

/-- A single priority-fee query goes on as a gas-price query, or is rejected. -/
theorem route_fee {call : SerializedRequest} (h : self.enabled = true)
    (hmethod : call.method = feeMethod)
    (hroute : self.route lib (.single call) = .forward sent) :
    ∃ r, lib.serializeRequest "eth_gasPrice" call.id = .ok r ∧ sent = .single r := by
  rw [feeMethod] at hmethod
  simp only [IgraTransport.route, IgraTransport.feeOverride, h, RequestPacket.asSingle, hmethod,
    if_true, Option.bind_some] at hroute
  cases hr : lib.serializeRequest "eth_gasPrice" call.id with
  | ok r =>
    simp only [hr, Route.forward.injEq] at hroute
    exact ⟨r, rfl, hroute.symm⟩
  | error err => simp [hr] at hroute

/-- Any other packet passes the fee stage. -/
theorem feeOverride_eq_none (h : ∀ call, packet = .single call → call.method ≠ feeMethod) :
    self.feeOverride lib packet = none := by
  rw [IgraTransport.feeOverride]
  split_ifs
  · cases packet with
    | single call =>
      have hne : call.method ≠ "eth_maxPriorityFeePerGas" := h call rfl
      simp [RequestPacket.asSingle, hne]
    | batch calls => rfl
  · rfl

theorem rejectionReason_eq_none (h : self.enabled = true) :
    self.rejectionReason lib packet = none ↔
      ∀ call ∈ packet.requests, requestRejectionReason lib call = none := by
  simp [IgraTransport.rejectionReason, h]

/-- Only a single raw send is taken over. -/
theorem rawSendRequest_eq_none (h : ∀ call, packet = .single call → call.method ≠ rawSendMethod) :
    rawSendRequest lib packet = .ok none := by
  rw [rawSendRequest]
  cases packet with
  | single call =>
    have hne : call.method ≠ "eth_sendRawTransaction" := h call rfl
    simp [singleSendRawRequest, hne]
  | batch calls => rfl

/-- A single raw send is never forwarded. -/
theorem route_rawSend {call : SerializedRequest} (h : self.enabled = true)
    (hmethod : call.method = rawSendMethod) :
    self.route lib (.single call) ≠ .forward sent := by
  have hfee : self.feeOverride lib (.single call) = none :=
    feeOverride_eq_none fun _ heq => by
      obtain rfl := RequestPacket.single.inj heq
      rw [hmethod]
      decide
  have hraw : rawSendRequest lib (.single call) ≠ .ok none := by
    rw [rawSendMethod] at hmethod
    simp only [rawSendRequest, singleSendRawRequest, hmethod, if_true]
    cases rawTxBytes lib call with
    | error err => rintro ⟨⟩
    | ok rawTx =>
      cases rawTxType lib call with
      | error err => rintro ⟨⟩
      | ok ty =>
        simp only [bind, Except.bind]
        cases ty.txTypeNibble with
        | none => rintro ⟨⟩
        | some nibble => cases rawTxMetadataFromRawTx lib rawTx <;> rintro ⟨⟩
  rw [IgraTransport.route]
  rw [hfee]
  cases self.rejectionReason lib (.single call) with
  | some reason => rintro ⟨⟩
  | none =>
    simp only [h, if_true]
    rcases hr : rawSendRequest lib (.single call) with err | _ | rawSend
    · rintro ⟨⟩
    · exact absurd hr hraw
    · rintro ⟨⟩

/-- A packet with a rejected call is not forwarded. -/
theorem route_rejected (h : self.enabled = true) {call : SerializedRequest}
    (hcall : call ∈ packet.requests) {reason : String}
    (hreason : requestRejectionReason lib call = some reason) :
    self.route lib packet ≠ .forward sent := by
  have hfee : self.feeOverride lib packet = none := feeOverride_eq_none fun single heq hmethod => by
    subst heq
    obtain rfl := List.mem_singleton.mp hcall
    rw [feeMethod] at hmethod
    simp [requestRejectionReason, isUnsupportedMethod, hmethod] at hreason
  have hrej : self.rejectionReason lib packet ≠ none := fun hnone => by
    rw [(rejectionReason_eq_none h).mp hnone call hcall] at hreason
    cases hreason
  rw [IgraTransport.route]
  rw [hfee]
  cases hr : self.rejectionReason lib packet with
  | none => exact absurd hr hrej
  | some reason => rintro ⟨⟩

/-- A packet that no stage takes up is forwarded as it is. -/
theorem route_forward (h : self.enabled = true)
    (haccepted : ∀ call ∈ packet.requests, requestRejectionReason lib call = none)
    (hsingle : ∀ call, packet = .single call →
      call.method ≠ feeMethod ∧ call.method ≠ rawSendMethod) :
    self.route lib packet = .forward packet := by
  simp only [IgraTransport.route, feeOverride_eq_none fun call heq => (hsingle call heq).1,
    (rejectionReason_eq_none h).mpr haccepted, h, if_true,
    rawSendRequest_eq_none fun call heq => (hsingle call heq).2]

/-- What is forwarded carries no unsupported method. -/
theorem supported_of_route (hser : SerializesRequests lib) (h : self.enabled = true)
    (hroute : self.route lib packet = .forward sent) :
    ∀ call ∈ sent.requests, isUnsupportedMethod call.method = false := by
  by_cases hfee : ∃ call, packet = .single call ∧ call.method = feeMethod
  · obtain ⟨call, rfl, hmethod⟩ := hfee
    obtain ⟨r, hr, rfl⟩ := route_fee h hmethod hroute
    intro call' hcall'
    rw [List.mem_singleton.mp hcall', (hser _ _ _ hr).1]
    decide
  · have haccepted : ∀ call ∈ packet.requests, requestRejectionReason lib call = none :=
      fun call hcall => by
        by_contra hsome
        obtain ⟨reason, hreason⟩ := Option.ne_none_iff_exists'.mp hsome
        exact route_rejected h hcall hreason hroute
    have hsent : sent = packet := by
      have hsingle : ∀ call, packet = .single call →
          call.method ≠ feeMethod ∧ call.method ≠ rawSendMethod := fun call heq =>
        ⟨fun hm => hfee ⟨call, heq, hm⟩, fun hm => route_rawSend h hm (heq ▸ hroute)⟩
      rw [route_forward h haccepted hsingle] at hroute
      exact (Route.forward.inj hroute).symm
    subst hsent
    intro call hcall
    by_contra hunsupported
    have hreason := haccepted call hcall
    rw [requestRejectionReason, if_pos (by simpa using hunsupported)] at hreason
    cases hreason

/-- **Routing over packet shapes.** Disabled, every packet is forwarded as it is. Enabled, no call
of an unsupported method and no single raw send reaches the inner transport, nothing of a packet
with a rejected call does, a single priority-fee query reaches it only as a gas-price query with
its id, and every packet that no stage takes up reaches it as it is. -/
theorem routing (hser : SerializesRequests lib) (stamp : RequestStamp) (packet : RequestPacket) :
    (self.enabled = false → ∀ sent,
      ReachesInner (self.request lib stamp packet) sent ↔ sent = packet) ∧
    (self.enabled = true →
      (∀ sent, ReachesInner (self.request lib stamp packet) sent →
        ∀ call ∈ sent.requests, isUnsupportedMethod call.method = false) ∧
      (∀ call, packet = .single call → call.method = rawSendMethod →
        ∀ sent, ¬ReachesInner (self.request lib stamp packet) sent) ∧
      (∀ call ∈ packet.requests, (requestRejectionReason lib call).isSome = true →
        ∀ sent, ¬ReachesInner (self.request lib stamp packet) sent) ∧
      (∀ call, packet = .single call → call.method = feeMethod →
        ∀ sent, ReachesInner (self.request lib stamp packet) sent →
          ∃ r, sent = .single r ∧ r.method = "eth_gasPrice" ∧ r.id = call.id) ∧
      ((∀ call ∈ packet.requests, requestRejectionReason lib call = none) →
        (∀ call, packet = .single call → call.method ≠ feeMethod ∧ call.method ≠ rawSendMethod) →
          ∀ sent, ReachesInner (self.request lib stamp packet) sent ↔ sent = packet)) := by
  simp only [reachesInner_request_iff]
  have hself : ∀ sent : RequestPacket,
      Route.forward packet = .forward sent ↔ sent = packet := fun sent => by
    rw [Route.forward.injEq, eq_comm]
  refine ⟨fun h sent => ?_, fun h => ⟨?_, ?_, ?_, ?_, ?_⟩⟩
  · rw [route_disabled h, hself]
  · exact fun sent hroute => supported_of_route hser h hroute
  · rintro call rfl hmethod sent
    exact route_rawSend h hmethod
  · intro call hcall hsome sent
    obtain ⟨reason, hreason⟩ := Option.isSome_iff_exists.mp hsome
    exact route_rejected h hcall hreason
  · rintro call rfl hmethod sent hroute
    obtain ⟨r, hr, rfl⟩ := route_fee h hmethod hroute
    exact ⟨r, rfl, hser _ _ _ hr⟩
  · intro haccepted hsingle sent
    rw [route_forward h haccepted hsingle, hself]

end Stages

/-! ### Packets of the sample session -/

theorem serializesRequests_sample : SerializesRequests sampleExternals := by
  rintro method id r ⟨⟩
  exact ⟨rfl, rfl⟩

/-- A batch of a raw send, a priority-fee query and a read. -/
def sampleBatch : RequestPacket :=
  .batch [⟨"eth_sendRawTransaction", .number 1, some "[\"0xc98080808080801b0101\"]"⟩,
    ⟨"eth_maxPriorityFeePerGas", .number 2, none⟩, ⟨"eth_blockNumber", .number 3, none⟩]

theorem accepted_sampleBatch :
    ∀ call ∈ sampleBatch.requests, requestRejectionReason sampleExternals call = none := by
  decide +kernel

/-- The batch is forwarded as it is, and not without its calls. -/
theorem routing_sampleBatch :
    ReachesInner ((IgraTransport.new true).request sampleExternals ⟨0, 0, 0⟩ sampleBatch)
        sampleBatch ∧
      ¬ReachesInner ((IgraTransport.new true).request sampleExternals ⟨0, 0, 0⟩ sampleBatch)
        (.batch []) := by
  have h := ((routing serializesRequests_sample ⟨0, 0, 0⟩ sampleBatch).2
    (rfl : (IgraTransport.new true).enabled = true)).2.2.2.2 accepted_sampleBatch nofun
  refine ⟨(h sampleBatch).mpr rfl, fun hreach => ?_⟩
  cases (h (.batch [])).mp hreach

/-- **A raw send in a batch reaches the inner transport**, and a priority-fee query in a batch
reaches it as it is. -/
theorem batchedRawSend_reachesInner :
    (IgraTransport.new true).enabled = true ∧
      (∃ call ∈ sampleBatch.requests, call.method = rawSendMethod) ∧
      (∃ call ∈ sampleBatch.requests, call.method = feeMethod) ∧
      ReachesInner ((IgraTransport.new true).request sampleExternals ⟨0, 0, 0⟩ sampleBatch)
        sampleBatch := by
  refine ⟨rfl, ⟨_, List.mem_cons_self, rfl⟩,
    ⟨_, List.mem_cons_of_mem _ List.mem_cons_self, rfl⟩, (reachesInner_request_iff ..).mpr ?_⟩
  exact route_forward rfl accepted_sampleBatch nofun

end FoundryIgra
