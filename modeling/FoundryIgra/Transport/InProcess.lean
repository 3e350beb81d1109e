import FoundryIgra.Concurrency.Stack
import FoundryIgra.Submitter.Acknowledged
import FoundryIgra.Submitter.CacheFreshness
import FoundryIgra.Transport.Calls
import FoundryIgra.Transport.NonceSafety

/-!
# Requests with the in-process submitter

The transport and its submitter in one system: a request that comes to `submit_payload` runs the
submission itself, interleaved with the other requests at every call to the store, to the shared
cache of outputs and to the Kaspa node. The deployment, which takes the submitter for an oracle,
simulates it; so the expected nonces move only past transactions that the node has acknowledged.

## Main definitions

* `inProcess`: the submission carries out `submit_payload`.
* `InProcess`: the reachable configurations of the whole system.
* `AcknowledgedAs`: the node acknowledged what the submission of a request has returned.

## Main results

* `InProcess.exists_deployment`: the deployment simulates the whole system.
* `acknowledged_inProcess`: what the node has acknowledged.
-/

namespace FoundryIgra

open Rust Store Concurrency

/-- The in-process submitter carries out `submit_payload`. -/
def inProcess (kaspa : KaspaExternals) : Delegation TransportOps (SubmitOps kaspa) where
  body
    | .leaveSubmit request => some (submitPayload request)
    | _ => none

/-- The environment of a deployment may answer a submission with anything. -/
theorem carries_inProcess {kaspa : KaspaExternals} {mayFail : Bool} {opens : IgraStore → Bool} :
    Delegation.Carries (inProcess kaspa) (deployment mayFail opens) := by
  intro op q hbody i w b
  cases op with
  | leaveSubmit request =>
    refine ⟨⟨0, 0, b, .error "", none⟩, b, ?_, rfl⟩
    simp [deployment, machine, serve]
  | _ => cases hbody

section Stack

variable {kaspa : KaspaExternals} {V : Type}

/-- A configuration of the whole system. -/
abbrev InProcessConf (kaspa : KaspaExternals) (V : Type) :=
  Conf (TransportOps.sum (SubmitOps kaspa)) (World × V) (Except TransportError ResponsePacket)

/-- `c` is reached by the requests `calls` with the in-process submitter; `N` answers its calls. -/
def InProcess (mayFail : Bool) (opens : IgraStore → Bool) (lib : Externals)
    (calls : ℕ → RequestCall) (N : Machine (SubmitOps kaspa) V) (w : World) (v : V)
    (c : InProcessConf kaspa V) : Prop :=
  Reachable ((deployment mayFail opens).sum N)
    (fun i => (inProcess kaspa).expand ((calls i).program lib)) (w, v) c

/-- Request `i` sends a raw transaction, and its submission has returned `r`: the node acknowledged
to it a Kaspa transaction that was built as the request of the submission asks, with the key that
the wallet of the transport gave; `r` names its nonce and the id that the node answered with. -/
def AcknowledgedAs (lib : Externals) (calls : ℕ → RequestCall) (c : InProcessConf kaspa V)
    (i : ℕ) (r : IgraSubmitResult) : Prop :=
  ∃ (rawSend : RawSendRequest) (txIdPrefix : String) (request : IgraSubmitRequest)
      (es : List (SubmitOps kaspa).Event),
    (calls i).transport.route lib (calls i).packet = .send rawSend ∧
    (calls i).transport.txIdPrefix = some txIdPrefix ∧
    request = (calls i).transport.submitRequest rawSend.metadata.l2TxHash rawSend.rawTx txIdPrefix ∧
    (∀ e ∈ es, Interface.lower e ∈ c.own i) ∧
    Program.Trace (submitPayload request) es (.done (.ok r)) ∧
    Acknowledged (BuildInput.KeyedFor request es) es r

variable {mayFail : Bool} {opens : IgraStore → Bool} {lib : Externals} {calls : ℕ → RequestCall}
  {N : Machine (SubmitOps kaspa) V} {w : World} {v : V} {c : InProcessConf kaspa V}
  {c' : InProcessConf kaspa V} {u : SessionConf}

/-- **The deployment simulates the whole system.** -/
theorem InProcess.exists_deployment (h : InProcess mayFail opens lib calls N w v c) :
    ∃ u, Deployment mayFail opens lib calls w u ∧
      Delegation.Simulates (inProcess kaspa) c u :=
  Delegation.exists_simulated carries_inProcess h

/-- The calls of a raw send in a history. -/
theorem Deployment.sendCalls (h : Deployment mayFail opens lib calls w u) {rawSend : RawSendRequest}
    {x : Entry TransportOps World} (hx : x ∈ u.history)
    (hroute : (calls x.tid).transport.route lib (calls x.tid).packet = .send rawSend) :
    SendCalls (calls x.tid).transport rawSend ((calls x.tid).tracked lib) x.event.1 := by
  have htracked : (calls x.tid).tracked lib =
      (calls x.tid).transport.trackedSend lib rawSend.metadata (calls x.tid).stamp := by
    rw [RequestCall.tracked, IgraTransport.tracked, hroute]
  obtain ⟨es, k, htrace⟩ :=
    (Reachable.trace h x.tid).exists_pending (Conf.mem_own.mpr ⟨x, hx, rfl, rfl⟩)
  rw [htracked]
  exact ((makes_request (calls x.tid).stamp hroute).of_trace htrace).1 _ rfl

/-- A return of the submitter in the deployment is a transaction that the node acknowledged. -/
theorem acknowledgedAs_of_returned (h : Deployment mayFail opens lib calls w u)
    (hsim : Delegation.Simulates (inProcess kaspa) c u) {x : Entry TransportOps World}
    (hx : x ∈ u.history) {rawSend : RawSendRequest} {r : IgraSubmitResult} (hr : Returned r x)
    (hroute : (calls x.tid).transport.route lib (calls x.tid).packet = .send rawSend) :
    AcknowledgedAs lib calls c x.tid r := by
  have hsend := h.sendCalls hx hroute
  have hcarried := hsim.carriedOut x hx
  obtain ⟨request, hevent⟩ := hr
  rw [Delegation.CarriedOut, hevent] at hcarried
  rw [hevent] at hsend
  obtain ⟨txIdPrefix, hprefix, rfl⟩ := hsend
  obtain ⟨b, es, hexit, htrace, hown⟩ := hcarried _ rfl
  obtain rfl : Except.ok r = b := Option.some.inj hexit
  exact ⟨rawSend, txIdPrefix, _, es, hroute, hprefix, rfl, hown, htrace,
    acknowledged_of_trace htrace⟩

/-- A tracked request sends a raw transaction. -/
theorem exists_route_of_tracked {call : RequestCall} {t : TrackedSend}
    (ht : call.tracked lib = some t) :
    ∃ rawSend, call.transport.route lib call.packet = .send rawSend := by
  rw [RequestCall.tracked, IgraTransport.tracked] at ht
  cases hroute : call.transport.route lib call.packet with
  | forward packet => simp [hroute] at ht
  | reject reason => simp [hroute] at ht
  | send rawSend => exact ⟨rawSend, rfl⟩

/-- A raw send that has succeeded was acknowledged. -/
theorem InProcess.exists_acknowledgedAs (h : InProcess mayFail opens lib calls N w v c) {i : ℕ}
    {rawSend : RawSendRequest} {packet : ResponsePacket}
    (hroute : (calls i).transport.route lib (calls i).packet = .send rawSend)
    (hreturned : (c.thread i).status = .inr (.ok packet)) :
    ∃ r, AcknowledgedAs lib calls c i r := by
  obtain ⟨u, hu, hsim⟩ := h.exists_deployment
  obtain ⟨u', hlead, hsim', hsettled⟩ := hsim.exists_settled carries_inProcess i
  have hu' : Deployment mayFail opens lib calls w u' := Leads.trans hu hlead
  have hreturned' : (u'.thread i).status = .inr (.ok packet) := by
    generalize c.thread i = p at hsettled hreturned
    generalize u'.thread i = q at hsettled
    cases hsettled with
    | done a =>
      obtain rfl := Sum.inr.inj hreturned
      rfl
    | level _ => cases hreturned
    | within _ _ _ => cases hreturned
  have hsubmitted : SubmittedIfSent lib (calls i).transport (calls i).packet (.ok packet)
      (course u' i) := Reachable.returned hu' (fun _ _ _ _ _ _ _ => trivial)
    (always_request_submitted (calls i).stamp (calls i).packet) hreturned'
  obtain ⟨r, hanswer⟩ := hsubmitted rawSend hroute packet rfl
  rw [course_progress] at hanswer
  obtain ⟨x, hx, rfl, hr⟩ := exists_returned hanswer
  exact ⟨r, acknowledgedAs_of_returned hu' hsim' hx hr hroute⟩

/-- Between two configurations of a run, the expected nonces move only past what the node has
acknowledged. -/
theorem InProcess.advanced {p : Profile} (hw : w.db.Records p)
    (hopens : ∀ store, opens store = true → store.profile = p)
    (h : InProcess mayFail opens lib calls N w v c)
    (hlead : Leads ((deployment mayFail opens).sum N) c c') (sender : String) :
    Advanced (fun k => ∃ i t r, (calls i).tracked lib = some t ∧ t.sender = sender ∧
        t.l2Nonce = k ∧ AcknowledgedAs lib calls c' i r)
      (nextExpectedNonce c.world.1.db sender) (nextExpectedNonce c'.world.1.db sender) := by
  obtain ⟨u, hu, hsim⟩ := h.exists_deployment
  obtain ⟨u', hlead', hsim'⟩ := hsim.exists_leads carries_inProcess hlead
  have hu' : Deployment mayFail opens lib calls w u' := Leads.trans hu hlead'
  rw [← hsim.world, ← hsim'.world]
  refine (hu.advanced hw hopens hlead' sender).mono fun k _ hk => ?_
  obtain ⟨i, t, ht, hs, hk, -, y, hy, rfl, r, hr⟩ := hk
  obtain ⟨rawSend, hroute⟩ := exists_route_of_tracked ht
  exact ⟨y.tid, t, r, ht, hs, hk, acknowledgedAs_of_returned hu' hsim' hy hr hroute⟩

/-- **The whole system.** With the in-process submitter, whatever the store and the node do: the
deployment simulates every run of the system; between any two configurations of a run the expected
nonce of a sender moves only past nonces of raw transactions for each of which `submit_payload` has
returned the nonce and the id of a Kaspa transaction that was built from it and that the node has
acknowledged; and a request that has returned a hash has such an acknowledgement of its own. -/
theorem acknowledged_inProcess {p : Profile} (hw : w.db.Records p)
    (hopens : ∀ store, opens store = true → store.profile = p)
    (h : InProcess mayFail opens lib calls N w v c) :
    (∃ u, Deployment mayFail opens lib calls w u ∧ Delegation.Simulates (inProcess kaspa) c u ∧
      ∀ c', Leads ((deployment mayFail opens).sum N) c c' →
        ∃ u', Leads (deployment mayFail opens) u u' ∧
          Delegation.Simulates (inProcess kaspa) c' u') ∧
    (∀ c', Leads ((deployment mayFail opens).sum N) c c' → ∀ sender,
      Advanced (fun k => ∃ i t r, (calls i).tracked lib = some t ∧ t.sender = sender ∧
          t.l2Nonce = k ∧ AcknowledgedAs lib calls c' i r)
        (nextExpectedNonce c.world.1.db sender) (nextExpectedNonce c'.world.1.db sender)) ∧
    ∀ i rawSend packet, (calls i).transport.route lib (calls i).packet = .send rawSend →
      (c.thread i).status = .inr (.ok packet) → ∃ r, AcknowledgedAs lib calls c i r := by
  refine ⟨?_, fun c' hlead sender => h.advanced hw hopens hlead sender,
    fun _ _ _ hroute hreturned => h.exists_acknowledgedAs hroute hreturned⟩
  obtain ⟨u, hu, hsim⟩ := h.exists_deployment
  exact ⟨u, hu, hsim, fun c' hlead => hsim.exists_leads carries_inProcess hlead⟩

end Stack

/-! ### A request through the whole system -/

/-- The next `n` calls of request 0, to a store that does not fail and a node that accepts. -/
def throughMoves (n : ℕ) :
    List (Move ((deployment false opensSameProfile).sum (submitterMachine sampleKaspa))) :=
  List.replicate n (.run 0 (sampleOracle 1700000000000 (.error ""), sampleNode [1]))

/-- The packet that a request has returned. -/
def returnedPacket (c : InProcessConf sampleKaspa (CacheWorld sampleKaspa)) (i : ℕ) :
    Option ResponsePacket :=
  match (c.thread i).status with
  | .inr (.ok packet) => some packet
  | _ => none

theorem status_of_returnedPacket {c : InProcessConf sampleKaspa (CacheWorld sampleKaspa)} {i : ℕ}
    {packet : ResponsePacket} (h : returnedPacket c i = some packet) :
    (c.thread i).status = .inr (.ok packet) := by
  rw [returnedPacket] at h
  split at h
  next packet' hstatus =>
    obtain rfl := Option.some_inj.mp h
    exact hstatus
  next => cases h

/-- The seeded nonce of the request is passed, and the node acknowledged the transaction of the
request, which has returned. -/
theorem acknowledged_inProcess_through : ∃ c c',
    InProcess false opensSameProfile sampleExternals sampleCalls (submitterMachine sampleKaspa)
        openedWorld (CacheWorld.initial 0) c ∧
      Leads ((deployment false opensSameProfile).sum (submitterMachine sampleKaspa)) c c' ∧
      nextExpectedNonce c.world.1.db sampleSender = some 0 ∧
      nextExpectedNonce c'.world.1.db sampleSender = some 1 ∧
      (∃ i t r, (sampleCalls i).tracked sampleExternals = some t ∧ t.sender = sampleSender ∧
        t.l2Nonce = 0 ∧ AcknowledgedAs sampleExternals sampleCalls c' i r) ∧
      ∃ r, AcknowledgedAs sampleExternals sampleCalls c' 0 r := by
  have hplay : ((Conf.start
      (fun i => (inProcess sampleKaspa).expand ((sampleCalls i).program sampleExternals))
      (openedWorld, CacheWorld.initial 0)).play _ (throughMoves 3)).any (fun c =>
        decide (nextExpectedNonce c.world.1.db sampleSender = some 0) &&
          (c.play _ (throughMoves 20)).any fun c' =>
            decide (nextExpectedNonce c'.world.1.db sampleSender = some 1) &&
              (returnedPacket c' 0).isSome) = true := by decide +kernel
  obtain ⟨c, c', hc, hlead, hP, hQ⟩ := exists_leads_of_any hplay
  obtain ⟨hnext, hreturned⟩ := Bool.and_eq_true_iff.mp hQ
  obtain ⟨packet, hpacket⟩ := Option.isSome_iff_exists.mp hreturned
  have hseeded := of_decide_eq_true hP
  have hpassed := of_decide_eq_true hnext
  have hw := records_reconcile oneSecondStore Db.empty
  have hopens : ∀ store, opensSameProfile store = true → store.profile = oneSecondStore.profile :=
    fun store hopens => of_decide_eq_true hopens
  have h : InProcess false opensSameProfile sampleExternals sampleCalls
      (submitterMachine sampleKaspa) openedWorld (CacheWorld.initial 0) c := hc
  have h' : InProcess false opensSameProfile sampleExternals sampleCalls
      (submitterMachine sampleKaspa) openedWorld (CacheWorld.initial 0) c' := hc.trans hlead
  have hadvanced := (acknowledged_inProcess hw hopens h).2.1 c' hlead sampleSender
  rw [hseeded, hpassed] at hadvanced
  obtain ⟨rawSend, hroute⟩ := exists_route_of_tracked tracked_sampleCalls_zero
  exact ⟨c, c', h, hlead, hseeded, hpassed,
    hadvanced.between.2 0 (UInt64.le_refl 0) (by decide),
    (acknowledged_inProcess hw hopens h').2.2 0 rawSend packet hroute
      (status_of_returnedPacket hpacket)⟩

end FoundryIgra
