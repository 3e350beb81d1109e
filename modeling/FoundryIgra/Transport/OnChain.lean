import FoundryIgra.Payload.Decode
import FoundryIgra.Submitter.AcceptedBroadcasts
import FoundryIgra.Transport.InProcess

/-!
# What is on the chain

The transport, the in-process submitter and the builder of transactions in one system. What the node
has acknowledged can be read: the payload of the Kaspa transaction gives back exactly the raw
transaction that was sent, its id begins with the configured prefix, and it pays to the submitter's
own address only. So the expected nonces count what a reader of the chain recovers.

## Main definitions

* `PaysOwnKey`: a transaction pays to the key of the wallet.
* `Recoverable`: the raw transaction of a request can be read from an acknowledged transaction.

## Main results

* `recoverable_of_acknowledged`: an acknowledgement of a transaction of the builder is one.
* `recoverable_onChain`: what the expected nonces count, and what the requests have returned.
-/

namespace FoundryIgra

open Rust Store Concurrency

section OnChain

variable {kaspa : KaspaConsensus} {hexDecode : String → Except String (List UInt8)}
  {address : kaspa.PrivateKey → KaspaAddressPrefix → Except String String} {V : Type}

/-- The builder made whatever the building tasks returned. -/
def BuildsAll (c : InProcessConf (kaspa.externals hexDecode address) V) : Prop :=
  ∀ i e, Interface.lower e ∈ c.own i → BuildsWith e

/-- The one output of the transaction pays to the address, on the network of the transport, of the
key that the wallet of the transport has given among the events. -/
def PaysOwnKey (transport : IgraTransport)
    (own : List (TransportOps.sum (SubmitOps (kaspa.externals hexDecode address))).Event)
    (tx : KaspaTransaction kaspa.Script) : Prop :=
  ∃ privateKey network networkType addressPrefix sourceAddress value,
    Interface.lower (I := TransportOps) (L := SubmitOps (kaspa.externals hexDecode address))
      ⟨.resolvePrivateKey transport.kaspaWallet, .ok privateKey⟩ ∈ own ∧
    transport.kaspaNetwork = some network ∧
    kaspaNetworkDescriptor network = .ok (networkType, addressPrefix) ∧
    address privateKey addressPrefix = .ok sourceAddress ∧
    tx.outputs = [⟨value, kaspa.payToAddressScript sourceAddress⟩]

/-- The node acknowledged to request `i` a transaction from which its raw transaction can be read:
the id begins with the prefix of the transport, and the one output pays to the address of the key
that its own wallet has given. -/
def Recoverable (lib : Externals) (calls : ℕ → RequestCall)
    (c : InProcessConf (kaspa.externals hexDecode address) V) (i : ℕ) : Prop :=
  ∃ (rawSend : RawSendRequest) (txIdPrefix : String) (bytes : List UInt8) (nonce : UInt32)
      (tx : KaspaTransaction kaspa.Script) (txId : String),
    (calls i).transport.route lib (calls i).packet = .send rawSend ∧
    (calls i).transport.txIdPrefix = some txIdPrefix ∧
    decodeTxIdPrefix hexDecode txIdPrefix = .ok bytes ∧
    Interface.lower (I := TransportOps) (L := SubmitOps (kaspa.externals hexDecode address))
      ⟨.submitTransaction tx, .ok txId⟩ ∈ c.own i ∧
    decodePayload tx.payload = some ⟨0x94, rawSend.rawTx, nonce⟩ ∧ bytes <+: tx.id ∧
    PaysOwnKey (calls i).transport (c.own i) tx

variable {mayFail : Bool} {opens : IgraStore → Bool} {lib : Externals} {calls : ℕ → RequestCall}
  {N : Machine (SubmitOps (kaspa.externals hexDecode address)) V} {w : World} {v : V}
  {c c' : InProcessConf (kaspa.externals hexDecode address) V}

/-- What the builder made of the input of a request. -/
theorem recoverable_of_acknowledged (hsigning : SigningKeepsContent kaspa) (hbuilds : BuildsAll c)
    {i : ℕ} {r : IgraSubmitResult} (h : AcknowledgedAs lib calls c i r) :
    Recoverable lib calls c i := by
  obtain ⟨rawSend, txIdPrefix, request, es, hroute, hprefix, rfl, hown, -, input, tx, hfor, hbuild,
    hsubmit⟩ := h
  obtain ⟨elapsed, rounds, hrun⟩ := hbuilds i _ (hown _ hbuild) input (r.payloadNonce, tx) rfl
  obtain ⟨sel, k, -, -, -, hid, hpayload, -, houtputs⟩ :=
    exists_accepts_of_mineAndBuild hsigning hrun
  obtain ⟨network, addressPrefix, hnetwork, hdescriptor, haddress⟩ := hfor.source
  refine ⟨rawSend, txIdPrefix, input.txIdPrefix, UInt32.ofNat k, tx, r.kaspaTxId, hroute, hprefix,
    hfor.txIdPrefix, hown _ hsubmit, decodePayload_eq_some_iff.mpr ?_, hid, input.privateKey,
    network, input.networkType, addressPrefix, input.sourceAddress, _, hown _ hfor.keyed, hnetwork,
    hdescriptor, haddress, houtputs⟩
  have hdata : input.l2data = rawSend.rawTx := hfor.l2data
  rw [hpayload, PayloadParts.build, ← hdata, ← hfor.payloadHeader]
  rfl

/-- **What is on the chain.** With the in-process submitter and its builder, whatever the store and
the node do: between any two configurations of a run the expected nonce of a sender moves only past
nonces of raw transactions that can each be read from a Kaspa transaction which the node has
acknowledged, and so can be the raw transaction of a request that has returned a hash. -/
theorem recoverable_onChain {p : Profile} (hsigning : SigningKeepsContent kaspa)
    (hw : w.db.Records p) (hopens : ∀ store, opens store = true → store.profile = p)
    (h : InProcess mayFail opens lib calls N w v c)
    (hlead : Leads ((deployment mayFail opens).sum N) c c') (hbuilds : BuildsAll c') :
    (∀ sender, Advanced (fun k => ∃ i t, (calls i).tracked lib = some t ∧ t.sender = sender ∧
        t.l2Nonce = k ∧ Recoverable lib calls c' i)
      (nextExpectedNonce c.world.1.db sender) (nextExpectedNonce c'.world.1.db sender)) ∧
    ∀ i rawSend packet, (calls i).transport.route lib (calls i).packet = .send rawSend →
      (c'.thread i).status = .inr (.ok packet) → Recoverable lib calls c' i := by
  refine ⟨fun sender => (h.advanced hw hopens hlead sender).mono fun k _ hk => ?_,
    fun i rawSend packet hroute hreturned => ?_⟩
  · obtain ⟨i, t, r, ht, hs, hk, hack⟩ := hk
    exact ⟨i, t, ht, hs, hk, recoverable_of_acknowledged hsigning hbuilds hack⟩
  · have h' : InProcess mayFail opens lib calls N w v c' := Leads.trans h hlead
    obtain ⟨r, hack⟩ := h'.exists_acknowledgedAs hroute hreturned
    exact recoverable_of_acknowledged hsigning hbuilds hack

end OnChain

/-! ### A transaction of one request -/

/-- The next `n` calls of request 0, to a store that does not fail and a node that accepts what is
built. -/
def builtMoves (n : ℕ) :
    List (Move ((deployment false opensSameProfile).sum (submitterMachine sampleBuilder))) :=
  List.replicate n
    (.run 0 (sampleOracle 1700000000000 (.error ""), sampleAttempt false (.ok sampleTxId)))

/-- `buildsSample`, of an event of the whole system. -/
def buildsSampleBelow : (TransportOps.sum (SubmitOps sampleBuilder)).Event → Bool
  | ⟨.inr op, a⟩ => buildsSample ⟨op, a⟩
  | _ => true

theorem buildsAll_of_all {V : Type} {c : InProcessConf sampleBuilder V}
    (h : c.history.all (fun x => buildsSampleBelow x.event) = true) :
    BuildsAll c := by
  intro i e he
  obtain ⟨x, hx, -, hevent⟩ := Conf.mem_own.mp he
  have hbuilds := List.all_eq_true.mp h x hx
  rw [hevent] at hbuilds
  exact buildsWith_of_buildsSample hbuilds

/-- The seeded nonce of the request is passed, and its raw transaction is on the chain. -/
theorem recoverable_onChain_built :
    ∃ c c' : InProcessConf sampleBuilder (CacheWorld sampleBuilder),
      InProcess false opensSameProfile sampleExternals sampleCalls (submitterMachine sampleBuilder)
        openedWorld (CacheWorld.initial 0) c ∧
      Leads ((deployment false opensSameProfile).sum (submitterMachine sampleBuilder)) c c' ∧
      nextExpectedNonce c.world.1.db sampleSender = some 0 ∧
      nextExpectedNonce c'.world.1.db sampleSender = some 1 ∧
      ∃ i t, (sampleCalls i).tracked sampleExternals = some t ∧ t.sender = sampleSender ∧
        t.l2Nonce = 0 ∧ Recoverable sampleExternals sampleCalls c' i := by
  have hplay : ((Conf.start
      (fun i => (inProcess sampleBuilder).expand ((sampleCalls i).program sampleExternals))
      (openedWorld, CacheWorld.initial 0)).play _ (builtMoves 3)).any (fun c =>
        decide (nextExpectedNonce c.world.1.db sampleSender = some 0) &&
          (c.play _ (builtMoves 20)).any fun c' =>
            decide (nextExpectedNonce c'.world.1.db sampleSender = some 1) &&
              c'.history.all fun x => buildsSampleBelow x.event) = true := by decide +kernel
  obtain ⟨c, c', hc, hlead, hP, hQ⟩ := exists_leads_of_any hplay
  obtain ⟨hnext, hall⟩ := Bool.and_eq_true_iff.mp hQ
  have hseeded := of_decide_eq_true hP
  have hpassed := of_decide_eq_true hnext
  have h : InProcess false opensSameProfile sampleExternals sampleCalls
      (submitterMachine sampleBuilder) openedWorld (CacheWorld.initial 0) c := hc
  have hsigning : SigningKeepsContent outpointConsensus := signingKeepsContent_sample
  have hadvanced := (recoverable_onChain hsigning (records_reconcile oneSecondStore Db.empty)
    (fun store hopens => of_decide_eq_true hopens) h hlead (buildsAll_of_all hall)).1 sampleSender
  rw [hseeded, hpassed] at hadvanced
  exact ⟨c, c', h, hlead, hseeded, hpassed,
    hadvanced.between.2 0 (UInt64.le_refl 0) (by decide)⟩

end FoundryIgra
