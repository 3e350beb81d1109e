import FoundryIgra.Submitter.Submission

/-!
# What a submission returns

A submission that returns a result has broadcast a transaction that the node acknowledged: the
result names the id that the node answered with, and the nonce that the building task found; and the
building task was given what the request asks for, with the key that the wallet of the request gave
(`submitter.rs`, `submit_payload`).

## Main definitions

* `BuildInput.For`: what a building task is given for a request.
* `Keyed`: the wallet of a request has given a key.
* `Acknowledged`: a result is that of an acknowledged broadcast.

## Main results

* `acknowledged_of_trace`: every result of a submission is one, of a transaction for its request.
-/

namespace FoundryIgra

open Rust Concurrency Program

variable {lib : KaspaExternals} {α β : Type}

/-- The building task is given what the request asks for, and pays from the address of its key. -/
structure BuildInput.For (request : IgraSubmitRequest) (input : BuildInput lib) : Prop where
  payloadHeader : input.payloadHeader = 0x94
  l2data : input.l2data = request.rawTxBytes
  length_le : input.l2data.length ≤ igraMaxL2dataBytes
  txIdPrefix : decodeTxIdPrefix lib.hexDecode request.txIdPrefix = .ok input.txIdPrefix
  timeoutSecs : input.timeoutSecs = request.miningTimeoutSecs
  source : ∃ network addressPrefix, request.kaspaNetwork = some network ∧
    kaspaNetworkDescriptor network = .ok (input.networkType, addressPrefix) ∧
    lib.addressFromPrivateKey input.privateKey addressPrefix = .ok input.sourceAddress

/-- Among the events, the wallet of the request has given the key. -/
def Keyed (request : IgraSubmitRequest) (privateKey : lib.PrivateKey)
    (es : List (SubmitOps lib).Event) : Prop :=
  ⟨.resolvePrivateKey request.kaspaWallet, .ok privateKey⟩ ∈ es

/-- Among the events, a transaction was built from an input that meets `Q`, and the node
acknowledged it; `r` names its nonce and the id of the acknowledgement. -/
def Acknowledged (Q : BuildInput lib → Prop) (es : List (SubmitOps lib).Event)
    (r : IgraSubmitResult) : Prop :=
  ∃ (input : BuildInput lib) (tx : lib.Transaction), Q input ∧
    (⟨.buildTransaction input, .ok (.ok (r.payloadNonce, tx))⟩ : (SubmitOps lib).Event) ∈ es ∧
    (⟨.submitTransaction tx, .ok r.kaspaTxId⟩ : (SubmitOps lib).Event) ∈ es

variable {Q : BuildInput lib → Prop} {es : List (SubmitOps lib).Event} {r : IgraSubmitResult}
  {next : Submission lib (Except String IgraSubmitResult)}

theorem Acknowledged.mono {es' : List (SubmitOps lib).Event} (h : Acknowledged Q es r)
    (hsub : es ⊆ es') : Acknowledged Q es' r := by
  obtain ⟨input, tx, hinput, hbuild, hsubmit⟩ := h
  exact ⟨input, tx, hinput, hsub hbuild, hsub hsubmit⟩

/-- A value comes out of a `?` only where one went in. -/
theorem trace_orReturn {x : Except String α} {f : α → Submission lib (Except String β)} {b : β}
    (h : Trace (Submission.orReturn x f) es (done (.ok b))) :
    ∃ a, x = .ok a ∧ Trace (f a) es (done (.ok b)) := by
  cases x with
  | error err => cases (Trace.of_done h).2
  | ok a => exact ⟨a, rfl, h⟩

/-- A broadcast returns what the node acknowledged, or what follows it returns. -/
theorem trace_broadcast {forceRefresh : Bool} {payloadNonce : UInt64} {tx : lib.Transaction}
    (h : Trace (broadcast forceRefresh payloadNonce tx next) es (done (.ok r))) :
    (payloadNonce = r.payloadNonce ∧
      (⟨.submitTransaction tx, .ok r.kaspaTxId⟩ : (SubmitOps lib).Event) ∈ es) ∨
    ∃ es' ⊆ es, Trace next es' (done (.ok r)) := by
  obtain ⟨_, es₁, es₂, rfl, -, h⟩ := Trace.bind_done h
  obtain ⟨b, es₃, es₄, rfl, hsubmit, h⟩ := Trace.bind_done h
  obtain ⟨a, hexit, hmem⟩ := Trace.perform_done hsubmit
  obtain rfl : a = b := Option.some.inj hexit
  cases a with
  | ok txId =>
    obtain ⟨_, es₅, es₆, rfl, -, h⟩ := Trace.bind_done h
    obtain rfl := Except.ok.inj (done.inj (Trace.of_done h).2)
    exact Or.inl ⟨rfl, List.mem_append_left _ (List.mem_append_right _ hmem)⟩
  | error err =>
    cases forceRefresh with
    | true => cases (Trace.of_done h).2
    | false =>
      have hsub := List.Subset.trans (List.subset_append_left es₄ es₃)
        (List.subset_append_left (es₄ ++ es₃) es₁)
      exact Or.inr ⟨es₄, hsub, h⟩

/-- An attempt with outputs to pay with. -/
theorem trace_buildAndBroadcast {input : BuildInput lib} {forceRefresh : Bool} (hinput : Q input)
    (h : Trace (buildAndBroadcast input forceRefresh next) es (done (.ok r))) :
    Acknowledged Q es r ∨ ∃ es' ⊆ es, Trace next es' (done (.ok r)) := by
  obtain ⟨b, es₁, es₂, rfl, hbuild, h⟩ := Trace.bind_done h
  obtain ⟨a, hexit, hmem⟩ := Trace.perform_done hbuild
  obtain rfl : a = b := Option.some.inj hexit
  cases a with
  | error err => cases (Trace.of_done h).2
  | ok built =>
    obtain ⟨⟨payloadNonce, tx⟩, rfl, h⟩ := trace_orReturn h
    rcases trace_broadcast h with ⟨rfl, hsubmit⟩ | ⟨es', hsub, hnext⟩
    · exact Or.inl ⟨input, tx, hinput, List.mem_append_right _ hmem,
        List.mem_append_left _ hsubmit⟩
    · exact Or.inr ⟨es', List.Subset.trans hsub (List.subset_append_left ..), hnext⟩

/-- An attempt. -/
theorem trace_attempt {request : IgraSubmitRequest} {p : Prepared lib} {forceRefresh : Bool}
    (hp : ∀ utxos, Q (p.buildInput request utxos))
    (h : Trace (attempt request p forceRefresh next) es (done (.ok r))) :
    Acknowledged Q es r ∨ ∃ es' ⊆ es, Trace next es' (done (.ok r)) := by
  obtain ⟨loaded, es₁, es₂, rfl, -, h⟩ := Trace.bind_done h
  have hsub := List.subset_append_left es₂ es₁
  cases loaded with
  | error err => cases (Trace.of_done h).2
  | ok utxos =>
    simp only at h
    split_ifs at h
    · cases (Trace.of_done h).2
    · exact Or.inr ⟨es₂, hsub, h⟩
    · exact (trace_buildAndBroadcast (hp utxos) h).imp (fun hack => hack.mono hsub)
        fun ⟨es', hes', hnext⟩ => ⟨es', List.Subset.trans hes' hsub, hnext⟩

/-- A field that is required and there. -/
theorem requiredField_eq_ok {field s : String} {value : Option String}
    (h : requiredField field value = .ok s) : value = some s := by
  cases value with
  | none => cases h
  | some v => rw [Except.ok.inj h]

/-- The header of the L2 data. -/
theorem header_of_buildIgraL2data {rawTx l2data : List UInt8} {payloadCompression : Option String}
    {header : UInt8} (h : buildIgraL2data rawTx payloadCompression = .ok (header, l2data)) :
    header = 0x94 := by
  rw [buildIgraL2data] at h
  split_ifs at h
  exact (Prod.mk.inj (Except.ok.inj h)).1.symm

/-- The building task is given what the request asks for, and among the events the wallet of the
request has given the key that it signs with. -/
structure BuildInput.KeyedFor (request : IgraSubmitRequest) (es : List (SubmitOps lib).Event)
    (input : BuildInput lib) : Prop extends input.For request where
  keyed : Keyed request input.privateKey es

/-- **Submissions.** What a submission returns is the nonce and the id of a transaction that was
built as the request asks, with the key that its wallet gave, and that the node acknowledged. -/
theorem acknowledged_of_trace {request : IgraSubmitRequest}
    (h : Trace (submitPayload request : Submission lib _) es (done (.ok r))) :
    Acknowledged (BuildInput.KeyedFor request es) es r := by
  obtain ⟨⟨header, l2data⟩, hdata, h⟩ := trace_orReturn h
  simp only at h
  split_ifs at h with hsize
  · cases (Trace.of_done h).2
  obtain ⟨rpcUrl, -, h⟩ := trace_orReturn h
  obtain ⟨network, hnetwork, h⟩ := trace_orReturn h
  obtain ⟨⟨networkType, addressPrefix⟩, hdescriptor, h⟩ := trace_orReturn h
  obtain ⟨b, es₁, es₂, rfl, hkey, h⟩ := Trace.bind_done h
  obtain ⟨key, hexit, hmem⟩ := Trace.perform_done hkey
  obtain rfl : key = b := Option.some.inj hexit
  obtain ⟨privateKey, hprivate, h⟩ := trace_orReturn h
  rw [hprivate] at hmem
  obtain ⟨sourceAddress, haddress, h⟩ := trace_orReturn h
  obtain ⟨connected, es₃, es₄, rfl, -, h⟩ := Trace.bind_done h
  cases connected with
  | error err => cases (Trace.of_done h).2
  | ok _ =>
    obtain ⟨txIdPrefix, hprefix, h⟩ := trace_orReturn h
    let p : Prepared lib :=
      ⟨rpcUrl, network, networkType, privateKey, sourceAddress, header, l2data, txIdPrefix⟩
    have hfor : ∀ utxos,
        (p.buildInput request utxos).KeyedFor request (es₄ ++ es₃ ++ es₁) := fun _ =>
      { payloadHeader := header_of_buildIgraL2data hdata
        l2data := l2data_of_buildIgraL2data hdata
        length_le := Nat.le_of_not_lt hsize
        txIdPrefix := hprefix
        timeoutSecs := rfl
        source := ⟨network, addressPrefix, requiredField_eq_ok hnetwork, hdescriptor, haddress⟩
        keyed := List.mem_append_right _ hmem }
    have hsub : es₄ ⊆ es₄ ++ es₃ ++ es₁ :=
      List.Subset.trans (List.subset_append_left ..) (List.subset_append_left ..)
    rcases trace_attempt hfor h with hack | ⟨es', hes', h⟩
    · exact hack.mono hsub
    rcases trace_attempt hfor h with hack | ⟨es'', -, h⟩
    · exact hack.mono (List.Subset.trans hes' hsub)
    · cases (Trace.of_done h).2

end FoundryIgra
