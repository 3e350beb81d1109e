import FoundryIgra.Submitter.AcceptedBroadcasts
import FoundryIgra.Submitter.Keys
import FoundryIgra.Submitter.Provenance

/-!
# What a submission spends

Every transaction that a submission broadcasts was built by the submission itself, with the key that
its own wallet gave; it spends outputs that a node reported for the address of this key, and pays
them back to this address, less the estimated fee and one unit for each wrap of the mining nonce
(`submitter.rs`, `keys.rs`, `payload.rs`). Before its wallet has given a key a submission does
nothing else, so a wallet that names only an account of a keystore directory never submits.

## Main definitions

* `Authorised`: what holds at the calls of a submission, by the calls it has made.
* `ResolvesWith`: keys are resolved as in `keys.rs`, without a keystore directory.
* `Spends`: what a transaction spends, and what it pays.
* `FromOwnFunds`: a broadcast is paid from the funds of its own wallet.

## Main results

* `authorised_submitPayload`: every submission meets `Authorised` at its calls.
* `spends_of_built`: what the builder spends.
* `resolves_of_no_key`: submissions whose wallet gives no key.
* `spends_ownFunds`: the broadcasts of every run.
-/

namespace FoundryIgra

open Rust Concurrency

variable {lib : KaspaExternals}

/-! ### Who a submission acts for -/

/-- What holds at the calls of a submission, by the calls it has made: only its own wallet is asked
for a key, and nothing else is done before it has given one; it builds as the request asks, with
this key, and broadcasts what it has built. -/
def Authorised (request : IgraSubmitRequest) (made : (SubmitOps lib).Event → Prop) :
    SubmitOp lib → Prop
  | .resolvePrivateKey wallet => wallet = request.kaspaWallet
  | .buildTransaction input =>
    input.For request ∧ made ⟨.resolvePrivateKey request.kaspaWallet, .ok input.privateKey⟩
  | .submitTransaction tx => ∃ input nonce, made ⟨.buildTransaction input, .ok (.ok (nonce, tx))⟩
  | _ => ∃ privateKey, made ⟨.resolvePrivateKey request.kaspaWallet, .ok privateKey⟩

section Programs

variable {α β : Type} {request : IgraSubmitRequest}
  {made made' : (SubmitOps lib).Event → Prop} {es : List (SubmitOps lib).Event}

/-- More calls were made. -/
theorem Authorised.mono (hmade : ∀ e, made e → made' e) {op : SubmitOp lib}
    (h : Authorised request made op) : Authorised request made' op := by
  cases op with
  | resolvePrivateKey wallet => exact h
  | buildTransaction input => exact ⟨h.1, hmade _ h.2⟩
  | submitTransaction tx =>
    obtain ⟨input, nonce, hbuilt⟩ := h
    exact ⟨input, nonce, hmade _ hbuilt⟩
  | _ =>
    obtain ⟨privateKey, hkey⟩ := h
    exact ⟨privateKey, hmade _ hkey⟩

theorem monotone_authorised : Monotone (Authorised request : Assertion (SubmitOps lib)) :=
  fun _ _ hmade _ h => h.mono hmade

variable {privateKey : lib.PrivateKey}

theorem Keyed.mono {es' : List (SubmitOps lib).Event} (h : Keyed request privateKey es)
    (hsub : es ⊆ es') : Keyed request privateKey es' := hsub h

theorem Keyed.cons (h : Keyed request privateKey es) (e : (SubmitOps lib).Event) :
    Keyed request privateKey (e :: es) := List.mem_cons_of_mem _ h

theorem authorised_invalidateUtxoCache (hkey : Keyed request privateKey es) :
    Asserts (Authorised request) (fun _ _ => True)
      (invalidateUtxoCache : Submission lib Unit) es :=
  asserts_call ⟨_, hkey⟩ fun _ _ _ =>
    asserts_perform (I := SubmitOps lib) .clearCache ⟨_, hkey.cons _⟩ fun _ _ _ => trivial

theorem authorised_fetchUtxos (hkey : Keyed request privateKey es) (cacheKey sourceAddress : String)
    (readEpoch : UInt64) (forceRefresh : Bool) :
    Asserts (Authorised request) (fun _ _ => True)
      (fetchUtxos cacheKey sourceAddress readEpoch forceRefresh) es := by
  refine asserts_call ⟨_, hkey⟩ fun requestedAt b _ => ?_
  refine asserts_call ⟨_, hkey.cons _⟩ fun reply b _ => ?_
  cases b with
  | error err => exact asserts_pure trivial
  | ok entries =>
    exact asserts_call ⟨_, (hkey.cons _).cons _⟩ fun _ _ _ => asserts_pure trivial

theorem authorised_loadUtxos (hkey : Keyed request privateKey es)
    (rpcUrl network sourceAddress : String) (forceRefresh : Bool) :
    Asserts (Authorised request) (fun _ _ => True)
      (loadUtxos rpcUrl network sourceAddress forceRefresh) es := by
  refine asserts_call ⟨_, hkey⟩ fun _ readEpoch _ => ?_
  cases forceRefresh with
  | true => exact authorised_fetchUtxos (hkey.cons _) _ sourceAddress readEpoch true
  | false =>
    refine asserts_call ⟨_, hkey.cons _⟩ fun _ cached _ => ?_
    cases cached with
    | none => exact authorised_fetchUtxos ((hkey.cons _).cons _) _ sourceAddress readEpoch false
    | some utxos => exact asserts_pure trivial

variable {next : Submission lib (Except String IgraSubmitResult)}

/-- A broadcast of what was built. -/
theorem authorised_broadcast (hkey : Keyed request privateKey es)
    (hnext : ∀ es, Keyed request privateKey es →
      Asserts (Authorised request) (fun _ _ => True) next es)
    (forceRefresh : Bool) {input : BuildInput lib} {payloadNonce : UInt64} {tx : lib.Transaction}
    (hbuilt : ⟨.buildTransaction input, .ok (.ok (payloadNonce, tx))⟩ ∈ es) :
    Asserts (Authorised request) (fun _ _ => True)
      (broadcast forceRefresh payloadNonce tx next) es := by
  refine (authorised_invalidateUtxoCache hkey).bind fun _ es' hsub _ => ?_
  have hkey' := hkey.mono hsub
  refine asserts_call ⟨input, payloadNonce, hsub hbuilt⟩ fun _ b _ => ?_
  cases b with
  | ok txId =>
    exact (authorised_invalidateUtxoCache (hkey'.cons _)).bind fun _ _ _ _ => asserts_pure trivial
  | error err =>
    cases forceRefresh with
    | true => exact asserts_pure trivial
    | false => exact hnext _ (hkey'.cons _)

/-- **An attempt** builds with the key, and broadcasts what it has built. -/
theorem authorised_attempt {p : Prepared lib} (hkey : Keyed request p.privateKey es)
    (hfor : ∀ utxos, (p.buildInput request utxos).For request)
    (hnext : ∀ es, Keyed request p.privateKey es →
      Asserts (Authorised request) (fun _ _ => True) next es)
    (forceRefresh : Bool) :
    Asserts (Authorised request) (fun _ _ => True) (attempt request p forceRefresh next) es := by
  refine (authorised_loadUtxos hkey ..).bind fun loaded es' hsub _ => ?_
  have hkey' := hkey.mono hsub
  cases loaded with
  | error err => exact asserts_pure trivial
  | ok utxos =>
    show Asserts (Authorised request) _ (if utxos.entries.isEmpty = true then _ else _) es'
    split_ifs
    · exact asserts_pure trivial
    · exact hnext es' hkey'
    · refine asserts_call ⟨hfor utxos, hkey'⟩ fun joined b hb => ?_
      obtain rfl : joined = b := Option.some.inj hb
      cases joined with
      | error err => exact asserts_pure trivial
      | ok built =>
        refine asserts_orReturn fun r hr => ?_
        subst hr
        exact authorised_broadcast (hkey'.cons _) hnext forceRefresh List.mem_cons_self

theorem authorised_attempts {p : Prepared lib} (hkey : Keyed request p.privateKey es)
    (hfor : ∀ utxos, (p.buildInput request utxos).For request) :
    Asserts (Authorised request) (fun _ _ => True) (attempts request p) es := by
  refine authorised_attempt hkey hfor (fun es' hkey' => ?_) false
  exact authorised_attempt hkey' hfor (fun _ _ => asserts_pure trivial) true

/-- **Submissions.** Every submission meets `Authorised` at its calls. -/
theorem authorised_submitPayload (request : IgraSubmitRequest) :
    Asserts (Authorised request) (fun _ _ => True)
      (submitPayload request : Submission lib (Except String IgraSubmitResult)) [] := by
  rw [submitPayload]
  refine asserts_orReturn fun l2 hl2 => ?_
  show Asserts (Authorised request) _ (if l2.2.length > igraMaxL2dataBytes then _ else _) []
  split_ifs with hsize
  · exact asserts_pure trivial
  refine asserts_orReturn fun rpcUrl _ => asserts_orReturn fun network hnetwork => ?_
  refine asserts_orReturn fun descriptor hdescriptor => ?_
  refine asserts_call rfl fun resolved key hkey => ?_
  obtain rfl : resolved = key := Option.some.inj hkey
  refine asserts_orReturn fun privateKey hprivate => ?_
  subst hprivate
  refine asserts_orReturn fun sourceAddress haddress => ?_
  have hkeyed : Keyed request privateKey
      [⟨.resolvePrivateKey request.kaspaWallet, .ok privateKey⟩] := List.mem_cons_self
  refine asserts_call ⟨_, hkeyed⟩ fun _ connected _ => ?_
  cases connected with
  | error err => exact asserts_pure trivial
  | ok _ =>
    refine asserts_orReturn fun txIdPrefix htxid => ?_
    let p : Prepared lib :=
      ⟨rpcUrl, network, descriptor.1, privateKey, sourceAddress, l2.1, l2.2, txIdPrefix⟩
    have hfor : ∀ utxos, (p.buildInput request utxos).For request := fun _ =>
      { payloadHeader := header_of_buildIgraL2data hl2
        l2data := l2data_of_buildIgraL2data hl2
        length_le := Nat.le_of_not_lt hsize
        txIdPrefix := htxid
        timeoutSecs := rfl
        source := ⟨network, descriptor.2, requiredField_eq_ok hnetwork, hdescriptor, haddress⟩ }
    exact authorised_attempts (hkeyed.cons _) hfor

end Programs

/-! ### Runs -/

section Runs

variable {requests : ℕ → IgraSubmitRequest} {instant : ℕ} {c : SubmitterConf lib}

/-- In every run every call meets `Authorised`, by the calls that its submission made before. -/
theorem Submitting.authorised (h : Submitting requests instant c) :
    ∀ x ∈ c.history,
      Authorised (requests x.tid) (MadeBefore c.history x.tid (momentOf x)) x.event.1 :=
  h.asserted (A := fun i => Authorised (requests i)) (fun _ => monotone_authorised)
    fun i => authorised_submitPayload (requests i)

end Runs

/-! ### What a transaction spends -/

section Funds

variable {kaspa : KaspaConsensus} {hexDecode : String → Except String (List UInt8)}
  {address : kaspa.PrivateKey → KaspaAddressPrefix → Except String String}

/-- Keys are resolved without a keystore directory, from the files as they are at the time. -/
def ResolvesWith (keys : KeyLibraries kaspa.PrivateKey)
    (e : (SubmitOps (kaspa.externals hexDecode address)).Event) : Prop :=
  ∀ wallet r, e = ⟨.resolvePrivateKey wallet, r⟩ →
    ∃ files, r = resolveKaspaPrivateKey keys files wallet none

/-- A transaction spends a selection of the outputs that the building task was given, and pays one
output to its source address: what was spent, less the estimated fee and one unit for each wrap of
the nonce among the candidates that did not match. What is spent beyond a word is lost. -/
structure Spends (input : BuildInput (kaspa.externals hexDecode address))
    (sel : Selected kaspa.Script) (missed : ℕ) (tx : KaspaTransaction kaspa.Script) : Prop where
  selected : sel.selected.Subperm input.utxos
  inputs : tx.inputs.map TransactionInput.previousOutpoint =
    sel.selected.map RpcUtxosByAddressesEntry.outpoint
  firstMatch : ∃ elapsed, Accepts kaspa.transactionId input.txIdPrefix
    input.arguments.timeoutNanos elapsed (miningInput kaspa input.arguments sel) missed
  change : ∃ value, tx.outputs = [⟨value, kaspa.payToAddressScript input.sourceAddress⟩] ∧
    value.toNat + (estimatedFeeSompi tx.payload.length tx.inputs.length).toNat ≤
      (sel.selected.map amountOf).sum ∧
    min (sel.selected.map amountOf).sum (2 ^ 64 - 1) ≤ value.toNat +
      (estimatedFeeSompi tx.payload.length tx.inputs.length).toNat + missed / 2 ^ 32

/-- What the builder makes spends what it was given. -/
theorem spends_of_built (hsigning : SigningKeepsContent kaspa)
    {input : BuildInput (kaspa.externals hexDecode address)} {elapsed : ℕ → ℕ} {rounds : ℕ}
    {r : UInt64 × KaspaTransaction kaspa.Script}
    (h : mineAndBuildSignedPayloadTransaction kaspa input.arguments elapsed rounds =
      some (.ok r)) : ∃ sel missed, Spends input sel missed r.2 := by
  obtain ⟨sel, k, hsel, haccepts, -, -, hpayload, hinputs, houtputs⟩ :=
    exists_accepts_of_mineAndBuild hsigning h
  obtain ⟨count, -, hcount, heq, -, -, hvalue, -⟩ := selectUtxos_ok hsel
  have hlength : r.2.inputs.length = count := by
    rw [← List.length_map TransactionInput.previousOutpoint, hinputs, List.length_map, heq,
      List.length_take, length_largestFirst, min_eq_left hcount]
  have hfee : estimatedFeeSompi r.2.payload.length r.2.inputs.length =
      estimatedFeeSompi (payloadLenOf input.arguments.l2data) count := by
    rw [hpayload, length_buildPayloadWithNonce, hlength]
  have hperm : (largestFirst input.arguments.utxos).Perm input.arguments.utxos :=
    List.mergeSort_perm ..
  refine ⟨sel, k, ?_, hinputs, ⟨elapsed, haccepts⟩, _, houtputs, ?_, ?_⟩
  · rw [heq]
    exact (List.take_sublist ..).subperm.trans hperm.subperm
  · rw [hfee, toNat_loweredValue]
    omega
  · rw [hfee, toNat_loweredValue]
    omega

/-- Broadcast `x` of a transaction is paid from the funds of its own wallet: entry `z` of the same
submission built it as the request asks, with the key that the wallet gives, and it spends outputs
that a node reported for the address of this key. -/
structure FromOwnFunds (keys : KeyLibraries kaspa.PrivateKey) (requests : ℕ → IgraSubmitRequest)
    (c : SubmitterConf (kaspa.externals hexDecode address))
    (x z : CacheEntry (kaspa.externals hexDecode address))
    (input : BuildInput (kaspa.externals hexDecode address))
    (tx : KaspaTransaction kaspa.Script) : Prop where
  mem : z ∈ c.history
  tid : z.tid = x.tid
  lt : momentOf z < momentOf x
  built : ∃ nonce, z.event = ⟨.buildTransaction input, .ok (.ok (nonce, tx))⟩
  asked : input.For (requests x.tid)
  key : ∃ files, KeyFrom keys files (requests x.tid).kaspaWallet input.privateKey
  supplied : ∃ y, Supplied requests c z input y
  spends : ∃ sel missed, Spends input sel missed tx

variable {requests : ℕ → IgraSubmitRequest} {instant : ℕ}
  {c : SubmitterConf (kaspa.externals hexDecode address)} {keys : KeyLibraries kaspa.PrivateKey}

/-- The key that was resolved is one that the wallet gives. -/
theorem keyFrom_of_resolved (hkeys : ∀ x ∈ c.history, ResolvesWith keys x.event) {i moment : ℕ}
    {wallet : IgraKaspaWalletConfig} {privateKey : kaspa.PrivateKey}
    (h : MadeBefore c.history i moment ⟨.resolvePrivateKey wallet, .ok privateKey⟩) :
    ∃ files, KeyFrom keys files wallet privateKey := by
  obtain ⟨x, hx, -, hevent, -⟩ := h
  obtain ⟨files, hfiles⟩ := hkeys x hx _ _ hevent
  exact ⟨files, resolveKaspaPrivateKey_ok_iff.mp hfiles.symm⟩

/-- Every broadcast of a run is paid from the funds of its own wallet. -/
theorem fromOwnFunds_of_broadcast (hsigning : SigningKeepsContent kaspa)
    (hlib : SeparatorFree (kaspa.externals hexDecode address))
    (h : Submitting requests instant c) (hbuilds : ∀ x ∈ c.history, BuildsWith x.event)
    (hkeys : ∀ x ∈ c.history, ResolvesWith keys x.event)
    {x : CacheEntry (kaspa.externals hexDecode address)} (hx : x ∈ c.history)
    {tx : KaspaTransaction kaspa.Script} (hsubmit : x.event.1 = .submitTransaction tx) :
    ∃ z input, FromOwnFunds keys requests c x z input tx := by
  have hbroadcast := h.authorised x hx
  rw [hsubmit] at hbroadcast
  obtain ⟨input, nonce, z, hz, htid, hevent, hlt⟩ := hbroadcast
  have hbuild : z.event.1 = .buildTransaction input := by rw [hevent]
  have hsourced := h.sourced z hz
  rw [hbuild] at hsourced
  have hauthorised := h.authorised z hz
  rw [hbuild, htid] at hauthorised
  obtain ⟨hfor, hkey⟩ := hauthorised
  obtain ⟨elapsed, rounds, hrun⟩ := hbuilds z hz input (nonce, tx) hevent
  exact ⟨z, input, hz, htid, hlt, ⟨nonce, hevent⟩, hfor, keyFrom_of_resolved hkeys hkey,
    Supplied.of_sourced hlib h hsourced, spends_of_built hsigning hrun⟩

/-- A submission whose wallet gives no key asks for one, and does nothing else. -/
theorem resolves_of_no_key (h : Submitting requests instant c)
    (hkeys : ∀ x ∈ c.history, ResolvesWith keys x.event)
    {x : CacheEntry (kaspa.externals hexDecode address)} (hx : x ∈ c.history)
    (hnone : ∀ files privateKey, ¬KeyFrom keys files (requests x.tid).kaspaWallet privateKey) :
    x.event.1 = .resolvePrivateKey (requests x.tid).kaspaWallet := by
  have hno : ∀ privateKey, ¬MadeBefore c.history x.tid (momentOf x)
      ⟨.resolvePrivateKey (requests x.tid).kaspaWallet, .ok privateKey⟩ := by
    intro privateKey hmade
    obtain ⟨files, hfrom⟩ := keyFrom_of_resolved hkeys hmade
    exact hnone files privateKey hfrom
  have hauthorised := h.authorised x hx
  cases hop : x.event.1 with
  | resolvePrivateKey wallet =>
    rw [hop] at hauthorised
    rw [show wallet = _ from hauthorised]
  | buildTransaction input =>
    rw [hop] at hauthorised
    exact absurd hauthorised.2 (hno _)
  | submitTransaction tx =>
    rw [hop] at hauthorised
    obtain ⟨input, nonce, z, hz, htid, hevent, hlt⟩ := hauthorised
    have hbuild := h.authorised z hz
    rw [show z.event.1 = .buildTransaction input by rw [hevent], htid] at hbuild
    obtain ⟨y, hy, hyi, hyevent, hyz⟩ := hbuild.2
    exact absurd ⟨y, hy, hyi, hyevent, hyz.trans hlt⟩ (hno _)
  | _ =>
    rw [hop] at hauthorised
    obtain ⟨privateKey, hmade⟩ := hauthorised
    exact absurd hmade (hno privateKey)

/-- **Funds.** In every run of submissions on clones of one submitter, every transaction that a
submission broadcasts was built by the submission itself, with the key that its own wallet gives; it
spends outputs that a node reported for the address of this key, and pays all of it back to this
address but the estimated fee and one unit for each wrap of the nonce. A submission whose wallet
names neither a private key nor a mnemonic nor the file of a keystore asks for a key, and does
nothing else. -/
theorem spends_ownFunds (hsigning : SigningKeepsContent kaspa)
    (hlib : SeparatorFree (kaspa.externals hexDecode address))
    (h : Submitting requests instant c) (hbuilds : ∀ x ∈ c.history, BuildsWith x.event)
    (hkeys : ∀ x ∈ c.history, ResolvesWith keys x.event) :
    (∀ x ∈ c.history, ∀ tx, x.event.1 = .submitTransaction tx →
      ∃ z input, FromOwnFunds keys requests c x z input tx) ∧
    ∀ x ∈ c.history, (requests x.tid).kaspaWallet.privateKey = none →
      (requests x.tid).kaspaWallet.mnemonic = none →
      (requests x.tid).kaspaWallet.keystore = none →
        x.event.1 = .resolvePrivateKey (requests x.tid).kaspaWallet := by
  refine ⟨fun x hx tx hsubmit => ?_, fun x hx hprivate hmnemonic hkeystore => ?_⟩
  · exact fromOwnFunds_of_broadcast hsigning hlib h hbuilds hkeys hx hsubmit
  · exact resolves_of_no_key h hkeys hx fun _ _ =>
      not_keyFrom_of_account hprivate hmnemonic hkeystore

end Funds

/-! ### A wallet with a key, and one with an account -/

section Sample

/-- Libraries that read a key in hexadecimal digits. -/
def sampleKeys : KeyLibraries Unit where
  Mnemonic := String
  Seed := String
  ExtendedKey := String
  DerivationPath := String
  ChildNumber := UInt32
  parseB256 s := if s.toList.length = 64 ∧ s.toList.all isAsciiHexdigit then some () else none
  newMnemonic phrase := .ok phrase
  toSeed phrase passphrase := phrase ++ passphrase
  newExtendedKey seed := .ok seed
  parsePath path := .ok path
  derivePath key path := .ok (key ++ path)
  childNumber index := .ok index
  deriveChild key index := .ok (key ++ toString index)
  secretBytes _ := ()

/-- No files. -/
def sampleFiles : KeyFiles Unit where
  isFile _ := false
  readToString _ := .error "No such file or directory (os error 2)"
  join dir name := dir ++ "/" ++ name
  decryptKeystore _ _ := .error "No such file or directory (os error 2)"

/-- Submission 0 has a private key, and the others an account of a keystore directory. -/
def walletRequests (i : ℕ) : IgraSubmitRequest :=
  { sampleSubmission with
    kaspaWallet :=
      if i = 0 then
        { IgraKaspaWalletConfig.default with
          privateKey := some "0123456789abcdef0123456789abcdef0123456789abcdef0123456789abcdef" }
      else { IgraKaspaWalletConfig.default with keystoreAccount := some "kaspa" } }

/-- The call is a broadcast. -/
def SubmitOp.isSubmit {lib : KaspaExternals} : SubmitOp lib → Bool
  | .submitTransaction _ => true
  | _ => false

theorem SubmitOp.eq_of_isSubmit {lib : KaspaExternals} {op : SubmitOp lib}
    (h : op.isSubmit = true) : ∃ tx, op = .submitTransaction tx := by
  cases op with
  | submitTransaction tx => exact ⟨tx, rfl⟩
  | _ => cases h

/-- Submission 1 asks for a key, and submission 0 submits. -/
def walletMoves : List (Move (submitterMachine sampleBuilder)) :=
  .run 1 { sampleAttempt false (.error "") with
    key := resolveKaspaPrivateKey sampleKeys sampleFiles (walletRequests 1).kaspaWallet none } ::
  List.replicate 13 (.run 0 (sampleAttempt false (.ok sampleTxId)))

/-- What the sample libraries and files resolve. -/
def isSampleKey (wallet : IgraKaspaWalletConfig) (r : Except String Unit) : Bool :=
  decide (r = resolveKaspaPrivateKey sampleKeys sampleFiles wallet none)

/-- `isSampleKey`, of the keys among the events. -/
def resolvesSample : (SubmitOps sampleBuilder).Event → Bool
  | ⟨.resolvePrivateKey wallet, r⟩ => isSampleKey wallet r
  | _ => true

theorem resolvesWith_of_resolvesSample {e : (SubmitOps sampleBuilder).Event}
    (h : resolvesSample e = true) :
    ResolvesWith (sampleKeys : KeyLibraries outpointConsensus.PrivateKey) e := by
  rintro wallet r rfl
  have hr : r = resolveKaspaPrivateKey sampleKeys sampleFiles wallet none :=
    of_decide_eq_true (p := (_ : Except String Unit) = _) h
  exact ⟨sampleFiles, hr⟩

theorem separatorFree_sampleBuilder : SeparatorFree sampleBuilder := by
  rintro _ _ _ ⟨⟩
  decide

/-- Submission 0 broadcasts, and submission 1 has only asked for a key. -/
theorem spends_ownFunds_account : ∃ c : SubmitterConf sampleBuilder,
    Submitting walletRequests 0 c ∧
      (∃ x ∈ c.history, ∃ tx, x.event.1 = .submitTransaction tx ∧ ∃ z input,
        FromOwnFunds (sampleKeys : KeyLibraries outpointConsensus.PrivateKey) walletRequests c x z
          input tx) ∧
      ∃ x ∈ c.history, x.event.1 = .resolvePrivateKey (walletRequests 1).kaspaWallet := by
  have hplay : ((Conf.start (fun i => submitPayload (walletRequests i))
      (CacheWorld.initial 0)).play (submitterMachine sampleBuilder) walletMoves).any (fun c =>
        c.history.all (fun x => buildsSample x.event && resolvesSample x.event) &&
          c.history.any (fun x => x.event.1.isSubmit) && c.history.any fun x => x.tid == 1) =
      true := by
    decide +kernel
  obtain ⟨c, hc, hP⟩ := (Option.any_eq_true ..).mp hplay
  simp only [Bool.and_eq_true, List.all_eq_true, List.any_eq_true, beq_iff_eq] at hP
  obtain ⟨⟨hall, x, hx, hsubmit⟩, y, hy, hone⟩ := hP
  have h : Submitting walletRequests 0 c := ⟨walletMoves, hc⟩
  have hsigning : SigningKeepsContent outpointConsensus := signingKeepsContent_sample
  obtain ⟨hbroadcasts, hidle⟩ := spends_ownFunds hsigning separatorFree_sampleBuilder h
    (fun x hx => buildsWith_of_buildsSample (hall x hx).1)
    (fun x hx => resolvesWith_of_resolvesSample (hall x hx).2)
  obtain ⟨tx, htx⟩ := SubmitOp.eq_of_isSubmit hsubmit
  have hasked := hidle y hy (by rw [hone]; rfl) (by rw [hone]; rfl) (by rw [hone]; rfl)
  rw [hone] at hasked
  exact ⟨c, h, ⟨x, hx, tx, htx, hbroadcasts x hx tx htx⟩, y, hy, hasked⟩

end Sample

end FoundryIgra
