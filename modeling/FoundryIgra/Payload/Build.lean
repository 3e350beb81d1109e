import FoundryIgra.Payload.Mining
import FoundryIgra.Submitter.Request

/-!
# Building the Kaspa transaction

`mine_and_build_signed_payload_transaction` (`payload.rs`): select unspent outputs, mine, sign, and
check the mass. The Kaspa libraries (the script of an address, the transaction id, signing and the
mass calculator) are parameters; masses are natural numbers.

The mining loop has no bound of its own, so the function is run for a number of rounds and returns
nothing when they are used up; once the clock has passed the timeout it returns
(`exists_mineAndBuild_eq_some`).

## Main definitions

* `KaspaConsensus`: the libraries.
* `BuildArguments`, `mineAndBuildSignedPayloadTransaction`.
* `SigningKeepsContent`: what is relied on of signing.
* `AsRequested`: a transaction is what was asked for.

## Main results

* `mineAndBuild_ok`: what a transaction went through.
* `asRequested_of_mineAndBuild`: a transaction that is built is what was asked for.
-/

namespace FoundryIgra

open Rust

/-- Maximum standard Kaspa transaction mass. -/
def maxStandardKaspaTxMass : ℕ := 100000

/-- The Kaspa libraries of the builder; an address is its display text. -/
structure KaspaConsensus where
  PrivateKey : Type
  Script : Type
  /-- `pay_to_address_script`. -/
  payToAddressScript : String → Script
  transactionId : TransactionContent Script → List UInt8
  /-- `sign_with_multiple_v2(…).fully_signed()`. -/
  sign : KaspaTransaction Script → List (UtxoEntry Script) → PrivateKey →
    Except String (KaspaTransaction Script)
  verify : KaspaTransaction Script → List (UtxoEntry Script) → Except String Unit
  /-- The largest of the masses of `calc_non_contextual_masses`. -/
  nonContextualMass : KaspaNetworkType → KaspaTransaction Script → ℕ
  /-- The mass of `calc_contextual_masses`. -/
  contextualMass : KaspaNetworkType → KaspaTransaction Script → List (UtxoEntry Script) → Option ℕ

/-- The arguments of `mine_and_build_signed_payload_transaction`. -/
structure BuildArguments (kaspa : KaspaConsensus) where
  privateKey : kaspa.PrivateKey
  sourceAddress : String
  networkType : KaspaNetworkType
  payloadHeader : UInt8
  l2data : List UInt8
  txIdPrefix : List UInt8
  timeoutNanos : ℕ
  utxos : List (RpcUtxosByAddressesEntry kaspa.Script)

/-- The message when the mass is above the limit. -/
def massLimitError (mass : ℕ) : String :=
  "IGRA submit error: Kaspa transaction mass " ++ toString mass ++ " exceeds standard limit " ++
    toString maxStandardKaspaTxMass

section Build

variable (kaspa : KaspaConsensus)

/-- `TransactionInput::new` for an unspent output. -/
def transactionInput {Script : Type} (u : RpcUtxosByAddressesEntry Script) : TransactionInput where
  previousOutpoint := u.outpoint
  signatureScript := []
  sequence := 0
  sigOpCount := 1

/-- What is mined, for a selection. -/
def miningInput (args : BuildArguments kaspa) (sel : Selected kaspa.Script) :
    MiningInput kaspa.Script where
  inputs := sel.selected.map transactionInput
  outputValue := sel.outputValue
  scriptPublicKey := kaspa.payToAddressScript args.sourceAddress
  payloadHeader := args.payloadHeader
  l2data := args.l2data

/-- Signing, and the checks of the signatures and of the id. -/
def signMined (args : BuildArguments kaspa) (entries : List (UtxoEntry kaspa.Script))
    (tx : KaspaTransaction kaspa.Script) : Except String (KaspaTransaction kaspa.Script) :=
  match kaspa.sign tx entries args.privateKey with
  | .error err => .error ("IGRA submit error: failed to sign Kaspa tx: " ++ err)
  | .ok signed =>
    match kaspa.verify signed entries with
    | .error err => .error ("IGRA submit error: invalid Kaspa signature set: " ++ err)
    | .ok () =>
      if args.txIdPrefix.isPrefixOf signed.id then .ok signed
      else .error
        "IGRA submit error: mined Kaspa txid prefix changed after signing; refusing to broadcast"

/-- The mass check. -/
def checkMass (networkType : KaspaNetworkType) (entries : List (UtxoEntry kaspa.Script))
    (signed : KaspaTransaction kaspa.Script) : Except String (KaspaTransaction kaspa.Script) :=
  match kaspa.contextualMass networkType signed entries with
  | none => .error "IGRA submit error: failed to calculate Kaspa tx storage mass"
  | some contextual =>
    let mass := max contextual (kaspa.nonContextualMass networkType signed)
    if maxStandardKaspaTxMass < mass then .error (massLimitError mass)
    else .ok { signed with mass := mass }

/-- Signing and the mass check of a mined transaction. -/
def signAndCheck (args : BuildArguments kaspa) (sel : Selected kaspa.Script)
    (mined : UInt32 × KaspaTransaction kaspa.Script) :
    Except String (UInt64 × KaspaTransaction kaspa.Script) :=
  let entries := sel.selected.map RpcUtxosByAddressesEntry.utxoEntry
  match signMined kaspa args entries mined.2 with
  | .error err => .error err
  | .ok signed =>
    match checkMass kaspa args.networkType entries signed with
    | .error err => .error err
    | .ok tx => .ok (mined.1.toUInt64, tx)

/-- `mine_and_build_signed_payload_transaction`, with at most `rounds` rounds of mining. -/
def mineAndBuildSignedPayloadTransaction (args : BuildArguments kaspa) (elapsed : ℕ → ℕ)
    (rounds : ℕ) : Option (Except String (UInt64 × KaspaTransaction kaspa.Script)) :=
  if args.utxos.isEmpty then some (.error (insufficientUtxosError args.sourceAddress))
  else if args.txIdPrefix.isEmpty then
    some (.error "IGRA config error: `tx_id_prefix` cannot be empty")
  else
    match selectUtxos args.sourceAddress (payloadLenOf args.l2data) args.utxos with
    | .error err => some (.error err)
    | .ok sel =>
      match mine kaspa.transactionId args.txIdPrefix args.timeoutNanos elapsed
          (miningInput kaspa args sel) rounds with
      | none => none
      | some (.error err) => some (.error err)
      | some (.ok mined) => some (signAndCheck kaspa args sel mined)

/-- Signing leaves the id, the payload, the outpoints of the inputs and the outputs. -/
def SigningKeepsContent : Prop :=
  ∀ tx entries privateKey signed, kaspa.sign tx entries privateKey = .ok signed →
    signed.id = tx.id ∧ signed.payload = tx.payload ∧
      signed.inputs.map TransactionInput.previousOutpoint =
        tx.inputs.map TransactionInput.previousOutpoint ∧
      signed.outputs = tx.outputs

variable {kaspa} {args : BuildArguments kaspa} {elapsed : ℕ → ℕ} {rounds : ℕ}

/-- With a prefix and a selection, the function mines and then signs. -/
theorem mineAndBuild_eq (hpre : args.txIdPrefix ≠ []) {sel : Selected kaspa.Script}
    (hsel : selectUtxos args.sourceAddress (payloadLenOf args.l2data) args.utxos = .ok sel) :
    mineAndBuildSignedPayloadTransaction kaspa args elapsed rounds =
      match mine kaspa.transactionId args.txIdPrefix args.timeoutNanos elapsed
          (miningInput kaspa args sel) rounds with
      | none => none
      | some (.error err) => some (.error err)
      | some (.ok mined) => some (signAndCheck kaspa args sel mined) := by
  have hutxos : args.utxos.isEmpty = false := by
    obtain ⟨k, hpos, hk, -⟩ := selectUtxos_ok hsel
    rw [List.isEmpty_eq_false_iff, ← List.length_pos_iff]
    omega
  rw [mineAndBuildSignedPayloadTransaction, hutxos, List.isEmpty_eq_false_iff.mpr hpre, hsel]
  rfl

/-- When the first candidate matches in time, it is signed. -/
theorem mineAndBuild_first (hpre : args.txIdPrefix ≠ []) {sel : Selected kaspa.Script}
    (hsel : selectUtxos args.sourceAddress (payloadLenOf args.l2data) args.utxos = .ok sel)
    (hmatch : Matches kaspa.transactionId args.txIdPrefix (miningInput kaspa args sel) 0)
    (htime : elapsed 0 ≤ args.timeoutNanos) (hrounds : 0 < rounds) :
    mineAndBuildSignedPayloadTransaction kaspa args elapsed rounds =
      some (signAndCheck kaspa args sel
        (0, candidateAt kaspa.transactionId (miningInput kaspa args sel) 0)) := by
  have hmine : mine kaspa.transactionId args.txIdPrefix args.timeoutNanos elapsed
      (miningInput kaspa args sel) rounds =
        some (.ok (0, candidateAt kaspa.transactionId (miningInput kaspa args sel) 0)) := by
    refine mine_eq_ok_iff.mpr ⟨0, hrounds, ⟨hmatch, fun j hj => ?_, fun j hj => ?_⟩, rfl, rfl⟩
    · omega
    · obtain rfl := Nat.le_zero.mp hj
      exact htime
  rw [mineAndBuild_eq hpre hsel, hmine]

/-- The function returns once the clock has passed the timeout. -/
theorem exists_mineAndBuild_eq_some {k : ℕ} (hk : args.timeoutNanos < elapsed k)
    (hrounds : k < rounds) :
    ∃ r, mineAndBuildSignedPayloadTransaction kaspa args elapsed rounds = some r := by
  rw [mineAndBuildSignedPayloadTransaction]
  split_ifs
  · exact ⟨_, rfl⟩
  · exact ⟨_, rfl⟩
  · cases selectUtxos args.sourceAddress (payloadLenOf args.l2data) args.utxos with
    | error err => exact ⟨_, rfl⟩
    | ok sel =>
      have hmine : ∃ r, mine kaspa.transactionId args.txIdPrefix args.timeoutNanos elapsed
          (miningInput kaspa args sel) rounds = some r := exists_mine_eq_some hk hrounds
      obtain ⟨r, hr⟩ := hmine
      simp only [hr]
      cases r with
      | error err => exact ⟨_, rfl⟩
      | ok mined => exact ⟨_, rfl⟩

/-- What was signed. -/
theorem signMined_ok {entries : List (UtxoEntry kaspa.Script)}
    {tx signed : KaspaTransaction kaspa.Script}
    (h : signMined kaspa args entries tx = .ok signed) :
    kaspa.sign tx entries args.privateKey = .ok signed ∧ args.txIdPrefix <+: signed.id := by
  rw [signMined] at h
  cases hsign : kaspa.sign tx entries args.privateKey with
  | error err => simp [hsign] at h
  | ok tx' =>
    cases hverify : kaspa.verify tx' entries with
    | error err => simp [hsign, hverify] at h
    | ok _ =>
      simp only [hsign, hverify, List.isPrefixOf_iff_prefix] at h
      split_ifs at h with hpre
      obtain rfl := Except.ok.inj h
      exact ⟨rfl, hpre⟩

/-- What the mass check lets through. -/
theorem checkMass_ok {networkType : KaspaNetworkType} {entries : List (UtxoEntry kaspa.Script)}
    {signed tx : KaspaTransaction kaspa.Script}
    (h : checkMass kaspa networkType entries signed = .ok tx) :
    ∃ mass ≤ maxStandardKaspaTxMass, tx = { signed with mass := mass } := by
  rw [checkMass] at h
  cases hmass : kaspa.contextualMass networkType signed entries with
  | none => simp [hmass] at h
  | some contextual =>
    simp only [hmass] at h
    split_ifs at h with hlimit
    exact ⟨_, Nat.not_lt.mp hlimit, (Except.ok.inj h).symm⟩

/-- What was signed and checked: the signed transaction, with its mass. -/
theorem signAndCheck_ok {sel : Selected kaspa.Script}
    {mined : UInt32 × KaspaTransaction kaspa.Script} {n : UInt64}
    {tx : KaspaTransaction kaspa.Script} (h : signAndCheck kaspa args sel mined = .ok (n, tx)) :
    n = mined.1.toUInt64 ∧ ∃ signed mass,
      kaspa.sign mined.2 (sel.selected.map RpcUtxosByAddressesEntry.utxoEntry) args.privateKey =
        .ok signed ∧
      args.txIdPrefix <+: signed.id ∧ mass ≤ maxStandardKaspaTxMass ∧
      tx = { signed with mass := mass } := by
  simp only [signAndCheck] at h
  cases hsigned : signMined kaspa args (sel.selected.map RpcUtxosByAddressesEntry.utxoEntry)
      mined.2 with
  | error err => simp [hsigned] at h
  | ok signed =>
    rw [hsigned] at h
    obtain ⟨hsign, hpre⟩ := signMined_ok hsigned
    cases hcheck : checkMass kaspa args.networkType
        (sel.selected.map RpcUtxosByAddressesEntry.utxoEntry) signed with
    | error err => simp [hcheck] at h
    | ok tx' =>
      simp only [hcheck, Except.ok.injEq, Prod.mk.injEq] at h
      obtain ⟨rfl, rfl⟩ := h
      obtain ⟨mass, hmass, rfl⟩ := checkMass_ok hcheck
      exact ⟨rfl, signed, mass, hsign, hpre, hmass, rfl⟩

/-- **What a transaction that is built went through.** -/
theorem mineAndBuild_ok {r : UInt64 × KaspaTransaction kaspa.Script}
    (h : mineAndBuildSignedPayloadTransaction kaspa args elapsed rounds = some (.ok r)) :
    args.txIdPrefix ≠ [] ∧ ∃ sel mined,
      selectUtxos args.sourceAddress (payloadLenOf args.l2data) args.utxos = .ok sel ∧
      mine kaspa.transactionId args.txIdPrefix args.timeoutNanos elapsed
        (miningInput kaspa args sel) rounds = some (.ok mined) ∧
      signAndCheck kaspa args sel mined = .ok r := by
  have hpre : args.txIdPrefix ≠ [] := by
    intro hnil
    rw [mineAndBuildSignedPayloadTransaction, hnil] at h
    split_ifs at h with hutxos hempty
    · simp at h
    · simp at h
    · exact hempty rfl
  refine ⟨hpre, ?_⟩
  cases hsel : selectUtxos args.sourceAddress (payloadLenOf args.l2data) args.utxos with
  | error err =>
    rw [mineAndBuildSignedPayloadTransaction, hsel] at h
    split_ifs at h
    all_goals simp at h
  | ok sel =>
    rw [mineAndBuild_eq hpre hsel] at h
    cases hmine : mine kaspa.transactionId args.txIdPrefix args.timeoutNanos elapsed
        (miningInput kaspa args sel) rounds with
    | none => simp [hmine] at h
    | some out =>
      cases out with
      | error err => simp [hmine] at h
      | ok mined =>
        rw [hmine] at h
        exact ⟨sel, mined, rfl, hmine, Option.some.inj h⟩

end Build

/-! ### What is built -/

section Requested

variable {kaspa : KaspaConsensus}

/-- A transaction is what was asked for: a matching id, the payload with its nonce, the selected
outpoints, and one output that leaves the fee. -/
structure AsRequested (args : BuildArguments kaspa) (sel : Selected kaspa.Script) (n : UInt64)
    (tx : KaspaTransaction kaspa.Script) : Prop where
  id_matches : args.txIdPrefix <+: tx.id
  nonce_lt : n.toNat < 2 ^ 32
  payload_eq : tx.payload =
    buildPayloadWithNonce args.payloadHeader args.l2data (UInt32.ofNat n.toNat)
  first_byte : tx.payload.head? = some args.payloadHeader
  middle_bytes : (tx.payload.drop 1).take args.l2data.length = args.l2data
  last_bytes : fromBeBytes (tx.payload.drop (tx.payload.length - 4)) = n.toNat
  inputs_eq : tx.inputs.map TransactionInput.previousOutpoint =
    sel.selected.map RpcUtxosByAddressesEntry.outpoint
  inputs_nodup : (tx.inputs.map TransactionInput.previousOutpoint).Nodup
  leaves_fee : ∃ out, tx.outputs = [out] ∧
    out.value.toNat + (estimatedFeeSompi tx.payload.length tx.inputs.length).toNat ≤
      (sel.selected.map amountOf).sum

/-- A transaction takes the first candidate that matches: by the number of the wrap, then by the
nonce. -/
def IsFirstMatch (args : BuildArguments kaspa) (sel : Selected kaspa.Script) (n : UInt64)
    (tx : KaspaTransaction kaspa.Script) : Prop :=
  ∃ wraps, tx.outputs =
      [⟨loweredValue sel.outputValue wraps, kaspa.payToAddressScript args.sourceAddress⟩] ∧
    ∀ wraps' (nonce' : UInt32), wraps' < wraps ∨ wraps' = wraps ∧ nonce'.toNat < n.toNat →
      ¬args.txIdPrefix <+:
        (candidate kaspa.transactionId (miningInput kaspa args sel) wraps' nonce').id

variable {args : BuildArguments kaspa} {elapsed : ℕ → ℕ} {rounds : ℕ}

/-- What signing leaves of the mined transaction. -/
theorem exists_accepts_of_mineAndBuild (hsigning : SigningKeepsContent kaspa) {n : UInt64}
    {tx : KaspaTransaction kaspa.Script}
    (h : mineAndBuildSignedPayloadTransaction kaspa args elapsed rounds = some (.ok (n, tx))) :
    ∃ sel k, selectUtxos args.sourceAddress (payloadLenOf args.l2data) args.utxos = .ok sel ∧
      Accepts kaspa.transactionId args.txIdPrefix args.timeoutNanos elapsed
        (miningInput kaspa args sel) k ∧
      n.toNat = k % 2 ^ 32 ∧ args.txIdPrefix <+: tx.id ∧
      tx.payload = buildPayloadWithNonce args.payloadHeader args.l2data (UInt32.ofNat k) ∧
      tx.inputs.map TransactionInput.previousOutpoint =
        sel.selected.map RpcUtxosByAddressesEntry.outpoint ∧
      tx.outputs = [⟨loweredValue sel.outputValue (k / 2 ^ 32),
        kaspa.payToAddressScript args.sourceAddress⟩] := by
  obtain ⟨-, sel, ⟨nonce, mined⟩, hsel, hmine, hcheck⟩ := mineAndBuild_ok h
  obtain ⟨k, -, haccepts, rfl, rfl⟩ := mine_eq_ok_iff.mp hmine
  obtain ⟨rfl, signed, mass, hsign, hpre, -, rfl⟩ := signAndCheck_ok hcheck
  obtain ⟨-, hpayload, hinputs, houtputs⟩ := hsigning _ _ _ _ hsign
  refine ⟨sel, k, hsel, haccepts, ?_, hpre, hpayload, ?_, houtputs⟩
  · rw [UInt32.toNat_toUInt64, UInt32.toNat_ofNat']
  · refine hinputs.trans ?_
    change (sel.selected.map transactionInput).map _ = _
    rw [List.map_map]
    rfl

/-- The outpoints of a selection are distinct where those of the list are. -/
theorem nodup_selected {sourceAddress : String} {payloadLen : ℕ}
    {utxos : List (RpcUtxosByAddressesEntry kaspa.Script)} {sel : Selected kaspa.Script}
    (hnodup : (utxos.map RpcUtxosByAddressesEntry.outpoint).Nodup)
    (hsel : selectUtxos sourceAddress payloadLen utxos = .ok sel) :
    (sel.selected.map RpcUtxosByAddressesEntry.outpoint).Nodup := by
  obtain ⟨k, -, -, heq, -⟩ := selectUtxos_ok hsel
  have hperm : (largestFirst utxos).Perm utxos := List.mergeSort_perm ..
  rw [heq]
  exact ((hperm.map _).nodup_iff.mpr hnodup).sublist ((List.take_sublist ..).map _)

/-- **What is built is what was asked for**, from the first candidate that matches. -/
theorem asRequested_of_mineAndBuild
    (hnodup : (args.utxos.map RpcUtxosByAddressesEntry.outpoint).Nodup)
    (hsigning : SigningKeepsContent kaspa) {n : UInt64} {tx : KaspaTransaction kaspa.Script}
    (h : mineAndBuildSignedPayloadTransaction kaspa args elapsed rounds = some (.ok (n, tx))) :
    ∃ sel, selectUtxos args.sourceAddress (payloadLenOf args.l2data) args.utxos = .ok sel ∧
      AsRequested args sel n tx ∧ IsFirstMatch args sel n tx := by
  obtain ⟨sel, k, hsel, haccepts, hn, hpre, hpayload, hinputs, houtputs⟩ :=
    exists_accepts_of_mineAndBuild hsigning h
  have hnonce : UInt32.ofNat k = UInt32.ofNat n.toNat := by
    rw [← UInt32.toNat_inj, UInt32.toNat_ofNat', UInt32.toNat_ofNat', hn, Nat.mod_mod]
  have hlast : (UInt32.ofNat k).toNat = n.toNat := by rw [UInt32.toNat_ofNat', hn]
  obtain ⟨count, -, hcount, heq, -, -, hvalue, -⟩ := selectUtxos_ok hsel
  have hlength : tx.inputs.length = count := by
    rw [← List.length_map TransactionInput.previousOutpoint, hinputs, List.length_map, heq,
      List.length_take, length_largestFirst, min_eq_left hcount]
  refine ⟨sel, hsel, ?_, k / 2 ^ 32, houtputs, ?_⟩
  · exact
      { id_matches := hpre
        nonce_lt := by omega
        payload_eq := hnonce ▸ hpayload
        first_byte := by rw [hpayload, buildPayloadWithNonce, List.head?_cons]
        middle_bytes := by rw [hpayload, take_drop_buildPayloadWithNonce]
        last_bytes := by rw [hpayload, fromBeBytes_drop_buildPayloadWithNonce, hlast]
        inputs_eq := hinputs
        inputs_nodup := hinputs ▸ nodup_selected hnodup hsel
        leaves_fee := by
          refine ⟨_, houtputs, ?_⟩
          rw [hpayload, length_buildPayloadWithNonce, hlength, toNat_loweredValue]
          omega }
  · -- an earlier candidate is the candidate of an earlier round
    intro wraps' nonce' hearlier hmatch
    have hlt := nonce'.toNat_lt
    refine haccepts.first (wraps' * 2 ^ 32 + nonce'.toNat) (by omega) ?_
    rw [Matches, candidateAt_add]
    exact hmatch

end Requested

/-! ### Masses -/

/-- The size-based mass: four times the estimated serialized size of a transaction with one
output. -/
def sizeMass (inputs payloadLen : ℕ) : ℕ := 4 * (146 + 118 * inputs + payloadLen)

/-- The storage mass of a transaction with one output. -/
def storageMass (amounts : List ℕ) (value : ℕ) : ℕ :=
  10 ^ 12 / value - (amounts.map fun amount => 10 ^ 12 / amount).sum

/-- Libraries with one key, the payload as the transaction id, and the masses above. -/
def sampleConsensus : KaspaConsensus where
  PrivateKey := Unit
  Script := String
  payToAddressScript address := address
  transactionId content := content.payload
  sign tx _ _ := .ok
    { tx with inputs := tx.inputs.map fun i => { i with signatureScript := List.replicate 66 0 } }
  verify _ _ := .ok ()
  nonContextualMass _ tx := sizeMass tx.inputs.length tx.payload.length
  contextualMass _ tx entries :=
    match tx.outputs with
    | [out] => some (storageMass (entries.map fun e => e.amount.toNat) out.value.toNat)
    | _ => none

/-- A build for a wallet. -/
def sampleArguments (l2data : List UInt8) (utxos : List (RpcUtxosByAddressesEntry String)) :
    BuildArguments sampleConsensus where
  privateKey := ()
  sourceAddress := "wallet"
  networkType := .testnet
  payloadHeader := 0x94
  l2data := l2data
  txIdPrefix := [0x94]
  timeoutNanos := 1000
  utxos := utxos

/-- What signing makes of a first candidate. -/
def sampleSigned (l2data : List UInt8) (utxos : List (RpcUtxosByAddressesEntry String))
    (sel : Selected String) : KaspaTransaction String :=
  let tx := candidateAt sampleConsensus.transactionId
    (miningInput sampleConsensus (sampleArguments l2data utxos) sel) 0
  { tx with inputs := tx.inputs.map fun i => { i with signatureScript := List.replicate 66 0 } }

theorem signingKeepsContent_sample : SigningKeepsContent sampleConsensus := by
  intro tx entries privateKey signed h
  obtain rfl := Except.ok.inj h
  refine ⟨rfl, rfl, ?_, rfl⟩
  change (tx.inputs.map _).map _ = _
  rw [List.map_map]
  rfl

/-- The first candidate matches. -/
theorem matches_sample (l2data : List UInt8) (utxos : List (RpcUtxosByAddressesEntry String))
    (sel : Selected String) :
    Matches sampleConsensus.transactionId [0x94]
      (miningInput sampleConsensus (sampleArguments l2data utxos) sel) 0 :=
  List.prefix_append [0x94] _

/-- The build of the sample ends at the mass check. -/
theorem mineAndBuild_sample {l2data : List UInt8}
    {utxos : List (RpcUtxosByAddressesEntry String)} {sel : Selected String}
    (hsel : selectUtxos "wallet" (payloadLenOf l2data) utxos = .ok sel) {mass : ℕ}
    (hmass : mass = max (storageMass (sel.selected.map amountOf) sel.outputValue.toNat)
      (sizeMass sel.selected.length (payloadLenOf l2data))) :
    mineAndBuildSignedPayloadTransaction sampleConsensus (sampleArguments l2data utxos)
        (fun _ => 0) 1 =
      some (if maxStandardKaspaTxMass < mass then .error (massLimitError mass)
        else .ok (0, { sampleSigned l2data utxos sel with mass := mass })) := by
  have hpre : (sampleArguments l2data utxos).txIdPrefix ≠ [] := List.cons_ne_nil _ _
  have hamounts : sel.selected.map amountOf =
      (sel.selected.map RpcUtxosByAddressesEntry.utxoEntry).map fun e => e.amount.toNat := by
    rw [List.map_map]
    rfl
  have hinputs : (sampleSigned l2data utxos sel).inputs.length = sel.selected.length := by
    simp only [sampleSigned, List.length_map]
    exact List.length_map _
  have hpayload : (sampleSigned l2data utxos sel).payload.length = payloadLenOf l2data :=
    length_buildPayloadWithNonce 0x94 l2data _
  have hsign : signMined sampleConsensus (sampleArguments l2data utxos)
      (sel.selected.map RpcUtxosByAddressesEntry.utxoEntry)
      (candidateAt sampleConsensus.transactionId
        (miningInput sampleConsensus (sampleArguments l2data utxos) sel) 0) =
        .ok (sampleSigned l2data utxos sel) := rfl
  have hcheck : checkMass sampleConsensus .testnet
      (sel.selected.map RpcUtxosByAddressesEntry.utxoEntry) (sampleSigned l2data utxos sel) =
        if maxStandardKaspaTxMass < mass then .error (massLimitError mass)
        else .ok { sampleSigned l2data utxos sel with mass := mass } := by
    have hvalue : (loweredValue sel.outputValue (0 / 2 ^ 32)).toNat = sel.outputValue.toNat := by
      rw [Nat.zero_div, loweredValue_zero]
    rw [hmass, hamounts, ← hinputs, ← hpayload, ← hvalue]
    rfl
  have hnetwork : (sampleArguments l2data utxos).networkType = .testnet := rfl
  rw [mineAndBuild_first hpre hsel (matches_sample l2data utxos sel) (Nat.zero_le _) Nat.one_pos]
  simp only [signAndCheck, hsign, hnetwork, hcheck]
  split_ifs
  · rfl
  · rfl

/-- A build that two outputs pay for only together, with a prefix that the candidate of the nonce 3
is the first to match. -/
def laterArguments : BuildArguments sampleConsensus :=
  { sampleArguments [0xc0, 0x01] [sampleUtxo 0 220000, sampleUtxo 1 219000] with
    txIdPrefix := [0x94, 0xc0, 0x01, 0, 0, 0, 3] }

/-- The candidate of the nonce 3, signed. -/
def laterSigned : KaspaTransaction String where
  version := 0
  inputs := [⟨(sampleUtxo 0 220000).outpoint, List.replicate 66 0, 0, 1⟩,
    ⟨(sampleUtxo 1 219000).outpoint, List.replicate 66 0, 0, 1⟩]
  outputs := [⟨209000, "wallet"⟩]
  lockTime := 0
  subnetworkId := List.replicate 20 0
  gas := 0
  payload := [0x94, 0xc0, 0x01, 0, 0, 0, 3]
  id := [0x94, 0xc0, 0x01, 0, 0, 0, 3]
  mass := 1556

/-- The selection takes both outputs, and the mining passes three candidates. -/
theorem mineAndBuild_later :
    mineAndBuildSignedPayloadTransaction sampleConsensus laterArguments (fun _ => 0) 4 =
      some (.ok (3, laterSigned)) := by
  have hsorted : largestFirst [sampleUtxo 0 220000, sampleUtxo 1 219000] =
      [sampleUtxo 0 220000, sampleUtxo 1 219000] := largestFirst_eq_self (by decide)
  have hsel : selectUtxos laterArguments.sourceAddress (payloadLenOf laterArguments.l2data)
      laterArguments.utxos = .ok ⟨[sampleUtxo 0 220000, sampleUtxo 1 219000], 209000⟩ := by
    show selectUtxos "wallet" (payloadLenOf [0xc0, 0x01])
      [sampleUtxo 0 220000, sampleUtxo 1 219000] = _
    rw [selectUtxos, hsorted]
    rfl
  rw [mineAndBuild_eq (List.cons_ne_nil _ _) hsel]
  rfl

/-- What is built is as requested: both outputs pay, and the candidates before do not match. -/
theorem asRequested_of_mineAndBuild_two : ∃ sel,
    selectUtxos laterArguments.sourceAddress (payloadLenOf laterArguments.l2data)
      laterArguments.utxos = .ok sel ∧
    AsRequested laterArguments sel 3 laterSigned ∧ IsFirstMatch laterArguments sel 3 laterSigned :=
  asRequested_of_mineAndBuild (by decide) signingKeepsContent_sample mineAndBuild_later

end FoundryIgra
