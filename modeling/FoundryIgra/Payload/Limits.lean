import FoundryIgra.Payload.Build

/-!
# The limits of a built transaction

The checks that a transaction meets on its way through `mine_and_build_signed_payload_transaction`
(`payload.rs`) besides the id: the mass limit after signing, the limit on the L2 data before
(`submitter.rs`), and the minimum change before mining. The checks are made apart: the selection
does not know the mass, the limit on the L2 data leaves no room for the inputs and the output, and
mining lowers the output below the minimum change when it goes on for long.

## Main definitions

* `Built`: a run has mined and signed a transaction.
* `FirstCovering`: the shortest prefix that the selection takes.
* `SizeMassBound`, `FollowsMasses`: the mass calculator agrees with the formulas at a transaction.

## Main results

* `massLimitError_iff`: a run is refused exactly when what it signed is too heavy.
* `sizeLimit_iff`: which sizes are refused.
* `massLimit_iff_firstCovering`: only the shortest covering prefix counts.
* `minChange_iff`: which outputs keep the minimum change.
-/

namespace FoundryIgra

open Rust

section Limits

variable {kaspa : KaspaConsensus}

/-- A run has mined the candidate of round `k` and signed it. -/
structure Built (args : BuildArguments kaspa) (elapsed : ℕ → ℕ) (rounds : ℕ)
    (sel : Selected kaspa.Script) (k : ℕ) (signed : KaspaTransaction kaspa.Script) : Prop where
  prefix_ne_nil : args.txIdPrefix ≠ []
  selects : selectUtxos args.sourceAddress (payloadLenOf args.l2data) args.utxos = .ok sel
  round_lt : k < rounds
  accepts : Accepts kaspa.transactionId args.txIdPrefix args.timeoutNanos elapsed
    (miningInput kaspa args sel) k
  signs : signMined kaspa args (sel.selected.map RpcUtxosByAddressesEntry.utxoEntry)
    (candidateAt kaspa.transactionId (miningInput kaspa args sel) k) = .ok signed

/-- The mass that is checked. -/
def checkedMass (networkType : KaspaNetworkType) (sel : Selected kaspa.Script)
    (signed : KaspaTransaction kaspa.Script) : Option ℕ :=
  (kaspa.contextualMass networkType signed
    (sel.selected.map RpcUtxosByAddressesEntry.utxoEntry)).map
      fun contextual => max contextual (kaspa.nonContextualMass networkType signed)

/-! ### The mass limit -/

theorem getElem?_toList_append {s : String} {i : ℕ} {c : Char} (h : s.toList[i]? = some c)
    (t : String) : (s ++ t).toList[i]? = some c := by
  rw [String.toList_append, List.getElem?_append_left (List.getElem?_eq_some_iff.mp h).1, h]

/-- The messages of a build differ at the character after `IGRA submit error: `. -/
theorem ne_massLimitError {err : String} (h : err.toList[19]? ≠ some 'K') (mass : ℕ) :
    err ≠ massLimitError mass := by
  have hlimit : (massLimitError mass).toList[19]? = some 'K' :=
    getElem?_toList_append (getElem?_toList_append (getElem?_toList_append (by decide) _) _) _
  rintro rfl
  exact h hlimit

variable {args : BuildArguments kaspa} {elapsed : ℕ → ℕ} {rounds : ℕ}

theorem signMined_ne_massLimitError {entries : List (UtxoEntry kaspa.Script)}
    {tx : KaspaTransaction kaspa.Script} {err : String}
    (h : signMined kaspa args entries tx = .error err) (mass : ℕ) : err ≠ massLimitError mass := by
  rw [signMined] at h
  cases hsign : kaspa.sign tx entries args.privateKey with
  | error e =>
    simp only [hsign, Except.error.injEq] at h
    rw [← h]
    exact ne_massLimitError
      ((getElem?_toList_append (c := 'f') (by decide) e).trans_ne (by decide)) mass
  | ok signed =>
    cases hverify : kaspa.verify signed entries with
    | error e =>
      simp only [hsign, hverify, Except.error.injEq] at h
      rw [← h]
      exact ne_massLimitError
        ((getElem?_toList_append (c := 'i') (by decide) e).trans_ne (by decide)) mass
    | ok _ =>
      simp only [hsign, hverify] at h
      split_ifs at h
      rw [← Except.error.inj h]
      exact ne_massLimitError (by decide) mass

/-- The mass check refuses for the mass exactly when the mass is above the limit. -/
theorem checkMass_eq_massLimitError_iff {networkType : KaspaNetworkType}
    {sel : Selected kaspa.Script} {signed : KaspaTransaction kaspa.Script} {mass : ℕ} :
    checkMass kaspa networkType (sel.selected.map RpcUtxosByAddressesEntry.utxoEntry) signed =
        .error (massLimitError mass) ↔
      ∃ m, checkedMass networkType sel signed = some m ∧ maxStandardKaspaTxMass < m ∧
        massLimitError m = massLimitError mass := by
  rw [checkMass, checkedMass]
  cases hmass : kaspa.contextualMass networkType signed
      (sel.selected.map RpcUtxosByAddressesEntry.utxoEntry) with
  | none =>
    have hne : "IGRA submit error: failed to calculate Kaspa tx storage mass" ≠
        massLimitError mass := ne_massLimitError (by decide) mass
    simpa using hne
  | some contextual =>
    simp only [Option.map_some, Option.some.injEq, exists_eq_left']
    split_ifs with hlimit
    · simp only [Except.error.injEq, hlimit, true_and]
    · simp only [hlimit, false_and]

/-- A run that has signed ends at the mass check. -/
theorem Built.run_eq {sel : Selected kaspa.Script} {k : ℕ} {signed : KaspaTransaction kaspa.Script}
    (h : Built args elapsed rounds sel k signed) :
    mineAndBuildSignedPayloadTransaction kaspa args elapsed rounds =
      some ((checkMass kaspa args.networkType
        (sel.selected.map RpcUtxosByAddressesEntry.utxoEntry) signed).map
          fun tx => ((UInt32.ofNat k).toUInt64, tx)) := by
  have hmine : mine kaspa.transactionId args.txIdPrefix args.timeoutNanos elapsed
      (miningInput kaspa args sel) rounds =
        some (.ok (UInt32.ofNat k,
          candidateAt kaspa.transactionId (miningInput kaspa args sel) k)) :=
    mine_eq_ok_iff.mpr ⟨k, h.round_lt, h.accepts, rfl, rfl⟩
  rw [mineAndBuild_eq h.prefix_ne_nil h.selects, hmine]
  simp only [signAndCheck, h.signs]
  cases checkMass kaspa args.networkType (sel.selected.map RpcUtxosByAddressesEntry.utxoEntry)
      signed with
  | error err => rfl
  | ok tx => rfl

theorem insufficientUtxosError_ne_massLimitError (sourceAddress : String) (mass : ℕ) :
    insufficientUtxosError sourceAddress ≠ massLimitError mass :=
  ne_massLimitError ((getElem?_toList_append (c := 'i')
    (getElem?_toList_append (by decide) _) _).trans_ne (by decide)) mass

theorem miningTimeoutError_ne_massLimitError (timeoutNanos mass : ℕ) :
    miningTimeoutError timeoutNanos ≠ massLimitError mass :=
  ne_massLimitError ((getElem?_toList_append (c := 'm')
    (getElem?_toList_append (by decide) _) _).trans_ne (by decide)) mass

/-- A run that is refused for its mass has passed the checks before the mining. -/
theorem exists_selected_of_massLimitError {mass : ℕ}
    (h : mineAndBuildSignedPayloadTransaction kaspa args elapsed rounds =
      some (.error (massLimitError mass))) :
    args.txIdPrefix ≠ [] ∧
      ∃ sel, selectUtxos args.sourceAddress (payloadLenOf args.l2data) args.utxos = .ok sel := by
  have hfunds := insufficientUtxosError_ne_massLimitError args.sourceAddress mass
  have hconfig : "IGRA config error: `tx_id_prefix` cannot be empty" ≠ massLimitError mass :=
    ne_massLimitError (by decide) mass
  rw [mineAndBuildSignedPayloadTransaction] at h
  split_ifs at h with hutxos hempty
  · exact absurd (Except.error.inj (Option.some.inj h)) hfunds
  · exact absurd (Except.error.inj (Option.some.inj h)) hconfig
  · refine ⟨fun hnil => hempty (List.isEmpty_iff.mpr hnil), ?_⟩
    cases hsel : selectUtxos args.sourceAddress (payloadLenOf args.l2data) args.utxos with
    | error err =>
      obtain rfl := (selectUtxos_error hsel).1
      rw [hsel] at h
      exact absurd (Except.error.inj (Option.some.inj h)) hfunds
    | ok sel => exact ⟨sel, rfl⟩

/-- A run that is refused for its mass has signed. -/
theorem exists_built_of_massLimitError {mass : ℕ}
    (h : mineAndBuildSignedPayloadTransaction kaspa args elapsed rounds =
      some (.error (massLimitError mass))) :
    ∃ sel k signed, Built args elapsed rounds sel k signed := by
  obtain ⟨hpre, sel, hsel⟩ := exists_selected_of_massLimitError h
  rw [mineAndBuild_eq hpre hsel] at h
  cases hmine : mine kaspa.transactionId args.txIdPrefix args.timeoutNanos elapsed
      (miningInput kaspa args sel) rounds with
  | none => simp [hmine] at h
  | some out =>
    rw [hmine] at h
    cases out with
    | error err =>
      obtain rfl := mine_error hmine
      exact absurd (Except.error.inj (Option.some.inj h))
        (miningTimeoutError_ne_massLimitError args.timeoutNanos mass)
    | ok mined =>
      obtain ⟨k, hk, haccepts, hnonce, htx⟩ := mine_eq_ok_iff.mp hmine
      have hcheck := Option.some.inj h
      rw [signAndCheck] at hcheck
      cases hsigned : signMined kaspa args
          (sel.selected.map RpcUtxosByAddressesEntry.utxoEntry) mined.2 with
      | error err =>
        simp only [hsigned, Except.error.injEq] at hcheck
        exact absurd hcheck (signMined_ne_massLimitError hsigned mass)
      | ok signed => exact ⟨sel, k, signed, hpre, hsel, hk, haccepts, htx ▸ hsigned⟩

/-- A run that has signed is refused for its mass exactly when it is above the limit. -/
theorem Built.massLimitError_iff {sel : Selected kaspa.Script} {k : ℕ}
    {signed : KaspaTransaction kaspa.Script} (h : Built args elapsed rounds sel k signed) :
    (∃ mass, mineAndBuildSignedPayloadTransaction kaspa args elapsed rounds =
        some (.error (massLimitError mass))) ↔
      ∃ mass, checkedMass args.networkType sel signed = some mass ∧
        maxStandardKaspaTxMass < mass := by
  rw [h.run_eq]
  constructor
  · rintro ⟨mass, herr⟩
    cases hcheck : checkMass kaspa args.networkType
        (sel.selected.map RpcUtxosByAddressesEntry.utxoEntry) signed with
    | error err =>
      rw [hcheck] at herr
      obtain rfl := Except.error.inj (Option.some.inj herr)
      obtain ⟨m, hm, hlimit, -⟩ := checkMass_eq_massLimitError_iff.mp hcheck
      exact ⟨m, hm, hlimit⟩
    | ok tx =>
      rw [hcheck] at herr
      cases Option.some.inj herr
  · rintro ⟨mass, hmass, hlimit⟩
    have hcheck := checkMass_eq_massLimitError_iff.mpr ⟨mass, hmass, hlimit, rfl⟩
    exact ⟨mass, by rw [hcheck, Except.map]⟩

/-- **A run is refused for its mass** exactly when what it has signed is too heavy. -/
theorem massLimitError_iff :
    (∃ mass, mineAndBuildSignedPayloadTransaction kaspa args elapsed rounds =
        some (.error (massLimitError mass))) ↔
      ∃ sel k signed mass, Built args elapsed rounds sel k signed ∧
        checkedMass args.networkType sel signed = some mass ∧ maxStandardKaspaTxMass < mass := by
  constructor
  · rintro ⟨mass, h⟩
    obtain ⟨sel, k, signed, hbuilt⟩ := exists_built_of_massLimitError h
    obtain ⟨m, hm, hlimit⟩ := hbuilt.massLimitError_iff.mp ⟨mass, h⟩
    exact ⟨sel, k, signed, m, hbuilt, hm, hlimit⟩
  · rintro ⟨sel, k, signed, mass, hbuilt, hmass, hlimit⟩
    exact hbuilt.massLimitError_iff.mpr ⟨mass, hmass, hlimit⟩

/-- What signing leaves of the candidate: the numbers that the masses depend on. -/
theorem Built.signed_shape (hsigning : SigningKeepsContent kaspa) {sel : Selected kaspa.Script}
    {k : ℕ} {signed : KaspaTransaction kaspa.Script}
    (h : Built args elapsed rounds sel k signed) :
    signed.inputs.length = sel.selected.length ∧
      signed.payload.length = payloadLenOf args.l2data ∧
      signed.outputs = [⟨loweredValue sel.outputValue (k / 2 ^ 32),
        kaspa.payToAddressScript args.sourceAddress⟩] := by
  obtain ⟨-, hpayload, hinputs, houtputs⟩ := hsigning _ _ _ _ (signMined_ok h.signs).1
  refine ⟨?_, ?_, houtputs⟩
  · have hlen := congrArg List.length hinputs
    rw [List.length_map, List.length_map] at hlen
    exact hlen.trans (List.length_map _)
  · rw [hpayload]
    exact length_buildPayloadWithNonce ..

/-! ### The size of the L2 data -/

/-- The non-contextual mass of `tx` is at least the size-based mass, and otherwise below the
limit. -/
structure SizeMassBound (kaspa : KaspaConsensus) (networkType : KaspaNetworkType)
    (tx : KaspaTransaction kaspa.Script) : Prop where
  low : sizeMass tx.inputs.length tx.payload.length ≤ kaspa.nonContextualMass networkType tx
  high : kaspa.nonContextualMass networkType tx ≤
    max maxStandardKaspaTxMass (sizeMass tx.inputs.length tx.payload.length)

/-- A selection from one output takes it. -/
theorem selected_of_singleton {sourceAddress : String} {payloadLen : ℕ}
    {u : RpcUtxosByAddressesEntry kaspa.Script} {sel : Selected kaspa.Script}
    (h : selectUtxos sourceAddress payloadLen [u] = .ok sel) : sel.selected = [u] := by
  obtain ⟨k, hpos, hk, heq, -⟩ := selectUtxos_ok h
  have hone : k = 1 := by
    rw [List.length_singleton] at hk
    omega
  rw [heq, hone, largestFirst_eq_self (List.pairwise_singleton ..), List.take_succ_cons,
    List.take_zero]

/-- **Which sizes are refused.** A transaction with one input and a small storage mass is refused
for its mass exactly when the raw transaction has more than 24731 bytes, 69 less than the limit on
the L2 data. -/
theorem sizeLimit_iff {rawTx : List UInt8} {payloadCompression : Option String}
    {u : RpcUtxosByAddressesEntry kaspa.Script} {sel : Selected kaspa.Script} {k : ℕ}
    {signed : KaspaTransaction kaspa.Script} {contextual : ℕ}
    (hl2data : buildIgraL2data rawTx payloadCompression = .ok (args.payloadHeader, args.l2data))
    (hutxos : args.utxos = [u]) (hsigning : SigningKeepsContent kaspa)
    (hbuilt : Built args elapsed rounds sel k signed)
    (hsize : SizeMassBound kaspa args.networkType signed)
    (hstorage : kaspa.contextualMass args.networkType signed [u.utxoEntry] = some contextual)
    (hsmall : contextual ≤ maxStandardKaspaTxMass) :
    (∀ mass, mineAndBuildSignedPayloadTransaction kaspa args elapsed rounds ≠
        some (.error (massLimitError mass))) ↔
      rawTx.length ≤ 24731 := by
  have hsel := selected_of_singleton (hutxos ▸ hbuilt.selects)
  obtain ⟨hinputs, hpayload, -⟩ := hbuilt.signed_shape hsigning
  obtain ⟨hlow, hhigh⟩ := hsize
  rw [hinputs, hpayload, hsel, List.length_singleton, sizeMass, payloadLenOf,
    l2data_of_buildIgraL2data hl2data] at hlow hhigh
  have hmass : checkedMass args.networkType sel signed =
      some (max contextual (kaspa.nonContextualMass args.networkType signed)) := by
    rw [checkedMass, hsel, List.map_singleton, hstorage, Option.map_some]
  have hlimit : maxStandardKaspaTxMass = 100000 := rfl
  rw [← not_exists, hbuilt.massLimitError_iff, hmass]
  simp only [Option.some.injEq, exists_eq_left']
  omega

/-! ### The selection and the mass -/

/-- The masses of `tx`, which spends `entries`, are the size-based mass and the storage mass; the
latter where no amount is zero. -/
structure FollowsMasses (kaspa : KaspaConsensus) (networkType : KaspaNetworkType)
    (tx : KaspaTransaction kaspa.Script) (entries : List (UtxoEntry kaspa.Script)) : Prop where
  size : kaspa.nonContextualMass networkType tx = sizeMass tx.inputs.length tx.payload.length
  storage : ∀ out, tx.outputs = [out] → 0 < out.value.toNat →
    (∀ e ∈ entries, 0 < e.amount.toNat) →
    kaspa.contextualMass networkType tx entries =
      some (storageMass (entries.map fun e => e.amount.toNat) out.value.toNat)

/-- The prefix of `count` outputs is the shortest that the selection can stop at. -/
structure FirstCovering {Script : Type} (payloadLen : ℕ)
    (utxos : List (RpcUtxosByAddressesEntry Script)) (count : ℕ) : Prop where
  pos : 0 < count
  le_length : count ≤ utxos.length
  affords : Affords payloadLen ((largestFirst utxos).take count)
  shortest : ∀ j, 0 < j → j < count → ¬Affords payloadLen ((largestFirst utxos).take j)

/-- The mass of what is signed, where it follows the formulas and the output is not lowered to
nothing. -/
theorem Built.checkedMass_eq (hsigning : SigningKeepsContent kaspa)
    (hpos : ∀ u ∈ args.utxos, 0 < amountOf u) {sel : Selected kaspa.Script} {k : ℕ}
    {signed : KaspaTransaction kaspa.Script} (h : Built args elapsed rounds sel k signed)
    (hmasses : FollowsMasses kaspa args.networkType signed
      (sel.selected.map RpcUtxosByAddressesEntry.utxoEntry))
    (hvalue : k / 2 ^ 32 < sel.outputValue.toNat) :
    checkedMass args.networkType sel signed =
      some (max (storageMass (sel.selected.map amountOf) (sel.outputValue.toNat - k / 2 ^ 32))
        (sizeMass sel.selected.length (payloadLenOf args.l2data))) := by
  obtain ⟨hinputs, hpayload, houtputs⟩ := h.signed_shape hsigning
  have hselected : ∀ u ∈ sel.selected, 0 < amountOf u := by
    obtain ⟨count, -, -, heq, -⟩ := selectUtxos_ok h.selects
    intro u hu
    rw [heq] at hu
    exact hpos u (List.mem_mergeSort.mp (List.mem_of_mem_take hu))
  have hstorage := hmasses.storage _ houtputs (by rw [toNat_loweredValue]; omega) (by
    intro e he
    obtain ⟨u, hu, rfl⟩ := List.mem_map.mp he
    exact hselected u hu)
  rw [checkedMass, hstorage, hmasses.size, hinputs, hpayload, Option.map_some,
    toNat_loweredValue, List.map_map]
  rfl

/-- **Only the shortest covering prefix counts.** A run is refused for its mass exactly when the
transaction mined and signed from the shortest prefix that covers the fee and the minimum change is
too heavy, whatever masses the library finds. Where they are the size-based and the storage mass,
the mass is that of this prefix and of the output as mining left it. -/
theorem massLimit_iff_firstCovering :
    ((∃ mass, mineAndBuildSignedPayloadTransaction kaspa args elapsed rounds =
        some (.error (massLimitError mass))) ↔
      ∃ count sel k signed mass, FirstCovering (payloadLenOf args.l2data) args.utxos count ∧
        sel.selected = (largestFirst args.utxos).take count ∧
        Built args elapsed rounds sel k signed ∧
        checkedMass args.networkType sel signed = some mass ∧ maxStandardKaspaTxMass < mass) ∧
    (SigningKeepsContent kaspa → (∀ u ∈ args.utxos, 0 < amountOf u) →
      ∀ sel k signed, Built args elapsed rounds sel k signed → k / 2 ^ 32 < sel.outputValue.toNat →
        FollowsMasses kaspa args.networkType signed
          (sel.selected.map RpcUtxosByAddressesEntry.utxoEntry) →
        checkedMass args.networkType sel signed =
          some (max (storageMass (sel.selected.map amountOf) (sel.outputValue.toNat - k / 2 ^ 32))
            (sizeMass sel.selected.length (payloadLenOf args.l2data)))) := by
  refine ⟨massLimitError_iff.trans ⟨?_, ?_⟩,
    fun hsigning hpos sel k signed hbuilt hvalue hmasses =>
      hbuilt.checkedMass_eq hsigning hpos hmasses hvalue⟩
  · rintro ⟨sel, k, signed, mass, hbuilt, hmass, hlimit⟩
    obtain ⟨count, hcount, hle, heq, haffords, hshortest, -, -⟩ := selectUtxos_ok hbuilt.selects
    exact ⟨count, sel, k, signed, mass, ⟨hcount, hle, haffords, hshortest⟩, heq, hbuilt, hmass,
      hlimit⟩
  · rintro ⟨-, sel, k, signed, mass, -, -, hbuilt, hmass, hlimit⟩
    exact ⟨sel, k, signed, mass, hbuilt, hmass, hlimit⟩

/-! ### The minimum change -/

/-- **Which outputs keep the minimum change.** The loop accepts only transactions whose output is
at least the minimum change exactly when it accepts no candidate that comes after more wrap-arounds
of the nonce than the output has sompi to spare. -/
theorem minChange_iff {sel : Selected kaspa.Script}
    (hsel : selectUtxos args.sourceAddress (payloadLenOf args.l2data) args.utxos = .ok sel) :
    (∀ rounds nonce tx, mine kaspa.transactionId args.txIdPrefix args.timeoutNanos elapsed
        (miningInput kaspa args sel) rounds = some (.ok (nonce, tx)) →
      ∀ out ∈ tx.outputs, minChangeSompi ≤ out.value) ↔
    ∀ k, sel.outputValue.toNat - minChangeSompi.toNat < k / 2 ^ 32 →
      ¬Accepts kaspa.transactionId args.txIdPrefix args.timeoutNanos elapsed
        (miningInput kaspa args sel) k := by
  obtain ⟨-, -, -, -, -, -, -, hdust⟩ := selectUtxos_ok hsel
  have hmin : minChangeSompi.toNat = 1000 := rfl
  rw [UInt64.le_iff_toNat_le] at hdust
  have houtputs : ∀ k, (candidateAt kaspa.transactionId (miningInput kaspa args sel) k).outputs =
      [⟨loweredValue sel.outputValue (k / 2 ^ 32),
        kaspa.payToAddressScript args.sourceAddress⟩] := fun k => rfl
  constructor
  · intro h k hk haccepts
    have hmine := h (k + 1) _ _ (mine_eq_ok_iff.mpr ⟨k, Nat.lt_succ_self k, haccepts, rfl, rfl⟩)
    have hvalue := hmine _ (houtputs k ▸ List.mem_singleton_self _)
    rw [UInt64.le_iff_toNat_le, toNat_loweredValue] at hvalue
    omega
  · intro h rounds nonce tx hmine out hout
    obtain ⟨k, -, haccepts, -, rfl⟩ := mine_eq_ok_iff.mp hmine
    obtain rfl := List.mem_singleton.mp (houtputs k ▸ hout)
    have hk := mt (h k) (not_not_intro haccepts)
    rw [UInt64.le_iff_toNat_le, toNat_loweredValue]
    omega

end Limits

/-! ### Runs at the limits -/

/-- A first candidate of the sample is signed. -/
theorem built_sample {l2data : List UInt8} {utxos : List (RpcUtxosByAddressesEntry String)}
    {sel : Selected String} (hsel : selectUtxos "wallet" (payloadLenOf l2data) utxos = .ok sel) :
    Built (sampleArguments l2data utxos) (fun _ => 0) 1 sel 0 (sampleSigned l2data utxos sel) where
  prefix_ne_nil := List.cons_ne_nil _ _
  selects := hsel
  round_lt := Nat.one_pos
  accepts :=
    { here := matches_sample l2data utxos sel
      first := fun _ hj => absurd hj (Nat.not_lt_zero _)
      inTime := fun _ _ => Nat.zero_le _ }
  signs := rfl

theorem followsMasses_sample (tx : KaspaTransaction String) (entries : List (UtxoEntry String)) :
    FollowsMasses sampleConsensus .testnet tx entries where
  size := rfl
  storage out houtputs _ _ := by
    simp only [sampleConsensus, houtputs]

theorem sizeMassBound_sample (tx : KaspaTransaction String) :
    SizeMassBound sampleConsensus .testnet tx :=
  ⟨le_refl _, le_max_right _ _⟩

theorem payloadLenOf_replicate (n : ℕ) : payloadLenOf (List.replicate n 0) = n + 5 := by
  rw [payloadLenOf, List.length_replicate]
  omega

/-- A raw transaction of 24731 bytes, the largest that is not refused. -/
theorem sizeLimit_iff_small :
    buildIgraL2data (List.replicate 24731 0) none = .ok (0x94, List.replicate 24731 0) ∧
    ∀ mass, mineAndBuildSignedPayloadTransaction sampleConsensus
        (sampleArguments (List.replicate 24731 0) [sampleUtxo 0 1000000000]) (fun _ => 0) 1 ≠
      some (.error (massLimitError mass)) := by
  have hsorted : largestFirst [sampleUtxo 0 1000000000] = [sampleUtxo 0 1000000000] :=
    largestFirst_eq_self (List.pairwise_singleton ..)
  have hsel : selectUtxos "wallet" (payloadLenOf (List.replicate 24731 0))
      [sampleUtxo 0 1000000000] = .ok ⟨[sampleUtxo 0 1000000000], 999300000⟩ := by
    rw [selectUtxos, hsorted, payloadLenOf_replicate]
    rfl
  have hl2data : buildIgraL2data (List.replicate 24731 0) none =
      .ok (0x94, List.replicate 24731 0) := by
    rw [buildIgraL2data, if_pos (by decide)]
  refine ⟨hl2data, (sizeLimit_iff hl2data rfl signingKeepsContent_sample (built_sample hsel)
    (sizeMassBound_sample _) rfl (by decide)).mpr ?_⟩
  rw [List.length_replicate]

/-- A raw transaction of 24800 bytes passes the check of its size, and is refused for its mass: the
storage mass is nothing, and the size-based mass 276 above the limit. -/
theorem sizeLimit_refuses_24800 :
    buildIgraL2data (List.replicate 24800 0) none = .ok (0x94, List.replicate 24800 0) ∧
    (List.replicate 24800 (0 : UInt8)).length ≤ igraMaxL2dataBytes ∧
    storageMass [1000000000] 999300000 = 0 ∧
    mineAndBuildSignedPayloadTransaction sampleConsensus
        (sampleArguments (List.replicate 24800 0) [sampleUtxo 0 1000000000]) (fun _ => 0) 1 =
      some (.error (massLimitError 100276)) := by
  have hsorted : largestFirst [sampleUtxo 0 1000000000] = [sampleUtxo 0 1000000000] :=
    largestFirst_eq_self (List.pairwise_singleton ..)
  have hlen : payloadLenOf (List.replicate 24800 0) = 24805 := payloadLenOf_replicate 24800
  have hsel : selectUtxos "wallet" (payloadLenOf (List.replicate 24800 0))
      [sampleUtxo 0 1000000000] = .ok ⟨[sampleUtxo 0 1000000000], 999300000⟩ := by
    rw [selectUtxos, hsorted, hlen]
    rfl
  have hmass : 100276 = max (storageMass ([sampleUtxo 0 1000000000].map amountOf)
      (999300000 : UInt64).toNat) (sizeMass 1 (payloadLenOf (List.replicate 24800 0))) := by
    rw [hlen]
    rfl
  refine ⟨?_, ?_, by decide, ?_⟩
  · rw [buildIgraL2data, if_pos (by decide)]
  · rw [List.length_replicate]
    decide
  · exact (mineAndBuild_sample hsel hmass).trans (congrArg some (if_pos (by decide)))

theorem largestFirst_two : largestFirst [sampleUtxo 0 221000, sampleUtxo 1 221000] =
    [sampleUtxo 0 221000, sampleUtxo 1 221000] := largestFirst_eq_self (by decide)

/-- Of two outputs of 221000 sompi, the first alone covers the fee and the minimum change. -/
theorem selectUtxos_two : selectUtxos "wallet" (payloadLenOf [])
    [sampleUtxo 0 221000, sampleUtxo 1 221000] = .ok ⟨[sampleUtxo 0 221000], 1000⟩ := by
  rw [selectUtxos, largestFirst_two]
  rfl

/-- The transaction of the first output is refused for its mass. -/
theorem mineAndBuild_two : mineAndBuildSignedPayloadTransaction sampleConsensus
      (sampleArguments [] [sampleUtxo 0 221000, sampleUtxo 1 221000]) (fun _ => 0) 1 =
    some (.error (massLimitError 995475114)) :=
  (mineAndBuild_sample selectUtxos_two (show 995475114 = _ from rfl)).trans
    (congrArg some (if_pos (by decide)))

/-- Both outputs cover the fee as well and give a transaction of mass 1548, but the selection stops
at the first, which is refused. -/
theorem massLimit_refuses_first :
    Covers (payloadLenOf [])
      ((largestFirst [sampleUtxo 0 221000, sampleUtxo 1 221000]).take 2 : UtxoMultiset String) ∧
    max (storageMass [221000, 221000] (442000 - exactFeeSompi (payloadLenOf []) 2))
      (sizeMass 2 (payloadLenOf [])) ≤ maxStandardKaspaTxMass ∧
    mineAndBuildSignedPayloadTransaction sampleConsensus
        (sampleArguments [] [sampleUtxo 0 221000, sampleUtxo 1 221000]) (fun _ => 0) 1 =
      some (.error (massLimitError 995475114)) := by
  refine ⟨?_, by decide, mineAndBuild_two⟩
  rw [largestFirst_two, Covers, Multiset.coe_card, Multiset.map_coe, Multiset.sum_coe]
  decide

/-- The refusal goes back to the shortest prefix, whose mass is the storage mass. -/
theorem massLimit_iff_firstCovering_two :
    (∃ count sel k signed mass,
      FirstCovering (payloadLenOf []) [sampleUtxo 0 221000, sampleUtxo 1 221000] count ∧
      sel.selected = (largestFirst [sampleUtxo 0 221000, sampleUtxo 1 221000]).take count ∧
      Built (sampleArguments [] [sampleUtxo 0 221000, sampleUtxo 1 221000]) (fun _ => 0) 1 sel k
        signed ∧
      checkedMass .testnet sel signed = some mass ∧ maxStandardKaspaTxMass < mass) ∧
    @checkedMass sampleConsensus .testnet ⟨[sampleUtxo 0 221000], 1000⟩
        (sampleSigned [] [sampleUtxo 0 221000, sampleUtxo 1 221000]
          ⟨[sampleUtxo 0 221000], 1000⟩) =
      some (max (storageMass [221000] 1000) (sizeMass 1 (payloadLenOf []))) :=
  ⟨massLimit_iff_firstCovering.1.mp ⟨995475114, mineAndBuild_two⟩,
    massLimit_iff_firstCovering.2 signingKeepsContent_sample (by decide) _ 0 _
      (built_sample selectUtxos_two) (by decide) (followsMasses_sample _ _)⟩

/-- Libraries with an id that matches only when the output is 999 sompi. -/
def lateConsensus : KaspaConsensus where
  __ := sampleConsensus
  transactionId content :=
    if content.outputs.map TransactionOutput.value = [999] then [0x94] else []

/-- A build with these libraries. -/
def lateArguments : BuildArguments lateConsensus where
  privateKey := ()
  sourceAddress := "wallet"
  networkType := .testnet
  payloadHeader := 0x94
  l2data := []
  txIdPrefix := [0x94]
  timeoutNanos := 1000
  utxos := [sampleUtxo 0 221000, sampleUtxo 1 221000]

/-- A candidate matches once the output is 999 sompi. -/
theorem late_matches_iff {k : ℕ} :
    Matches lateConsensus.transactionId [0x94]
        (miningInput lateConsensus lateArguments ⟨[sampleUtxo 0 221000], 1000⟩) k ↔
      loweredValue 1000 (k / 2 ^ 32) = 999 := by
  have hid : (candidateAt lateConsensus.transactionId
      (miningInput lateConsensus lateArguments ⟨[sampleUtxo 0 221000], 1000⟩) k).id =
        if [loweredValue 1000 (k / 2 ^ 32)] = [999] then [0x94] else [] := rfl
  rw [Matches, hid]
  split_ifs with hvalue
  · simpa using hvalue
  · simpa using hvalue

/-- The loop accepts the candidate after the first wrap-around. -/
theorem accepts_late : Accepts lateConsensus.transactionId [0x94] 1000 (fun _ => 0)
    (miningInput lateConsensus lateArguments ⟨[sampleUtxo 0 221000], 1000⟩) (2 ^ 32) where
  here := late_matches_iff.mpr (by decide)
  first j hj := by
    rw [late_matches_iff, Nat.div_eq_of_lt hj, loweredValue_zero]
    decide
  inTime _ _ := Nat.zero_le _

/-- A transaction is accepted with an output of 999 sompi. -/
theorem minChange_lowered : ∃ sel rounds nonce tx,
    selectUtxos lateArguments.sourceAddress (payloadLenOf lateArguments.l2data)
      lateArguments.utxos = .ok sel ∧
    mine lateConsensus.transactionId lateArguments.txIdPrefix lateArguments.timeoutNanos
      (fun _ => 0) (miningInput lateConsensus lateArguments sel) rounds = some (.ok (nonce, tx)) ∧
    ∃ out ∈ tx.outputs, out.value < minChangeSompi :=
  ⟨_, 2 ^ 32 + 1, _, _, selectUtxos_two,
    mine_eq_ok_iff.mpr ⟨2 ^ 32, Nat.lt_succ_self _, accepts_late, rfl, rfl⟩,
    _, List.mem_singleton_self _, by decide⟩

/-- Where the first candidate matches, the output stays as it is. -/
theorem minChange_iff_sample :
    selectUtxos "wallet" (payloadLenOf []) [sampleUtxo 0 221000, sampleUtxo 1 221000] =
      .ok ⟨[sampleUtxo 0 221000], 1000⟩ ∧
    ∀ rounds nonce tx, mine sampleConsensus.transactionId [0x94] 1000 (fun _ => 0)
        (miningInput sampleConsensus
          (sampleArguments [] [sampleUtxo 0 221000, sampleUtxo 1 221000])
          ⟨[sampleUtxo 0 221000], 1000⟩) rounds = some (.ok (nonce, tx)) →
      ∀ out ∈ tx.outputs, minChangeSompi ≤ out.value := by
  let args := sampleArguments [] [sampleUtxo 0 221000, sampleUtxo 1 221000]
  have hsel : selectUtxos args.sourceAddress (payloadLenOf args.l2data) args.utxos =
      .ok ⟨[sampleUtxo 0 221000], 1000⟩ := selectUtxos_two
  refine ⟨selectUtxos_two, (minChange_iff hsel).mpr fun k hk haccepts => ?_⟩
  refine haccepts.first 0 ?_ (matches_sample [] [sampleUtxo 0 221000, sampleUtxo 1 221000] _)
  by_contra hzero
  rw [Nat.eq_zero_of_not_pos hzero] at hk
  exact absurd hk (by decide)

end FoundryIgra
