import FoundryIgra.Iteration.Loop
import FoundryIgra.Payload
import FoundryIgra.Payload.Selection

/-!
# Mining the transaction id

The payload with its nonce and the mining loop of `mine_and_build_signed_payload_transaction`
(`payload.rs`): the nonce is written over the last four bytes of the payload, the transaction is
finalized, and when its id does not begin with the prefix the 32-bit nonce goes on; when the nonce
wraps around, the value of the output is lowered by one sompi. The transaction id and the readings
of the clock are parameters; the readings are indexed by the round of the loop.

Round `k` of the loop tries the candidate with the nonce `k mod 2^32` and an output that was lowered
`k / 2^32` times (`mineBody_stateAt`).

## Main definitions

* `buildPayloadWithNonce`, `toBeBytes`, `fromBeBytes`.
* `TransactionContent`, `KaspaTransaction`, `finalize`.
* `mineBody`, `mine`: the mining loop.
* `candidate`, `loweredValue`: what the rounds try.

## Main results

* `mine_eq_ok_iff`: what the loop accepts.
* `exists_mine_eq_some`: the loop ends once the timeout has passed.
-/

namespace FoundryIgra

open Rust Iteration

/-! ### Payloads with a nonce -/

/-- `u32::to_be_bytes`. -/
def toBeBytes (n : UInt32) : List UInt8 :=
  [(n >>> 24).toUInt8, (n >>> 16).toUInt8, (n >>> 8).toUInt8, n.toUInt8]

/-- The number that bytes spell, the most significant first. -/
def fromBeBytes (bytes : List UInt8) : ℕ := bytes.foldl (fun n b => n * 256 + b.toNat) 0

theorem fromBeBytes_toBeBytes (n : UInt32) : fromBeBytes (toBeBytes n) = n.toNat := by
  have hn := n.toNat_lt
  simp only [fromBeBytes, toBeBytes, List.foldl_cons, List.foldl_nil, UInt32.toNat_toUInt8,
    UInt32.toNat_shiftRight, UInt32.reduceToNat, Nat.shiftRight_eq_div_pow, Nat.reduceMod,
    Nat.reducePow]
  omega

/-- `build_payload_with_nonce`. -/
def buildPayloadWithNonce (header : UInt8) (l2data : List UInt8) (nonce : UInt32) : List UInt8 :=
  header :: (l2data ++ toBeBytes nonce)

theorem length_buildPayloadWithNonce (header : UInt8) (l2data : List UInt8) (nonce : UInt32) :
    (buildPayloadWithNonce header l2data nonce).length = payloadLenOf l2data := by
  simp [buildPayloadWithNonce, payloadLenOf, toBeBytes]
  omega

/-- The nonce comes after the header byte and the L2 data. -/
theorem buildPayloadWithNonce_eq (header : UInt8) (l2data : List UInt8) (nonce : UInt32) :
    buildPayloadWithNonce header l2data nonce = header :: l2data ++ toBeBytes nonce := rfl

theorem nonceOffset_eq (header : UInt8) (l2data : List UInt8) (nonce : UInt32) :
    (buildPayloadWithNonce header l2data nonce).length - 4 = (header :: l2data).length := by
  rw [length_buildPayloadWithNonce, payloadLenOf, List.length_cons]
  omega

/-- Overwriting the last four bytes of a payload changes its nonce. -/
theorem buildPayloadWithNonce_patch (header : UInt8) (l2data : List UInt8) (nonce nonce' : UInt32) :
    (buildPayloadWithNonce header l2data nonce).take
        ((buildPayloadWithNonce header l2data nonce).length - 4) ++ toBeBytes nonce' =
      buildPayloadWithNonce header l2data nonce' := by
  rw [nonceOffset_eq, buildPayloadWithNonce_eq, List.take_left, ← buildPayloadWithNonce_eq]

/-- The bytes between the first and the last four are the L2 data. -/
theorem take_drop_buildPayloadWithNonce (header : UInt8) (l2data : List UInt8) (nonce : UInt32) :
    ((buildPayloadWithNonce header l2data nonce).drop 1).take l2data.length = l2data := by
  rw [buildPayloadWithNonce, List.drop_one, List.tail_cons, List.take_left]

/-- The last four bytes spell the nonce. -/
theorem fromBeBytes_drop_buildPayloadWithNonce (header : UInt8) (l2data : List UInt8)
    (nonce : UInt32) :
    fromBeBytes ((buildPayloadWithNonce header l2data nonce).drop
      ((buildPayloadWithNonce header l2data nonce).length - 4)) = nonce.toNat := by
  rw [nonceOffset_eq, buildPayloadWithNonce_eq, List.drop_left, fromBeBytes_toBeBytes]

/-! ### Transactions -/

/-- `TransactionInput`. -/
structure TransactionInput where
  previousOutpoint : TransactionOutpoint
  signatureScript : List UInt8
  sequence : UInt64
  sigOpCount : UInt8
  deriving DecidableEq

/-- `TransactionOutput`. -/
structure TransactionOutput (Script : Type) where
  value : UInt64
  scriptPublicKey : Script
  deriving DecidableEq

/-- What a transaction says. -/
structure TransactionContent (Script : Type) where
  version : UInt16
  inputs : List TransactionInput
  outputs : List (TransactionOutput Script)
  lockTime : UInt64
  subnetworkId : List UInt8
  gas : UInt64
  payload : List UInt8
  deriving DecidableEq

/-- `Transaction`, with the id it was finalized with and its mass. -/
structure KaspaTransaction (Script : Type) extends TransactionContent Script where
  id : List UInt8
  mass : ℕ
  deriving DecidableEq

section Mining

variable {Script : Type} (transactionId : TransactionContent Script → List UInt8)

/-- `Transaction::finalize`. -/
def finalize (tx : KaspaTransaction Script) : KaspaTransaction Script :=
  { tx with id := transactionId tx.toTransactionContent }

/-- Writes the nonce over the last bytes of the payload. -/
def patchNonce (nonceOffset : ℕ) (nonce : UInt32) (tx : KaspaTransaction Script) :
    KaspaTransaction Script :=
  { tx with payload := tx.payload.take nonceOffset ++ toBeBytes nonce }

/-- Lowers the value of the first output by one sompi. -/
def lowerFirstOutput (tx : KaspaTransaction Script) : KaspaTransaction Script :=
  { tx with
    outputs := match tx.outputs with
      | [] => []
      | first :: rest => { first with value := saturatingSub first.value 1 } :: rest }

/-- The message of a mining timeout. -/
def miningTimeoutError (timeoutNanos : ℕ) : String :=
  igraMiningTimeoutErrorCode ++ ": timed out mining kaspa txid prefix after " ++
    toString (timeoutNanos / 1000000) ++ "ms"

/-- The state of the mining loop: the round, the nonce and the transaction. -/
structure MiningState (Script : Type) where
  round : ℕ
  nonce : UInt32
  tx : KaspaTransaction Script

/-- One round of the mining loop. -/
def mineBody (txIdPrefix : List UInt8) (timeoutNanos : ℕ) (elapsed : ℕ → ℕ) (nonceOffset : ℕ)
    (s : MiningState Script) :
    Except String (UInt32 × KaspaTransaction Script) ⊕ MiningState Script :=
  if timeoutNanos < elapsed s.round then .inl (.error (miningTimeoutError timeoutNanos))
  else
    let tx := finalize transactionId (patchNonce nonceOffset s.nonce s.tx)
    if txIdPrefix.isPrefixOf tx.id then .inl (.ok (s.nonce, tx))
    else
      let nonce := s.nonce + 1
      let tx := if nonce = 0 then finalize transactionId (lowerFirstOutput tx) else tx
      .inr ⟨s.round + 1, nonce, tx⟩

/-- `Transaction::new` of the transaction that is mined, before the first round. -/
def unminedTransaction (inputs : List TransactionInput) (outputValue : UInt64)
    (scriptPublicKey : Script) (payload : List UInt8) : KaspaTransaction Script :=
  finalize transactionId
    { version := 0
      inputs := inputs
      outputs := [⟨outputValue, scriptPublicKey⟩]
      lockTime := 0
      subnetworkId := List.replicate 20 0
      gas := 0
      payload := payload
      id := []
      mass := 0 }

/-- What the mined transaction is made of. -/
structure MiningInput (Script : Type) where
  inputs : List TransactionInput
  outputValue : UInt64
  scriptPublicKey : Script
  payloadHeader : UInt8
  l2data : List UInt8

/-- At most `rounds` rounds of the mining loop. -/
def mine (txIdPrefix : List UInt8) (timeoutNanos : ℕ) (elapsed : ℕ → ℕ)
    (input : MiningInput Script) (rounds : ℕ) :
    Option (Except String (UInt32 × KaspaTransaction Script)) :=
  let payload := buildPayloadWithNonce input.payloadHeader input.l2data 0
  let nonceOffset := payload.length - 4
  let tx := unminedTransaction transactionId input.inputs input.outputValue input.scriptPublicKey
    payload
  loop (mineBody transactionId txIdPrefix timeoutNanos elapsed nonceOffset) rounds ⟨0, 0, tx⟩

/-! ### Candidates -/

/-- The value of the output after it was lowered `wraps` times. -/
def loweredValue (outputValue : UInt64) (wraps : ℕ) : UInt64 :=
  UInt64.ofNat (outputValue.toNat - wraps)

/-- The transaction with an output value and a nonce. -/
def transactionWith (input : MiningInput Script) (value : UInt64) (nonce : UInt32) :
    KaspaTransaction Script :=
  unminedTransaction transactionId input.inputs value input.scriptPublicKey
    (buildPayloadWithNonce input.payloadHeader input.l2data nonce)

/-- The candidate after `wraps` wrap-arounds of the nonce. -/
def candidate (input : MiningInput Script) (wraps : ℕ) (nonce : UInt32) :
    KaspaTransaction Script :=
  transactionWith transactionId input (loweredValue input.outputValue wraps) nonce

/-- The candidate of a round. -/
def candidateAt (input : MiningInput Script) (k : ℕ) : KaspaTransaction Script :=
  candidate transactionId input (k / 2 ^ 32) (UInt32.ofNat k)

/-- The state of the loop before a round. -/
def stateAt (input : MiningInput Script) (k : ℕ) : MiningState Script :=
  ⟨k, UInt32.ofNat k,
    candidate transactionId input (k / 2 ^ 32) (UInt32.ofNat (k - 1))⟩

variable {transactionId : TransactionContent Script → List UInt8} {input : MiningInput Script}

theorem loweredValue_zero (outputValue : UInt64) : loweredValue outputValue 0 = outputValue := by
  rw [loweredValue, Nat.sub_zero, UInt64.ofNat_toNat]

theorem toNat_loweredValue (outputValue : UInt64) (wraps : ℕ) :
    (loweredValue outputValue wraps).toNat = outputValue.toNat - wraps := by
  have h := outputValue.toNat_lt
  rw [loweredValue, UInt64.toNat_ofNat_of_lt' (show outputValue.toNat - wraps < 2 ^ 64 by omega)]

theorem saturatingSub_loweredValue (outputValue : UInt64) (wraps : ℕ) :
    saturatingSub (loweredValue outputValue wraps) 1 = loweredValue outputValue (wraps + 1) := by
  rw [← UInt64.toNat_inj, toNat_saturatingSub, toNat_loweredValue, toNat_loweredValue,
    UInt64.toNat_one, Nat.sub_sub]

/-- Patching a candidate and finalizing it gives the candidate with the new nonce. -/
theorem finalize_patchNonce (value : UInt64) (nonce nonce' : UInt32) :
    finalize transactionId
        (patchNonce (payloadLenOf input.l2data - 4) nonce'
          (transactionWith transactionId input value nonce)) =
      transactionWith transactionId input value nonce' := by
  have hpatch := buildPayloadWithNonce_patch input.payloadHeader input.l2data nonce nonce'
  rw [length_buildPayloadWithNonce] at hpatch
  simp only [finalize, patchNonce, transactionWith, unminedTransaction, hpatch]

/-- Lowering the output of a candidate and finalizing it gives the candidate of the next wrap. -/
theorem finalize_lowerFirstOutput (wraps : ℕ) (nonce : UInt32) :
    finalize transactionId (lowerFirstOutput (candidate transactionId input wraps nonce)) =
      candidate transactionId input (wraps + 1) nonce := by
  simp only [candidate]
  rw [← saturatingSub_loweredValue]
  rfl

/-- The nonce wraps around exactly when the number of the wrap goes on. -/
theorem ofNat_add_one_eq_zero_iff (k : ℕ) :
    UInt32.ofNat k + 1 = 0 ↔ (k + 1) / 2 ^ 32 = k / 2 ^ 32 + 1 := by
  rw [← UInt32.toNat_inj, UInt32.toNat_add, UInt32.toNat_ofNat', UInt32.toNat_one,
    UInt32.toNat_zero]
  omega

theorem ofNat_add_one (k : ℕ) : UInt32.ofNat k + 1 = UInt32.ofNat (k + 1) := by
  rw [UInt32.ofNat_add]
  rfl

/-- Every candidate is the candidate of a round. -/
theorem candidateAt_add (wraps : ℕ) (nonce : UInt32) :
    candidateAt transactionId input (wraps * 2 ^ 32 + nonce.toNat) =
      candidate transactionId input wraps nonce := by
  have hn := nonce.toNat_lt
  have hwraps : (wraps * 2 ^ 32 + nonce.toNat) / 2 ^ 32 = wraps := by omega
  have hnonce : UInt32.ofNat (wraps * 2 ^ 32 + nonce.toNat) = nonce := by
    rw [← UInt32.toNat_inj, UInt32.toNat_ofNat']
    omega
  rw [candidateAt, hwraps, hnonce]

variable {txIdPrefix : List UInt8} {timeoutNanos : ℕ} {elapsed : ℕ → ℕ}

/-- **One round** tries the candidate of the round. -/
theorem mineBody_stateAt (k : ℕ) :
    mineBody transactionId txIdPrefix timeoutNanos elapsed (payloadLenOf input.l2data - 4)
        (stateAt transactionId input k) =
      if timeoutNanos < elapsed k then .inl (.error (miningTimeoutError timeoutNanos))
      else if txIdPrefix.isPrefixOf (candidateAt transactionId input k).id then
        .inl (.ok (UInt32.ofNat k, candidateAt transactionId input k))
      else .inr (stateAt transactionId input (k + 1)) := by
  have hpatch : finalize transactionId (patchNonce (payloadLenOf input.l2data - 4) (UInt32.ofNat k)
      (stateAt transactionId input k).tx) = candidateAt transactionId input k :=
    finalize_patchNonce ..
  have hnext : (if UInt32.ofNat (k + 1) = 0 then
      finalize transactionId (lowerFirstOutput (candidateAt transactionId input k))
      else candidateAt transactionId input k) = (stateAt transactionId input (k + 1)).tx := by
    rw [← ofNat_add_one]
    split_ifs with hwrap
    · rw [candidateAt, finalize_lowerFirstOutput, ← (ofNat_add_one_eq_zero_iff k).mp hwrap]
      rfl
    · have hsame : (k + 1) / 2 ^ 32 = k / 2 ^ 32 := by
        have := mt (ofNat_add_one_eq_zero_iff k).mpr hwrap
        omega
      rw [candidateAt, ← hsame]
      rfl
  have hround : (stateAt transactionId input k).round = k := rfl
  have hnonce : (stateAt transactionId input k).nonce = UInt32.ofNat k := rfl
  simp only [mineBody, hround, hnonce, ofNat_add_one, hpatch, hnext]
  rfl

/-- The id of the candidate of a round begins with the prefix. -/
def Matches (transactionId : TransactionContent Script → List UInt8) (txIdPrefix : List UInt8)
    (input : MiningInput Script) (k : ℕ) : Prop :=
  txIdPrefix <+: (candidateAt transactionId input k).id

instance (k : ℕ) : Decidable (Matches transactionId txIdPrefix input k) :=
  inferInstanceAs (Decidable (_ <+: _))

/-- The loop accepts the candidate of round `k`: it is the first that matches, and no reading up to
it is past the timeout. -/
structure Accepts (transactionId : TransactionContent Script → List UInt8)
    (txIdPrefix : List UInt8) (timeoutNanos : ℕ) (elapsed : ℕ → ℕ) (input : MiningInput Script)
    (k : ℕ) : Prop where
  here : Matches transactionId txIdPrefix input k
  first : ∀ j < k, ¬Matches transactionId txIdPrefix input j
  inTime : ∀ j ≤ k, elapsed j ≤ timeoutNanos

theorem follows_stateAt :
    Follows (mineBody transactionId txIdPrefix timeoutNanos elapsed
      (payloadLenOf input.l2data - 4)) (stateAt transactionId input) := by
  intro k s hs
  rw [mineBody_stateAt] at hs
  split_ifs at hs
  exact (Sum.inr.inj hs).symm

theorem mine_eq_loop (rounds : ℕ) :
    mine transactionId txIdPrefix timeoutNanos elapsed input rounds =
      loop (mineBody transactionId txIdPrefix timeoutNanos elapsed
        (payloadLenOf input.l2data - 4)) rounds (stateAt transactionId input 0) := by
  rw [mine, length_buildPayloadWithNonce, stateAt, candidate, Nat.zero_div, loweredValue_zero]
  rfl

/-- **What the loop accepts.** -/
theorem mine_eq_ok_iff {rounds : ℕ} {nonce : UInt32} {tx : KaspaTransaction Script} :
    mine transactionId txIdPrefix timeoutNanos elapsed input rounds = some (.ok (nonce, tx)) ↔
      ∃ k < rounds, Accepts transactionId txIdPrefix timeoutNanos elapsed input k ∧
        nonce = UInt32.ofNat k ∧ tx = candidateAt transactionId input k := by
  rw [mine_eq_loop, loop_eq_some_iff follows_stateAt]
  refine exists_congr fun k => and_congr_right fun _ => ?_
  simp only [EndsAt, mineBody_stateAt]
  constructor
  · rintro ⟨hend, hgo⟩
    have htime : ¬timeoutNanos < elapsed k := fun h => by
      rw [if_pos h] at hend
      cases Sum.inl.inj hend
    rw [if_neg htime] at hend
    split_ifs at hend with hmatch
    obtain ⟨rfl, rfl⟩ := Prod.mk.inj (Except.ok.inj (Sum.inl.inj hend))
    have hbefore : ∀ j < k, ¬timeoutNanos < elapsed j ∧
        ¬Matches transactionId txIdPrefix input j := by
      intro j hj
      have h := hgo j hj
      split_ifs at h with ht hm
      exact ⟨ht, fun hp => hm (List.isPrefixOf_iff_prefix.mpr hp)⟩
    refine ⟨⟨List.isPrefixOf_iff_prefix.mp hmatch, fun j hj => (hbefore j hj).2, fun j hj => ?_⟩,
      rfl, rfl⟩
    rcases Nat.lt_or_eq_of_le hj with hlt | rfl
    · exact Nat.not_lt.mp (hbefore j hlt).1
    · exact Nat.not_lt.mp htime
  · rintro ⟨haccepts, rfl, rfl⟩
    refine ⟨?_, fun j hj => ?_⟩
    · rw [if_neg (Nat.not_lt.mpr (haccepts.inTime k (le_refl k))),
        if_pos (List.isPrefixOf_iff_prefix.mpr haccepts.here)]
    · rw [if_neg (Nat.not_lt.mpr (haccepts.inTime j hj.le)),
        if_neg (mt List.isPrefixOf_iff_prefix.mp (haccepts.first j hj))]

/-- The only error of the loop is the timeout. -/
theorem mine_error {rounds : ℕ} {err : String}
    (h : mine transactionId txIdPrefix timeoutNanos elapsed input rounds = some (.error err)) :
    err = miningTimeoutError timeoutNanos := by
  rw [mine_eq_loop, loop_eq_some_iff follows_stateAt] at h
  obtain ⟨k, -, hend, -⟩ := h
  rw [mineBody_stateAt] at hend
  split_ifs at hend
  · exact (Except.error.inj (Sum.inl.inj hend)).symm
  · cases Sum.inl.inj hend

/-- The loop ends once the timeout has passed. -/
theorem exists_mine_eq_some {k rounds : ℕ} (hk : timeoutNanos < elapsed k) (hrounds : k < rounds) :
    ∃ r, mine transactionId txIdPrefix timeoutNanos elapsed input rounds = some r := by
  rw [mine_eq_loop]
  have hend : mineBody transactionId txIdPrefix timeoutNanos elapsed (payloadLenOf input.l2data - 4)
      (stateAt transactionId input k) = .inl (.error (miningTimeoutError timeoutNanos)) := by
    rw [mineBody_stateAt, if_pos hk]
  exact exists_loop_eq_some follows_stateAt hrounds hend

end Mining

end FoundryIgra
