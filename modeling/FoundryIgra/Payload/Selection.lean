import FoundryIgra.Order.LargestFirst
import FoundryIgra.Rust.Word
import Mathlib.Algebra.Order.Group.Nat

/-!
# Coin selection

The fee estimate and the selection of unspent outputs in `mine_and_build_signed_payload_transaction`
(`payload.rs`): the outputs are taken largest first until their saturating total covers the fee for
as many inputs and the minimum change. The loop stops at the shortest prefix that affords this, and
among the sub-multisets of a given size the prefix weighs the most, so the selection fails only
when no sub-multiset suffices and never takes more inputs than needed.

## Main definitions

* `estimatedFeeSompi`, `exactFeeSompi`: the fee, as computed and in exact integers.
* `RpcUtxosByAddressesEntry`, `largestFirst`, `selectLoop`, `selectUtxos`.
* `Covers`: a multiset of outputs pays for its fee and the minimum change.

## Main results

* `selectLoop_prefix`: the loop stops at the shortest prefix that affords its fee.
* `selectUtxos_complete`: the selection is complete and minimal.
-/

namespace FoundryIgra

open Rust LargestFirst

/-! ### Fees -/

/-- Base submission fee in sompi. -/
def baseSubmitFeeSompi : UInt64 := 200000

/-- Fee per KiB of payload in sompi. -/
def feePerKibSompi : UInt64 := 20000

/-- Additional fee per extra UTXO input in sompi. -/
def extraInputFeeSompi : UInt64 := 10000

/-- Minimum change output value in sompi. -/
def minChangeSompi : UInt64 := 1000

/-- `estimated_fee_sompi`. -/
def estimatedFeeSompi (payloadLen inputs : ℕ) : UInt64 :=
  let kib := divCeil (clampU64 payloadLen) 1024
  let inputTail := clampU64 (inputs - 1)
  saturatingAdd
    (saturatingAdd baseSubmitFeeSompi (saturatingMul kib feePerKibSompi))
    (saturatingMul inputTail extraInputFeeSompi)

/-- The fee in exact integers. -/
def exactFeeSompi (payloadLen inputs : ℕ) : ℕ :=
  200000 + (payloadLen + 1023) / 1024 * 20000 + (inputs - 1) * 10000

/-- The computed fee is the exact fee, clamped. -/
theorem toNat_estimatedFeeSompi (payloadLen inputs : ℕ) :
    (estimatedFeeSompi payloadLen inputs).toNat =
      min (exactFeeSompi payloadLen inputs) (2 ^ 64 - 1) := by
  have hkib : (divCeil (clampU64 payloadLen) 1024).toNat =
      (min payloadLen (2 ^ 64 - 1) + 1023) / 1024 := by
    rw [toNat_divCeil (by decide), toNat_clampU64]
    rfl
  have hfee : feePerKibSompi.toNat = 20000 := rfl
  have hbase : baseSubmitFeeSompi.toNat = 200000 := rfl
  have hextra : extraInputFeeSompi.toNat = 10000 := rfl
  rw [estimatedFeeSompi, exactFeeSompi, toNat_saturatingAdd, toNat_saturatingAdd,
    toNat_saturatingMul, toNat_saturatingMul, toNat_clampU64, hkib, hfee, hbase, hextra]
  omega

theorem exactFeeSompi_mono (payloadLen : ℕ) {m n : ℕ} (h : m ≤ n) :
    exactFeeSompi payloadLen m ≤ exactFeeSompi payloadLen n := by
  simp only [exactFeeSompi]
  omega

/-- Fees come in steps of 10000 sompi, so a fee that does not saturate leaves room for the minimum
change. -/
theorem exactFeeSompi_add_lt {payloadLen n : ℕ} (h : exactFeeSompi payloadLen n < 2 ^ 64) :
    exactFeeSompi payloadLen n + minChangeSompi.toNat < 2 ^ 64 := by
  have hmin : minChangeSompi.toNat = 1000 := rfl
  simp only [exactFeeSompi] at h ⊢
  omega

/-! ### Unspent outputs -/

/-- `TransactionOutpoint`. -/
structure TransactionOutpoint where
  transactionId : List UInt8
  index : UInt32
  deriving DecidableEq

/-- `UtxoEntry`. -/
structure UtxoEntry (Script : Type) where
  amount : UInt64
  scriptPublicKey : Script
  blockDaaScore : UInt64
  isCoinbase : Bool
  deriving DecidableEq

/-- `RpcUtxosByAddressesEntry`. -/
structure RpcUtxosByAddressesEntry (Script : Type) where
  outpoint : TransactionOutpoint
  utxoEntry : UtxoEntry Script
  deriving DecidableEq

section Selection

variable {Script : Type}

/-- The amount of an unspent output, in exact integers. -/
def amountOf (u : RpcUtxosByAddressesEntry Script) : ℕ := u.utxoEntry.amount.toNat

/-- The order of the keys `Reverse(amount)`. -/
def reverseAmountLe (a b : RpcUtxosByAddressesEntry Script) : Bool :=
  b.utxoEntry.amount ≤ a.utxoEntry.amount

/-- `sort_by_key(Reverse(amount))`, a stable sort. -/
def largestFirst (utxos : List (RpcUtxosByAddressesEntry Script)) :
    List (RpcUtxosByAddressesEntry Script) :=
  utxos.mergeSort reverseAmountLe

/-- The selection loop: what is selected, its saturating total, and what is left to look at. -/
def selectLoop (payloadLen : ℕ) (selected : List (RpcUtxosByAddressesEntry Script))
    (totalInput : UInt64) : List (RpcUtxosByAddressesEntry Script) →
      List (RpcUtxosByAddressesEntry Script) × UInt64
  | [] => (selected, totalInput)
  | entry :: rest =>
    let totalInput := saturatingAdd totalInput entry.utxoEntry.amount
    let selected := selected ++ [entry]
    let requiredFee := estimatedFeeSompi payloadLen selected.length
    if saturatingAdd requiredFee minChangeSompi ≤ totalInput then (selected, totalInput)
    else selectLoop payloadLen selected totalInput rest

/-- What was selected, and the value of the one output. -/
structure Selected (Script : Type) where
  selected : List (RpcUtxosByAddressesEntry Script)
  outputValue : UInt64

/-- The message when the outputs do not pay for the fee. -/
def insufficientUtxosError (sourceAddress : String) : String :=
  "IGRA submit error: insufficient Kaspa UTXOs for fee payment (source address: " ++
    sourceAddress ++ ")"

/-- The selection, with its checks. -/
def selectUtxos (sourceAddress : String) (payloadLen : ℕ)
    (utxos : List (RpcUtxosByAddressesEntry Script)) : Except String (Selected Script) :=
  let (selected, totalInput) := selectLoop payloadLen [] 0 (largestFirst utxos)
  let fee := estimatedFeeSompi payloadLen selected.length
  if totalInput < saturatingAdd fee minChangeSompi then
    .error (insufficientUtxosError sourceAddress)
  else
    let outputValue := saturatingSub totalInput fee
    if outputValue < minChangeSompi then .error (insufficientUtxosError sourceAddress)
    else .ok ⟨selected, outputValue⟩

/-- The length of the payload for `l2data`: a header byte and four nonce bytes are added. -/
def payloadLenOf (l2data : List UInt8) : ℕ := 1 + l2data.length + 4

/-! ### The loop -/

/-- A multiset of unspent outputs. -/
abbrev UtxoMultiset (Script : Type) : Type := Multiset (RpcUtxosByAddressesEntry Script)

/-- The outputs pay for the fee for their number and the minimum change, in exact integers. -/
def Covers (payloadLen : ℕ) (s : UtxoMultiset Script) : Prop :=
  (estimatedFeeSompi payloadLen s.card).toNat + minChangeSompi.toNat ≤ (s.map amountOf).sum

/-- The test of the loop at `selected`: the requirement is clamped. -/
def Affords (payloadLen : ℕ) (selected : List (RpcUtxosByAddressesEntry Script)) : Prop :=
  min ((estimatedFeeSompi payloadLen selected.length).toNat + minChangeSompi.toNat) (2 ^ 64 - 1) ≤
    (selected.map amountOf).sum

/-- The total is the sum of the selected amounts, clamped. -/
def IsTotal (selected : List (RpcUtxosByAddressesEntry Script)) (totalInput : UInt64) : Prop :=
  totalInput.toNat = min (selected.map amountOf).sum (2 ^ 64 - 1)

theorem isTotal_nil : IsTotal ([] : List (RpcUtxosByAddressesEntry Script)) 0 := rfl

theorem IsTotal.append {selected : List (RpcUtxosByAddressesEntry Script)} {totalInput : UInt64}
    (h : IsTotal selected totalInput) (entry : RpcUtxosByAddressesEntry Script) :
    IsTotal (selected ++ [entry]) (saturatingAdd totalInput entry.utxoEntry.amount) := by
  rw [IsTotal, toNat_saturatingAdd, h, List.map_append, List.sum_append]
  simp only [List.map_cons, List.map_nil, List.sum_cons, List.sum_nil, amountOf]
  omega

/-- The test of the loop, on a clamped total. -/
theorem IsTotal.affords_iff {payloadLen : ℕ} {selected : List (RpcUtxosByAddressesEntry Script)}
    {totalInput : UInt64} (h : IsTotal selected totalInput) :
    saturatingAdd (estimatedFeeSompi payloadLen selected.length) minChangeSompi ≤ totalInput ↔
      Affords payloadLen selected := by
  rw [UInt64.le_iff_toNat_le, toNat_saturatingAdd, h, Affords]
  omega

/-- **The loop** stops at the shortest prefix that affords its fee, or takes everything. -/
theorem selectLoop_prefix (payloadLen : ℕ) {selected : List (RpcUtxosByAddressesEntry Script)}
    (rest : List (RpcUtxosByAddressesEntry Script)) {totalInput : UInt64}
    (htotal : IsTotal selected totalInput) :
    ∃ k total, k ≤ rest.length ∧
      selectLoop payloadLen selected totalInput rest = (selected ++ rest.take k, total) ∧
      IsTotal (selected ++ rest.take k) total ∧
      (∀ j, 0 < j → j < k → ¬Affords payloadLen (selected ++ rest.take j)) ∧
      (k = rest.length ∨ 0 < k ∧ Affords payloadLen (selected ++ rest.take k)) := by
  induction rest generalizing selected totalInput with
  | nil =>
    refine ⟨0, totalInput, le_refl _, by simp [selectLoop], by simpa using htotal, ?_, Or.inl rfl⟩
    intro j _ hj
    omega
  | cons entry rest ih =>
    have hnext := htotal.append entry
    rw [selectLoop]
    by_cases haffords : Affords payloadLen (selected ++ [entry])
    · rw [if_pos (hnext.affords_iff.mpr haffords)]
      refine ⟨1, saturatingAdd totalInput entry.utxoEntry.amount, by simp, by simp,
        by simpa using hnext, fun j _ hj => by omega, ?_⟩
      exact Or.inr ⟨Nat.one_pos, by simpa using haffords⟩
    · rw [if_neg (mt hnext.affords_iff.mp haffords)]
      obtain ⟨k, total, hk, heq, hsum, hmin, hend⟩ := ih hnext
      have hsplit : ∀ j, selected ++ (entry :: rest).take (j + 1) =
          selected ++ [entry] ++ rest.take j := fun j => by simp
      refine ⟨k + 1, total, by simpa using hk, by rw [hsplit, heq], by rwa [hsplit],
        fun j hj hjk => ?_, ?_⟩
      · obtain ⟨i, rfl⟩ := Nat.exists_eq_add_of_lt hj
        rw [Nat.zero_add, hsplit]
        rcases Nat.eq_zero_or_pos i with rfl | hi
        · simpa using haffords
        · exact hmin i hi (by omega)
      · rcases hend with rfl | ⟨hpos, hk⟩
        · exact Or.inl rfl
        · rw [hsplit]
          exact Or.inr ⟨Nat.succ_pos k, hk⟩

/-! ### The selection -/

theorem descending_largestFirst (utxos : List (RpcUtxosByAddressesEntry Script)) :
    Descending amountOf (largestFirst utxos) := by
  have htrans : ∀ a b c : RpcUtxosByAddressesEntry Script,
      reverseAmountLe a b = true → reverseAmountLe b c = true → reverseAmountLe a c = true := by
    intro a b c hab hbc
    simp only [reverseAmountLe, decide_eq_true_eq] at hab hbc ⊢
    exact UInt64.le_trans hbc hab
  have htotal : ∀ a b : RpcUtxosByAddressesEntry Script,
      (reverseAmountLe a b || reverseAmountLe b a) = true := by
    intro a b
    simp only [reverseAmountLe, Bool.or_eq_true, decide_eq_true_eq]
    exact UInt64.le_total ..
  refine (List.pairwise_mergeSort htrans htotal utxos).imp fun hab => ?_
  exact UInt64.le_iff_toNat_le.mp (of_decide_eq_true hab)

theorem coe_largestFirst (utxos : List (RpcUtxosByAddressesEntry Script)) :
    (largestFirst utxos : UtxoMultiset Script) = utxos :=
  Multiset.coe_eq_coe.mpr (List.mergeSort_perm ..)

theorem length_largestFirst (utxos : List (RpcUtxosByAddressesEntry Script)) :
    (largestFirst utxos).length = utxos.length :=
  (List.mergeSort_perm ..).length_eq

/-- Outputs that are in order stay in order. -/
theorem largestFirst_eq_self {utxos : List (RpcUtxosByAddressesEntry Script)}
    (h : utxos.Pairwise fun a b => reverseAmountLe a b = true) : largestFirst utxos = utxos :=
  List.mergeSort_of_pairwise h

/-- Nothing is afforded without outputs. -/
theorem not_affords_nil {payloadLen : ℕ} :
    ¬Affords payloadLen ([] : List (RpcUtxosByAddressesEntry Script)) := by
  have hmin : minChangeSompi.toNat = 1000 := rfl
  simp only [Affords, List.map_nil, List.sum_nil]
  omega

variable {sourceAddress : String} {payloadLen : ℕ} {utxos : List (RpcUtxosByAddressesEntry Script)}

/-- What a selection is: the shortest prefix that affords its fee, and what it leaves. -/
theorem selectUtxos_ok {sel : Selected Script}
    (h : selectUtxos sourceAddress payloadLen utxos = .ok sel) :
    ∃ k, 0 < k ∧ k ≤ utxos.length ∧ sel.selected = (largestFirst utxos).take k ∧
      Affords payloadLen ((largestFirst utxos).take k) ∧
      (∀ j, 0 < j → j < k → ¬Affords payloadLen ((largestFirst utxos).take j)) ∧
      sel.outputValue.toNat + (estimatedFeeSompi payloadLen k).toNat =
        min (sel.selected.map amountOf).sum (2 ^ 64 - 1) ∧
      minChangeSompi ≤ sel.outputValue := by
  obtain ⟨k, total, hk, heq, htotal, hmin, -⟩ :=
    selectLoop_prefix payloadLen (largestFirst utxos) isTotal_nil
  rw [List.nil_append] at heq htotal
  simp only [List.nil_append] at hmin
  rw [length_largestFirst] at hk
  have hlen : ((largestFirst utxos).take k).length = k := by
    rw [List.length_take, length_largestFirst, min_eq_left hk]
  simp only [selectUtxos, heq] at h
  split_ifs at h with hlow hdust
  obtain rfl := Except.ok.inj h
  have haffords := htotal.affords_iff.mp (UInt64.not_lt.mp hlow)
  have hpos : 0 < k := by
    rcases Nat.eq_zero_or_pos k with rfl | hpos
    · exact absurd haffords not_affords_nil
    · exact hpos
  refine ⟨k, hpos, hk, rfl, haffords, hmin, ?_, by simpa only using UInt64.not_lt.mp hdust⟩
  have hfee := UInt64.le_iff_toNat_le.mp (UInt64.not_lt.mp hlow)
  rw [toNat_saturatingAdd] at hfee
  have hlt := (estimatedFeeSompi payloadLen k).toNat_lt
  simp only [toNat_saturatingSub, hlen] at hfee ⊢
  rw [← htotal]
  omega

/-- A failed selection: where the fee does not saturate, no prefix affords its fee. -/
theorem selectUtxos_error {err : String}
    (h : selectUtxos sourceAddress payloadLen utxos = .error err) :
    err = insufficientUtxosError sourceAddress ∧
      (exactFeeSompi payloadLen utxos.length < 2 ^ 64 → ∀ j, 0 < j → j ≤ utxos.length →
        ¬Affords payloadLen ((largestFirst utxos).take j)) := by
  obtain ⟨k, total, hk, heq, htotal, hmin, hend⟩ :=
    selectLoop_prefix payloadLen (largestFirst utxos) isTotal_nil
  rw [List.nil_append] at heq htotal hend
  simp only [List.nil_append] at hmin
  rw [length_largestFirst] at hk hend
  simp only [selectUtxos, heq] at h
  split_ifs at h with hlow hdust
  · obtain rfl := Except.error.inj h
    refine ⟨rfl, fun _ j hj hjn => ?_⟩
    have hnot := mt htotal.affords_iff.mpr (UInt64.not_le.mpr hlow)
    obtain rfl : k = utxos.length := hend.resolve_right fun hr => hnot hr.2
    rcases Nat.lt_or_eq_of_le hjn with hlt | rfl
    · exact hmin j hj hlt
    · exact hnot
  · -- the remainder falls short only when the fee saturates
    obtain rfl := Except.error.inj h
    refine ⟨rfl, fun hfee => ?_⟩
    exfalso
    have hlen : ((largestFirst utxos).take k).length = k := by
      rw [List.length_take, length_largestFirst, min_eq_left hk]
    have hroom := exactFeeSompi_add_lt
      (lt_of_le_of_lt (exactFeeSompi_mono payloadLen hk) hfee)
    have hle := UInt64.le_iff_toNat_le.mp (UInt64.not_lt.mp hlow)
    have hdust := UInt64.lt_iff_toNat_lt.mp hdust
    rw [toNat_saturatingAdd, hlen, toNat_estimatedFeeSompi] at hle
    rw [toNat_saturatingSub, hlen, toNat_estimatedFeeSompi] at hdust
    omega

/-- Where the fee does not saturate, the test of the loop is exact. -/
theorem affords_iff_covers {selected : List (RpcUtxosByAddressesEntry Script)}
    (h : exactFeeSompi payloadLen selected.length < 2 ^ 64) :
    Affords payloadLen selected ↔
      Covers payloadLen (selected : UtxoMultiset Script) := by
  have hroom := exactFeeSompi_add_lt h
  rw [Affords, Covers, Multiset.coe_card, Multiset.map_coe, Multiset.sum_coe,
    toNat_estimatedFeeSompi]
  omega

/-- A multiset of outputs that covers its fee has a prefix of its size that does. -/
theorem Covers.take {s : UtxoMultiset Script}
    (hs : s ≤ (utxos : UtxoMultiset Script)) (h : Covers payloadLen s) :
    Covers payloadLen ((largestFirst utxos).take s.card : UtxoMultiset Script) := by
  have hcard : s.card ≤ utxos.length := by simpa using Multiset.card_le_card hs
  have hlen : ((largestFirst utxos).take s.card).length = s.card := by
    rw [List.length_take, length_largestFirst, min_eq_left hcard]
  rw [← coe_largestFirst] at hs
  have hsum := sum_le_sum_take (descending_largestFirst utxos) hs
  rw [Covers, Multiset.coe_card, hlen, Multiset.map_coe, Multiset.sum_coe]
  exact le_trans h hsum

/-- Where the fee does not saturate, the code's test on a prefix decides whether the prefix pays. -/
theorem affords_take_iff_covers {payloadLen : ℕ} {utxos : List (RpcUtxosByAddressesEntry Script)}
    (hfee : exactFeeSompi payloadLen utxos.length < 2 ^ 64) {j : ℕ} (hj : j ≤ utxos.length) :
    Affords payloadLen ((largestFirst utxos).take j) ↔
      Covers payloadLen ((largestFirst utxos).take j : UtxoMultiset Script) := by
  refine affords_iff_covers (lt_of_le_of_lt (exactFeeSompi_mono _ ?_) hfee)
  rw [List.length_take, length_largestFirst]
  omega

/-- If some of the outputs pay, so does the prefix of as many of the largest ones. -/
theorem affords_take_card_of_covers {payloadLen : ℕ}
    {utxos : List (RpcUtxosByAddressesEntry Script)}
    (hfee : exactFeeSompi payloadLen utxos.length < 2 ^ 64) {s : UtxoMultiset Script}
    (hs : s ≤ utxos) (hcovers : Covers payloadLen s) :
    s.card ≤ utxos.length ∧ Affords payloadLen ((largestFirst utxos).take s.card) := by
  have hcard : s.card ≤ utxos.length := by simpa using Multiset.card_le_card hs
  exact ⟨hcard, (affords_take_iff_covers hfee hcard).mpr (hcovers.take hs)⟩

/-- **Coin selection is complete and minimal.** Where the fee does not saturate, the selection
fails exactly when no non-empty sub-multiset of the outputs covers its fee and the minimum change;
otherwise it selects one that does, with the fewest members. -/
theorem selectUtxos_complete (sourceAddress : String) (l2data : List UInt8)
    (utxos : List (RpcUtxosByAddressesEntry Script))
    (hfee : exactFeeSompi (payloadLenOf l2data) utxos.length < 2 ^ 64) :
    (selectUtxos sourceAddress (payloadLenOf l2data) utxos =
        .error (insufficientUtxosError sourceAddress) ↔
      ¬∃ s : UtxoMultiset Script,
        s ≠ 0 ∧ s ≤ utxos ∧ Covers (payloadLenOf l2data) s) ∧
    ∀ sel, selectUtxos sourceAddress (payloadLenOf l2data) utxos = .ok sel →
      (sel.selected : UtxoMultiset Script) ≤ utxos ∧ sel.selected ≠ [] ∧
      Covers (payloadLenOf l2data) (sel.selected : UtxoMultiset Script) ∧
      ∀ s : UtxoMultiset Script, s ≠ 0 → s ≤ utxos →
        Covers (payloadLenOf l2data) s → sel.selected.length ≤ s.card := by
  have hok : ∀ sel, selectUtxos sourceAddress (payloadLenOf l2data) utxos = .ok sel →
      (sel.selected : UtxoMultiset Script) ≤ utxos ∧ sel.selected ≠ [] ∧
      Covers (payloadLenOf l2data) (sel.selected : UtxoMultiset Script) ∧
      ∀ s : UtxoMultiset Script, s ≠ 0 → s ≤ utxos →
        Covers (payloadLenOf l2data) s → sel.selected.length ≤ s.card := by
    intro sel hsel
    obtain ⟨k, hpos, hk, heq, haffords, hmin, -, -⟩ := selectUtxos_ok hsel
    have hlen : ((largestFirst utxos).take k).length = k := by
      rw [List.length_take, length_largestFirst, min_eq_left hk]
    rw [heq]
    refine ⟨?_, ?_, (affords_take_iff_covers hfee hk).mp haffords, fun s hne hs hcovers => ?_⟩
    · rw [← coe_largestFirst utxos]
      exact Multiset.coe_le.mpr (List.take_sublist ..).subperm
    · rw [← List.length_pos_iff, hlen]
      exact hpos
    · obtain ⟨-, hs'⟩ := affords_take_card_of_covers hfee hs hcovers
      rw [hlen]
      by_contra hlt
      exact hmin s.card (Multiset.card_pos.mpr hne) (by omega) hs'
  refine ⟨⟨?_, fun hnone => ?_⟩, hok⟩
  · rintro herr ⟨s, hne, hs, hcovers⟩
    obtain ⟨hle, haffords⟩ := affords_take_card_of_covers hfee hs hcovers
    exact (selectUtxos_error herr).2 hfee s.card (Multiset.card_pos.mpr hne) hle haffords
  · cases hsel : selectUtxos sourceAddress (payloadLenOf l2data) utxos with
    | error err => rw [(selectUtxos_error hsel).1]
    | ok sel =>
      obtain ⟨hle, hne, hcovers, -⟩ := hok sel hsel
      exact absurd ⟨_, by simpa using hne, hle, hcovers⟩ hnone

end Selection

/-- An unspent output of a wallet. -/
def sampleUtxo (index : UInt32) (amount : UInt64) : RpcUtxosByAddressesEntry String where
  outpoint := ⟨List.replicate 32 0, index⟩
  utxoEntry := ⟨amount, "wallet", 0, false⟩

/-- A wallet whose outputs pay for a small payload only together. -/
theorem selectUtxos_complete_two :
    ∃ sel, selectUtxos "kaspatest:wallet" (payloadLenOf [0xc0])
        [sampleUtxo 0 150000, sampleUtxo 1 100000] = .ok sel ∧
      sel.selected.length = 2 ∧
      ∀ s : UtxoMultiset String, s ≠ 0 →
        s ≤ ([sampleUtxo 0 150000, sampleUtxo 1 100000] : List _) →
        Covers (payloadLenOf [0xc0]) s → 2 ≤ s.card := by
  have hsorted : largestFirst [sampleUtxo 0 150000, sampleUtxo 1 100000] =
      [sampleUtxo 0 150000, sampleUtxo 1 100000] := largestFirst_eq_self (by decide)
  have hsel : selectUtxos "kaspatest:wallet" (payloadLenOf [0xc0])
      [sampleUtxo 0 150000, sampleUtxo 1 100000] =
        .ok ⟨[sampleUtxo 0 150000, sampleUtxo 1 100000], 20000⟩ := by
    rw [selectUtxos, hsorted]
    rfl
  have hcomplete := selectUtxos_complete "kaspatest:wallet" [0xc0]
    [sampleUtxo 0 150000, sampleUtxo 1 100000] (by decide)
  exact ⟨_, hsel, rfl, (hcomplete.2 _ hsel).2.2.2⟩

end FoundryIgra
