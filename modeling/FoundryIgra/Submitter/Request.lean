import FoundryIgra.Config
import FoundryIgra.Payload

/-!
# Submission requests

What the transport hands to a submitter, and the configuration checks that `submit_payload` runs
on it before it mines (`submitter.rs`; `keys.rs`, `kaspa_network_descriptor`). The hexadecimal
decoder of the library is a parameter.

## Main definitions

* `IgraSubmitRequest`, `IgraSubmitResult`.
* `kaspaNetworkDescriptor`, `requiredField`, `decodeTxIdPrefix`.
* `DecodesHex`: the behaviour of the library's decoder on hexadecimal texts.
-/

namespace FoundryIgra

open Rust

/-- Kaspa network types. -/
inductive KaspaNetworkType
  | mainnet
  | testnet
  | devnet
  | simnet
  deriving DecidableEq

/-- Kaspa address prefixes. -/
inductive KaspaAddressPrefix
  | mainnet
  | testnet
  | devnet
  | simnet
  deriving DecidableEq

/-- `kaspa_network_descriptor`. -/
def kaspaNetworkDescriptor (network : String) :
    Except String (KaspaNetworkType × KaspaAddressPrefix) :=
  if network = "mainnet" then .ok (.mainnet, .mainnet)
  else if network = "testnet-10" then .ok (.testnet, .testnet)
  else if network = "devnet" then .ok (.devnet, .devnet)
  else if network = "simnet" then .ok (.simnet, .simnet)
  else if network = "custom" then
    .error "IGRA config error: `kaspa_network=custom` requires explicit in-process network mapping"
  else .error ("IGRA config error: unsupported kaspa_network `" ++ network ++ "`")

/-- Payload submission request forwarded to a Kaspa submitter. -/
structure IgraSubmitRequest where
  l2TxHash : String
  rawTxBytes : List UInt8
  txIdPrefix : String
  miningTimeoutSecs : UInt64
  kaspaRpcUrl : Option String
  kaspaNetwork : Option String
  payloadCompression : Option String
  kaspaWallet : IgraKaspaWalletConfig
  deriving DecidableEq

/-- Result returned by a Kaspa submitter. -/
structure IgraSubmitResult where
  kaspaTxId : String
  payloadNonce : UInt64
  deriving DecidableEq

/-- A field that `submit_payload` requires. -/
def requiredField (field : String) (value : Option String) : Except String String :=
  match value with
  | some value => .ok value
  | none => .error ("IGRA config error: `" ++ field ++ "` is required")

/-- The prefix check of `submit_payload`. -/
def decodeTxIdPrefix (hexDecode : String → Except String (List UInt8)) (txIdPrefix : String) :
    Except String (List UInt8) :=
  let hexPrefix := normalizeHexPrefix txIdPrefix
  if hexPrefix = "" then .error "IGRA config error: `tx_id_prefix` cannot be empty"
  else
    match hexDecode hexPrefix with
    | .ok bytes => .ok bytes
    | .error err => .error ("IGRA config error: `tx_id_prefix` is invalid hex: " ++ err)

/-- The decoder maps an even number of hexadecimal digits to the bytes they spell. -/
def DecodesHex (hexDecode : String → Except String (List UInt8)) : Prop :=
  ∀ s : String, (∀ c ∈ s.toList, isAsciiHexdigit c = true) → s.toList.length % 2 = 0 →
    hexDecode s = .ok (hexPairs s.toList)

/-- Of the networks that the validation lists, the descriptor refuses exactly `custom`. -/
theorem kaspaNetworkDescriptor_ok_iff {network : String} (h : network ∈ supportedNetworks) :
    (∃ d, kaspaNetworkDescriptor network = .ok d) ↔ network ≠ "custom" := by
  simp only [supportedNetworks, List.mem_cons, List.not_mem_nil, or_false] at h
  rcases h with rfl | rfl | rfl | rfl | rfl <;> simp [kaspaNetworkDescriptor]

/-- A hexadecimal prefix decodes, in its normal form, to the bytes it spells. -/
theorem decodeTxIdPrefix_normalize {hexDecode : String → Except String (List UInt8)}
    (hhex : DecodesHex hexDecode) {p : String}
    (hdigits : ∀ c ∈ trimChars p.toList, isAsciiHexdigit c = true)
    (heven : (trimChars p.toList).length % 2 = 0) (hne : trim p ≠ "") :
    decodeTxIdPrefix hexDecode (normalizeHexPrefix p) = .ok (hexPairs (trimChars p.toList)) := by
  have htwice := toList_normalizeHexPrefix_twice hdigits
  have hlower : ∀ c ∈ (trimChars p.toList).map Char.toLower, isAsciiHexdigit c = true := by
    rintro c hc
    obtain ⟨d, hd, rfl⟩ := List.mem_map.mp hc
    exact (hexdigit_toLower (hdigits d hd)).1
  have hnonempty : normalizeHexPrefix (normalizeHexPrefix p) ≠ "" := by
    rintro hempty
    rw [hempty] at htwice
    have hnil : trimChars p.toList = [] := by simpa using htwice.symm
    exact hne (by rw [trim, hnil])
  have hdecode : hexDecode (normalizeHexPrefix (normalizeHexPrefix p)) =
      .ok (hexPairs (trimChars p.toList)) := by
    rw [hhex, htwice, hexPairs_map_toLower hlower, hexPairs_map_toLower hdigits]
    · rw [htwice]
      rintro c hc
      obtain ⟨d, hd, rfl⟩ := List.mem_map.mp hc
      exact (hexdigit_toLower (hlower d hd)).1
    · rw [htwice, List.length_map, List.length_map]
      exact heven
  rw [decodeTxIdPrefix, if_neg hnonempty, hdecode]

/-- A prefix of at most 32 bytes begins some 32-byte transaction id. -/
theorem exists_txId_of_length_le {bytes : List UInt8} (h : bytes.length ≤ 32) :
    ∃ txId : List UInt8, txId.length = 32 ∧ bytes <+: txId := by
  refine ⟨bytes ++ List.replicate (32 - bytes.length) 0, ?_, List.prefix_append ..⟩
  rw [List.length_append, List.length_replicate]
  omega

end FoundryIgra
