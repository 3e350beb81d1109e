import FoundryIgra.Store.Schema
import FoundryIgra.Submitter.Request

/-!
# Transport settings

The settings of an `IgraTransport` and the submission request it builds from them
(`transport.rs`, `with_transport_config`), and what the validation of a configuration guarantees
to the submit path. The validation trims where the submit path compares raw texts, accepts the
network `custom` that the submit path refuses, and does not bound the length of the prefix.

## Main definitions

* `IgraTransportConfig`, `IgraTransport`, `IgraTransport.withTransportConfig`.
* `IgraTransport.submitRequest`: the request for a raw transaction.

## Main results

* `submitChecks_of_validate`: the configuration checks of the submit path on a validated
  configuration.
-/

namespace FoundryIgra

open Rust Store

/-- Runtime IGRA settings required by the transport write path. -/
structure IgraTransportConfig where
  txIdPrefix : Option String
  miningTimeoutSecs : Option UInt64
  kaspaRpcUrl : Option String
  kaspaNetwork : Option String
  payloadCompression : Option String
  kaspaWallet : IgraKaspaWalletConfig

/-- The settings of a transport; the wrapped transport and the submitter belong to the
environment. -/
structure IgraTransport where
  enabled : Bool
  store : Option IgraStore
  txIdPrefix : Option String
  miningTimeoutSecs : UInt64
  kaspaRpcUrl : Option String
  kaspaNetwork : Option String
  payloadCompression : Option String
  kaspaWallet : IgraKaspaWalletConfig
  deriving DecidableEq

namespace IgraTransport

/-- `IgraTransport::new`. -/
def new (enabled : Bool) : IgraTransport where
  enabled := enabled
  store := none
  txIdPrefix := none
  miningTimeoutSecs := defaultMiningTimeoutSecs
  kaspaRpcUrl := none
  kaspaNetwork := none
  payloadCompression := none
  kaspaWallet := .default

/-- `IgraTransport::with_transport_config`. -/
def withTransportConfig (self : IgraTransport) (config : IgraTransportConfig) : IgraTransport :=
  { self with
    txIdPrefix := config.txIdPrefix.map normalizeHexPrefix
    miningTimeoutSecs := config.miningTimeoutSecs.getD defaultMiningTimeoutSecs
    kaspaRpcUrl := config.kaspaRpcUrl
    kaspaNetwork := config.kaspaNetwork
    payloadCompression := config.payloadCompression
    kaspaWallet := config.kaspaWallet }

/-- The request the transport hands to its submitter. -/
def submitRequest (self : IgraTransport) (l2TxHash : String) (rawTx : List UInt8)
    (txIdPrefix : String) : IgraSubmitRequest where
  l2TxHash := l2TxHash
  rawTxBytes := rawTx
  txIdPrefix := txIdPrefix
  miningTimeoutSecs := self.miningTimeoutSecs
  kaspaRpcUrl := self.kaspaRpcUrl
  kaspaNetwork := self.kaspaNetwork
  payloadCompression := self.payloadCompression
  kaspaWallet := self.kaspaWallet

end IgraTransport

/-- A configuration copied verbatim into the transport settings. -/
def IgraConfig.toTransportConfig (config : IgraConfig) : IgraTransportConfig where
  txIdPrefix := config.txIdPrefix
  miningTimeoutSecs := config.miningTimeoutSecs
  kaspaRpcUrl := config.kaspaRpcUrl
  kaspaNetwork := config.kaspaNetwork
  payloadCompression := config.payloadCompression
  kaspaWallet := config.kaspaWallet

/-! ### What a validated configuration guarantees -/

theorem buildIgraL2data_of_validateCompression {payloadCompression : Option String}
    (h : validateCompression payloadCompression = .ok ()) (rawTx : List UInt8) :
    buildIgraL2data rawTx payloadCompression = .ok (0x94, rawTx) := by
  cases payloadCompression with
  | none =>
    rw [buildIgraL2data, if_pos (by decide)]
  | some mode =>
    simp only [validateCompression] at h
    split_ifs at h with hzlib hmode
    simp only [buildIgraL2data, Option.getD_some, if_pos hmode]

/-- A prefix the validation accepts is an even number of hexadecimal digits. -/
theorem hexdigits_of_validatePrefix {p : String} (h : validatePrefix (trim p) = .ok ()) :
    (∀ c ∈ trimChars p.toList, isAsciiHexdigit c = true) ∧
      (trimChars p.toList).length % 2 = 0 := by
  rw [validatePrefix] at h
  split_ifs at h with heven hall
  have hdigits : ∀ c ∈ trimChars p.toList, isAsciiHexdigit c = true := by
    simpa using hall
  have hsize : (trim p).utf8ByteSize = (trimChars p.toList).length :=
    utf8ByteSize_ofList fun c hc => toNat_lt_of_hexdigit (hdigits c hc)
  exact ⟨hdigits, by omega⟩

/-- **What the validation guarantees to the submit path.** For an accepted configuration whose
network carries no surrounding whitespace and whose prefix has at most 64 digits, every
configuration check of the submit path passes, except that the network `custom` is refused; the
prefix decodes to the bytes that were validated and begins some transaction id. -/
theorem submitChecks_of_validate {parseUrl : String → Except String String}
    {hexDecode : String → Except String (List UInt8)} {config : IgraConfig}
    (hhex : DecodesHex hexDecode) (henabled : config.enabled = true)
    (hvalid : config.validate parseUrl = .ok ())
    (hnetwork : ∀ n, config.kaspaNetwork = some n → trim n = n)
    (hlength : ∀ p, config.txIdPrefix = some p → (trim p).toList.length ≤ 64)
    (self : IgraTransport) (l2TxHash : String) (rawTx : List UInt8) :
    let transport := self.withTransportConfig config.toTransportConfig
    ∃ p hexPrefix network, config.txIdPrefix = some p ∧ transport.txIdPrefix = some hexPrefix ∧
      config.kaspaNetwork = some network ∧
      let request := transport.submitRequest l2TxHash rawTx hexPrefix
      buildIgraL2data request.rawTxBytes request.payloadCompression = .ok (0x94, rawTx) ∧
      (∃ url, requiredField "kaspa_rpc_url" request.kaspaRpcUrl = .ok url) ∧
      requiredField "kaspa_network" request.kaspaNetwork = .ok network ∧
      ((∃ d, kaspaNetworkDescriptor network = .ok d) ↔ network ≠ "custom") ∧
      decodeTxIdPrefix hexDecode request.txIdPrefix = .ok (hexPairs (trim p).toList) ∧
      hexPairs (trim p).toList ≠ [] ∧
      ∃ txId : List UInt8, txId.length = 32 ∧ hexPairs (trim p).toList <+: txId := by
  intro transport
  obtain ⟨⟨url, hurl⟩, ⟨n, hn, hvalidNetwork⟩, ⟨p', hp, hvalidPrefix⟩, hcompression⟩ :=
    IgraConfig.accepted_of_validate henabled hvalid
  obtain ⟨rawUrl, hrawUrl, -, -⟩ := requiredStr_eq_ok hurl
  obtain ⟨network, hnet, rfl, -⟩ := requiredStr_eq_ok hn
  obtain ⟨p, hpre, rfl, hpne⟩ := requiredStr_eq_ok hp
  have htrim : trim network = network := hnetwork network hnet
  have hsupported : network ∈ supportedNetworks := by
    rw [htrim, validateNetwork] at hvalidNetwork
    split_ifs at hvalidNetwork with hmem
    exact hmem
  obtain ⟨hdigits, heven⟩ := hexdigits_of_validatePrefix hvalidPrefix
  have hchars : (trim p).toList = trimChars p.toList := toList_trim p
  have hlen := length_hexPairs (trimChars p.toList)
  have hnonempty : trimChars p.toList ≠ [] := fun hnil => hpne (by rw [trim, hnil])
  have hpos : 0 < (trimChars p.toList).length := List.length_pos_iff.mpr hnonempty
  have hle : (trimChars p.toList).length ≤ 64 := hchars ▸ hlength p hpre
  refine ⟨p, normalizeHexPrefix p, network, hpre, ?_, hnet, ?_⟩
  · show config.txIdPrefix.map normalizeHexPrefix = _
    rw [hpre, Option.map_some]
  · rw [hchars]
    refine ⟨buildIgraL2data_of_validateCompression hcompression rawTx, ⟨rawUrl, ?_⟩, ?_,
      kaspaNetworkDescriptor_ok_iff hsupported, decodeTxIdPrefix_normalize hhex hdigits heven hpne,
      ?_, exists_txId_of_length_le (by omega)⟩
    · show requiredField _ config.kaspaRpcUrl = _
      rw [hrawUrl, requiredField]
    · show requiredField _ config.kaspaNetwork = _
      rw [hnet, requiredField]
    · refine List.ne_nil_of_length_pos ?_
      omega

/-- A URL parser, at the two endpoints of `exampleConfig`. -/
def parseLocalUrl (url : String) : Except String String :=
  if url = "http://127.0.0.1:8545" then .ok "http"
  else if url = "grpc://127.0.0.1:16110" then .ok "grpc"
  else .error "relative URL without a base"

/-- A decoder of hexadecimal texts. -/
def decodeHexDigits (s : String) : Except String (List UInt8) :=
  if s.toList.all isAsciiHexdigit ∧ s.toList.length % 2 = 0 then .ok (hexPairs s.toList)
  else .error "invalid hex string"

theorem decodesHex_decodeHexDigits : DecodesHex decodeHexDigits := fun s hdigits heven => by
  rw [decodeHexDigits, if_pos ⟨List.all_eq_true.mpr hdigits, heven⟩]

/-- A configuration for the network `network`. -/
def exampleConfig (network : String) : IgraConfig where
  enabled := true
  elRpcUrl := some "http://127.0.0.1:8545"
  kaspaRpcUrl := some "grpc://127.0.0.1:16110"
  expectedElChainId := some 1337
  kaspaNetwork := some network
  txIdPrefix := some " 97B1"
  elReceiptTimeoutSecs := some 300
  miningTimeoutSecs := some 120
  payloadCompression := none
  senderLockTimeoutSecs := some 60
  completedRetentionHours := some 168
  failedRetentionHours := some 720
  maxDbSizeMb := some 512
  kaspaWallet := .default

/-- The validation accepts the network `custom`; the submit path refuses it. -/
theorem validate_accepts_refused_network :
    (exampleConfig "custom").validate parseLocalUrl = .ok () ∧
      ((IgraTransport.new true).withTransportConfig
        (exampleConfig "custom").toTransportConfig).kaspaNetwork = some "custom" ∧
      ¬∃ d, kaspaNetworkDescriptor "custom" = .ok d := by
  refine ⟨by decide +kernel, rfl, ?_⟩
  rintro ⟨d, hd⟩
  simp [kaspaNetworkDescriptor] at hd

/-- A prefix with a leading space and an upper-case digit passes both readers. -/
theorem submitChecks_of_validate_testnet :
    (exampleConfig "testnet-10").validate parseLocalUrl = .ok () ∧
      ∃ hexPrefix, ((IgraTransport.new true).withTransportConfig
        (exampleConfig "testnet-10").toTransportConfig).txIdPrefix = some hexPrefix ∧
      decodeTxIdPrefix decodeHexDigits hexPrefix = .ok [0x97, 0xb1] := by
  have hvalid : (exampleConfig "testnet-10").validate parseLocalUrl = .ok () := by decide +kernel
  obtain ⟨p, hexPrefix, -, hp, hpre, -, -, -, -, -, hdecode, -⟩ :=
    submitChecks_of_validate decodesHex_decodeHexDigits rfl hvalid
      (by rintro n ⟨⟩; decide +kernel) (by rintro p ⟨⟩; decide +kernel) (IgraTransport.new true)
      "0x00" [0xc0]
  obtain rfl : " 97B1" = p := Option.some_inj.mp hp
  refine ⟨hvalid, hexPrefix, hpre, hdecode.trans ?_⟩
  decide +kernel

end FoundryIgra
