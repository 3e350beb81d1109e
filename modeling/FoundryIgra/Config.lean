import FoundryIgra.Rust.Text

/-!
# Configuration of the IGRA mode

The user's configuration and its validation (`config.rs`, `IgraConfig::validate`). URL parsing is
a parameter: for a text it gives the scheme of the parsed URL, or the text of the parse error.

## Main definitions

* `IgraKaspaWalletConfig`, `IgraConfig`, `IgraConfigError`.
* `requiredStr`, `validateUrl`, `validateScheme`, `validatePositiveOpt`, `IgraConfig.validate`.

## Main results

* `IgraConfig.accepted_of_validate`: the checks an accepted configuration has passed.
-/

namespace FoundryIgra

open Rust

/-- Kaspa signer source configuration. -/
structure IgraKaspaWalletConfig where
  privateKey : Option String
  mnemonic : Option String
  mnemonicPassphrase : Option String
  mnemonicDerivationPath : Option String
  mnemonicIndex : Option UInt32
  keystore : Option String
  keystoreAccount : Option String
  password : Option String
  deriving DecidableEq

/-- A wallet configuration without any signer source. -/
def IgraKaspaWalletConfig.default : IgraKaspaWalletConfig :=
  ⟨none, none, none, none, none, none, none, none⟩

/-- IGRA-specific configuration. -/
structure IgraConfig where
  enabled : Bool
  elRpcUrl : Option String
  kaspaRpcUrl : Option String
  expectedElChainId : Option UInt64
  kaspaNetwork : Option String
  txIdPrefix : Option String
  elReceiptTimeoutSecs : Option UInt64
  miningTimeoutSecs : Option UInt64
  payloadCompression : Option String
  senderLockTimeoutSecs : Option UInt64
  completedRetentionHours : Option UInt64
  failedRetentionHours : Option UInt64
  maxDbSizeMb : Option UInt64
  kaspaWallet : IgraKaspaWalletConfig

/-- IGRA config validation error. -/
inductive IgraConfigError
  | missing (field : String)
  | invalid (field reason : String)
  deriving DecidableEq

/-- The display text of a config error. -/
def IgraConfigError.toText : IgraConfigError → String
  | missing field => "IGRA config error: `" ++ field ++ "` is required when `igra.enabled=true`"
  | invalid field reason => "IGRA config error: `" ++ field ++ "` is invalid: " ++ reason

/-- `required_str`: the trimmed value. -/
def requiredStr (field : String) (value : Option String) : Except IgraConfigError String :=
  match value with
  | none => .error (.missing field)
  | some value => if trim value = "" then .error (.missing field) else .ok (trim value)

section Validation

variable (parseUrl : String → Except String String)

/-- `validate_url`. -/
def validateUrl (field value : String) : Except IgraConfigError Unit :=
  match parseUrl value with
  | .ok _ => .ok ()
  | .error err => .error (.invalid field ("invalid URL: " ++ err))

/-- `validate_scheme`. -/
def validateScheme (field value : String) (allowedSchemes : List String) :
    Except IgraConfigError Unit :=
  match parseUrl value with
  | .ok scheme =>
    if scheme ∈ allowedSchemes then .ok ()
    else .error (.invalid field ("unsupported URL scheme `" ++ scheme ++ "` (expected one of " ++
      ", ".intercalate allowedSchemes ++ ")"))
  | .error err => .error (.invalid field ("invalid URL: " ++ err))

/-- `validate_positive_opt`. -/
def validatePositiveOpt (field : String) (value : Option UInt64) : Except IgraConfigError Unit :=
  if value = some 0 then .error (.invalid field "must be greater than zero") else .ok ()

/-- A required number that must be positive. -/
def requiredPositive (field : String) (value : Option UInt64) : Except IgraConfigError Unit :=
  match value with
  | none => .error (.missing field)
  | some value => if value = 0 then .error (.invalid field "must be greater than zero") else .ok ()

/-- The networks that `validate` lists. -/
def supportedNetworks : List String := ["mainnet", "testnet-10", "devnet", "simnet", "custom"]

/-- The check of `kaspa_network`, already trimmed. -/
def validateNetwork (kaspaNetwork : String) : Except IgraConfigError Unit :=
  if kaspaNetwork ∈ supportedNetworks then .ok ()
  else .error (.invalid "kaspa_network" ("unsupported network `" ++ kaspaNetwork ++
    "` (expected one of mainnet, testnet-10, devnet, simnet, custom)"))

/-- The check of `tx_id_prefix`, already trimmed. The length is that of the UTF-8 bytes. -/
def validatePrefix (txIdPrefix : String) : Except IgraConfigError Unit :=
  if txIdPrefix.utf8ByteSize % 2 ≠ 0 then
    .error (.invalid "tx_id_prefix" "must have an even number of hex characters")
  else if txIdPrefix.toList.all isAsciiHexdigit then .ok ()
  else .error (.invalid "tx_id_prefix" "must be hex-encoded")

/-- The check of `payload_compression`. -/
def validateCompression (payloadCompression : Option String) : Except IgraConfigError Unit :=
  match payloadCompression with
  | none => .ok ()
  | some mode =>
    let mode := toAsciiLowercase (trim mode)
    if mode = "zlib" then
      .error (.invalid "payload_compression" "zlib is not implemented; use `none`")
    else if mode = "" ∨ mode = "none" then .ok ()
    else .error (.invalid "payload_compression" "supported values: none")

/-- `IgraConfig::validate`. -/
def IgraConfig.validate (config : IgraConfig) : Except IgraConfigError Unit :=
  if config.enabled = false then .ok ()
  else do
    let elRpcUrl ← requiredStr "el_rpc_url" config.elRpcUrl
    validateUrl parseUrl "el_rpc_url" elRpcUrl
    validateScheme parseUrl "el_rpc_url" elRpcUrl ["http", "https", "ws", "wss"]
    let kaspaRpcUrl ← requiredStr "kaspa_rpc_url" config.kaspaRpcUrl
    validateUrl parseUrl "kaspa_rpc_url" kaspaRpcUrl
    validateScheme parseUrl "kaspa_rpc_url" kaspaRpcUrl ["grpc", "grpcs", "http", "https"]
    requiredPositive "expected_el_chain_id" config.expectedElChainId
    let kaspaNetwork ← requiredStr "kaspa_network" config.kaspaNetwork
    validateNetwork kaspaNetwork
    let txIdPrefix ← requiredStr "tx_id_prefix" config.txIdPrefix
    validatePrefix txIdPrefix
    requiredPositive "el_receipt_timeout_secs" config.elReceiptTimeoutSecs
    validatePositiveOpt "sender_lock_timeout_secs" config.senderLockTimeoutSecs
    validatePositiveOpt "mining_timeout_secs" config.miningTimeoutSecs
    validatePositiveOpt "completed_retention_hours" config.completedRetentionHours
    validatePositiveOpt "failed_retention_hours" config.failedRetentionHours
    validatePositiveOpt "max_db_size_mb" config.maxDbSizeMb
    validateCompression config.payloadCompression

/-! ### What acceptance means -/

theorem bind_eq_ok {ε α β : Type} {x : Except ε α} {f : α → Except ε β} {b : β}
    (h : (x >>= f) = .ok b) : ∃ a, x = .ok a ∧ f a = .ok b := by
  cases x with
  | error e => cases h
  | ok a => exact ⟨a, rfl, h⟩

theorem requiredStr_eq_ok {field : String} {value : Option String} {s : String}
    (h : requiredStr field value = .ok s) :
    ∃ v, value = some v ∧ s = trim v ∧ s ≠ "" := by
  cases value with
  | none => cases h
  | some v =>
    rw [requiredStr] at h
    split_ifs at h with hv
    obtain rfl := Except.ok.inj h
    exact ⟨v, rfl, rfl, hv⟩

variable {parseUrl}

/-- The checks an accepted configuration has passed. -/
structure IgraConfig.Accepted (config : IgraConfig) : Prop where
  kaspaRpcUrl : ∃ url, requiredStr "kaspa_rpc_url" config.kaspaRpcUrl = .ok url
  network : ∃ network, requiredStr "kaspa_network" config.kaspaNetwork = .ok network ∧
    validateNetwork network = .ok ()
  txIdPrefix : ∃ txIdPrefix, requiredStr "tx_id_prefix" config.txIdPrefix = .ok txIdPrefix ∧
    validatePrefix txIdPrefix = .ok ()
  compression : validateCompression config.payloadCompression = .ok ()

theorem IgraConfig.accepted_of_validate {config : IgraConfig} (henabled : config.enabled = true)
    (h : config.validate parseUrl = .ok ()) : config.Accepted := by
  rw [validate, if_neg (by simp [henabled])] at h
  obtain ⟨_, -, h⟩ := bind_eq_ok h
  obtain ⟨_, -, h⟩ := bind_eq_ok h
  obtain ⟨_, -, h⟩ := bind_eq_ok h
  obtain ⟨url, hurl, h⟩ := bind_eq_ok h
  obtain ⟨_, -, h⟩ := bind_eq_ok h
  obtain ⟨_, -, h⟩ := bind_eq_ok h
  obtain ⟨_, -, h⟩ := bind_eq_ok h
  obtain ⟨network, hnetwork, h⟩ := bind_eq_ok h
  obtain ⟨_, hvalidNetwork, h⟩ := bind_eq_ok h
  obtain ⟨txIdPrefix, hprefix, h⟩ := bind_eq_ok h
  obtain ⟨_, hvalidPrefix, h⟩ := bind_eq_ok h
  obtain ⟨_, -, h⟩ := bind_eq_ok h
  obtain ⟨_, -, h⟩ := bind_eq_ok h
  obtain ⟨_, -, h⟩ := bind_eq_ok h
  obtain ⟨_, -, h⟩ := bind_eq_ok h
  obtain ⟨_, -, h⟩ := bind_eq_ok h
  obtain ⟨_, -, hcompression⟩ := bind_eq_ok h
  exact ⟨⟨url, hurl⟩, ⟨network, hnetwork, hvalidNetwork⟩, ⟨txIdPrefix, hprefix, hvalidPrefix⟩,
    hcompression⟩

end Validation

end FoundryIgra
