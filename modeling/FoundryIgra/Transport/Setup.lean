import FoundryIgra.Store.Profile
import FoundryIgra.Transport.Records

/-!
# Setting a transport up

What a command does before it sends: it refuses signer flows that do not sign locally and explains
the codes that it meets (`errors.rs`), and gives the transport a store (`transport.rs`,
`with_store_config`, `try_with_store_config`). Whether the store can be opened is a parameter.

## Main definitions

* `IgraErrorCatalogEntry`, `errorCatalogEntry`, `ensureSupportedIgraSignerFlow`.
* `IgraTransport.withStoreConfig`, `IgraTransport.tryWithStoreConfig`.

## Main results

* `catalogued_of_wellFormed`: the codes of lifecycle records are in the catalog, all but one.
* `ensureSupported_eq_ok_iff`: the signer flows that are let through.
* `tryWithStoreConfig_eq_ok_iff`: the two ways to give a store agree where the store opens.
* `profileNetwork_of_setup`: a transport keeps its records under the network that it submits to.
-/

namespace FoundryIgra

open Rust Store

/-! ### The error catalog -/

/-- `IGRA_SIGNER_GUARDRAIL_CODE`. -/
def igraSignerGuardrailCode : String := "IGRA_SIG_001"

/-- User-facing mapping for IGRA error codes. -/
structure IgraErrorCatalogEntry where
  code : String
  message : String
  remediation : String

/-- `error_catalog_entry`. -/
def errorCatalogEntry (code : String) : Option IgraErrorCatalogEntry :=
  if code = igraSignerGuardrailCode then
    some ⟨igraSignerGuardrailCode, "Unsupported signer flow in IGRA mode.",
      "Use a local raw-signing wallet instead of unlocked/browser flows."⟩
  else if code = "IGRA_NONCE_001" then
    some ⟨"IGRA_NONCE_001", "Transaction blocked by nonce gap for this sender.",
      "Submit missing lower-nonce transactions first or wait for prior nonce to progress."⟩
  else if code = "IGRA_NONCE_002" then
    some ⟨"IGRA_NONCE_002", "Sender lock acquisition timed out.",
      "Retry after in-flight transactions finish; investigate long-running sender operations."⟩
  else if code = "IGRA_NONCE_003" then
    some ⟨"IGRA_NONCE_003", "Sender nonce counter overflowed.",
      "Reset local IGRA cache for this sender/profile and resynchronize state."⟩
  else if code = "IGRA_NONCE_004" then
    some ⟨"IGRA_NONCE_004", "Stale nonce replacement candidate observed.",
      "Confirm replacement intent and track the latest tx hash/receipt for this nonce."⟩
  else none

/-- An entry is found under its own code, and explains it. -/
theorem code_of_errorCatalogEntry {code : String} {entry : IgraErrorCatalogEntry}
    (h : errorCatalogEntry code = some entry) :
    entry.code = code ∧ entry.message ≠ "" ∧ entry.remediation ≠ "" := by
  rw [errorCatalogEntry] at h
  split_ifs at h with h₁ h₂ h₃ h₄ h₅
  all_goals
    obtain rfl := Option.some.inj h
    exact ⟨Eq.symm ‹_›, by decide, by decide⟩

/-- **Codes of records.** The code of a record that can be read back is in the catalog, unless it is
that of a mining that timed out. -/
theorem catalogued_of_wellFormed {r : TxMapRecord} (h : r.WellFormed) {code : String}
    (hcode : r.lastErrorCode = some code) : (errorCatalogEntry code).isSome = true ∨
      r.state = .failedRecoverable ∧ code = igraMiningTimeoutErrorCode := by
  have hmem := h.errorCode
  rw [hcode] at hmem
  cases hstate : r.state with
  | failedRecoverable =>
    rw [hstate] at hmem
    simp only [errorCodes, List.mem_cons, List.not_mem_nil, reduceCtorEq, Option.some.injEq,
      false_or, or_false] at hmem
    exact Or.inr ⟨rfl, hmem⟩
  | receivedRawL2 =>
    rw [hstate] at hmem
    simp [errorCodes] at hmem
  | _ =>
    rw [hstate] at hmem
    simp only [errorCodes, List.mem_cons, List.not_mem_nil, reduceCtorEq, Option.some.injEq,
      false_or, or_false] at hmem
    rw [hmem]
    exact Or.inl rfl

/-! ### Signer flows -/

/-- The refusal of a signer flow in a command. -/
def signerFlowError (flow command : String) : String :=
  igraSignerGuardrailCode ++ ": IGRA mode does not support " ++ flow ++ " in `" ++ command ++
    "`; use a local raw-signing wallet"

/-- `ensure_supported_igra_signer_flow`; an error is its display text. -/
def ensureSupportedIgraSignerFlow (igraEnabled : Bool)
    (configValidation : Except IgraConfigError Unit) (command : String)
    (usesUnlocked usesBrowserWallet : Bool) : Except String Unit := do
  configValidation.mapError IgraConfigError.toText
  if igraEnabled = false then pure ()
  else if usesUnlocked then .error (signerFlowError "`--unlocked`" command)
  else if usesBrowserWallet then .error (signerFlowError "browser wallet signer flows" command)
  else pure ()

/-- **Signer flows.** With a valid configuration, exactly the local flows are let through in IGRA
mode. -/
theorem ensureSupported_eq_ok_iff {igraEnabled : Bool}
    {configValidation : Except IgraConfigError Unit} {command : String}
    {usesUnlocked usesBrowserWallet : Bool} :
    ensureSupportedIgraSignerFlow igraEnabled configValidation command usesUnlocked
        usesBrowserWallet = .ok () ↔
      configValidation = .ok () ∧
        (igraEnabled = true → usesUnlocked = false ∧ usesBrowserWallet = false) := by
  cases configValidation with
  | error err =>
    constructor
    · intro h
      cases h
    · rintro ⟨h, -⟩
      cases h
  | ok u =>
    have hrun : ensureSupportedIgraSignerFlow igraEnabled (.ok u) command usesUnlocked
        usesBrowserWallet =
      if igraEnabled = false then .ok ()
      else if usesUnlocked then .error (signerFlowError "`--unlocked`" command)
      else if usesBrowserWallet then .error (signerFlowError "browser wallet signer flows" command)
      else .ok () := rfl
    rw [hrun]
    cases igraEnabled <;> cases usesUnlocked <;> cases usesBrowserWallet <;> simp

/-! ### Giving a store -/

section Builders

variable (keccak256 : List UInt8 → List UInt8) (env : Environment) (opening : Except String Unit)

/-- The settings that a store configuration fills in. -/
def IgraTransport.withStoreSettings (self : IgraTransport) (config : IgraStoreConfig) :
    IgraTransport :=
  { self with
    kaspaRpcUrl := if self.kaspaRpcUrl.isNone then config.kaspaRpcUrl else self.kaspaRpcUrl
    kaspaNetwork := if self.kaspaNetwork.isNone then config.kaspaNetwork else self.kaspaNetwork }

/-- `IgraTransport::with_store_config`: a store that does not open is not given. -/
def IgraTransport.withStoreConfig (self : IgraTransport) (config : IgraStoreConfig) :
    IgraTransport :=
  let self := self.withStoreSettings config
  if self.enabled then
    match opening with
    | .ok () => { self with store := some (IgraStore.fromConfig keccak256 env config) }
    | .error _ => self
  else self

/-- `IgraTransport::try_with_store_config`. -/
def IgraTransport.tryWithStoreConfig (self : IgraTransport) (config : IgraStoreConfig) :
    Except String IgraTransport :=
  let self := self.withStoreSettings config
  if self.enabled then
    match opening with
    | .ok () => .ok { self with store := some (IgraStore.fromConfig keccak256 env config) }
    | .error err => .error err
  else .ok self

variable {keccak256 env opening} {self t : IgraTransport} {config : IgraStoreConfig}

/-- **Stores.** Where the store opens, or is not opened, both ways give the same transport. -/
theorem tryWithStoreConfig_eq_ok_iff :
    self.tryWithStoreConfig keccak256 env opening config = .ok t ↔
      (self.enabled = true → opening = .ok ()) ∧
        t = self.withStoreConfig keccak256 env opening config := by
  have henabled : (self.withStoreSettings config).enabled = self.enabled := rfl
  simp only [IgraTransport.tryWithStoreConfig, IgraTransport.withStoreConfig, henabled]
  cases self.enabled with
  | false => simp [eq_comm]
  | true => cases opening with
    | error err => simp
    | ok u => simp [eq_comm]

/-- A supported network is its own component of a profile. -/
theorem sanitizeComponent_of_descriptor {network : String}
    {d : KaspaNetworkType × KaspaAddressPrefix} (h : kaspaNetworkDescriptor network = .ok d) :
    sanitizeComponent network "unknown" = network := by
  rw [kaspaNetworkDescriptor] at h
  split_ifs at h with h₁ h₂ h₃ h₄
  · subst h₁
    decide
  · subst h₂
    decide
  · subst h₃
    decide
  · subst h₄
    decide

/-- **Profiles.** A transport that is configured and then given a store, with one network or with
that of the store, keeps its records under the network that it submits to. -/
theorem profileNetwork_of_setup {transportConfig : IgraTransportConfig}
    (hnetwork : transportConfig.kaspaNetwork = none ∨
      transportConfig.kaspaNetwork = config.kaspaNetwork)
    (ht : ((IgraTransport.new true).withTransportConfig transportConfig).tryWithStoreConfig
      keccak256 env opening config = .ok t) {network : String}
    {d : KaspaNetworkType × KaspaAddressPrefix} (hsubmits : t.kaspaNetwork = some network)
    (hd : kaspaNetworkDescriptor network = .ok d) :
    ∃ store, t.store = some store ∧ store.profile.kaspaNetwork = network := by
  obtain ⟨hopening, rfl⟩ := tryWithStoreConfig_eq_ok_iff.mp ht
  obtain rfl := hopening rfl
  refine ⟨IgraStore.fromConfig keccak256 env config, rfl, ?_⟩
  have hconfig : config.kaspaNetwork = some network := by
    rw [← hsubmits]
    show config.kaspaNetwork =
      if transportConfig.kaspaNetwork.isNone then config.kaspaNetwork
      else transportConfig.kaspaNetwork
    rcases hnetwork with hnone | hsame
    · rw [hnone]
      rfl
    · rw [hsame, ite_self]
  show sanitizeComponent (config.kaspaNetwork.getD "unknown") "unknown" = network
  rw [hconfig]
  exact sanitizeComponent_of_descriptor hd

end Builders

end FoundryIgra
