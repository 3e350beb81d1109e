import FoundryIgra.Submitter.Request

/-!
# Kaspa keys

Which private key a wallet configuration gives (`keys.rs`): a key in hexadecimal comes before a
mnemonic, and a mnemonic before a keystore. The libraries of mnemonics and of extended keys and the
file system are parameters.

## Main definitions

* `KeyLibraries`, `KeyFiles`: the libraries, and the files.
* `parsePrivateKeyHex`, `resolveMnemonicPrivateKey`, `resolveKeystorePrivateKey`,
  `resolveKaspaPrivateKey`.
* `KeyFrom`: where the key of a wallet comes from.

## Main results

* `mnemonicPhrase_mnemonicPhrase`: a phrase in single spaces stays as it is.
* `resolveKaspaPrivateKey_error`: every error names the resolution of keys.
* `resolveKaspaPrivateKey_ok_iff`: the key that a wallet gives without a keystore directory.
-/

namespace FoundryIgra

open Rust

/-- The libraries that keys are read and derived with. -/
structure KeyLibraries (PrivateKey : Type) where
  Mnemonic : Type
  Seed : Type
  ExtendedKey : Type
  DerivationPath : Type
  ChildNumber : Type
  /-- `str::parse::<B256>`. -/
  parseB256 : String → Option PrivateKey
  /-- `KaspaMnemonic::new`, in English. -/
  newMnemonic : String → Except String Mnemonic
  /-- `KaspaMnemonic::to_seed`, with a passphrase. -/
  toSeed : Mnemonic → String → Seed
  /-- `KaspaExtendedPrivateKey::new`. -/
  newExtendedKey : Seed → Except String ExtendedKey
  /-- `str::parse::<KaspaDerivationPath>`. -/
  parsePath : String → Except String DerivationPath
  derivePath : ExtendedKey → DerivationPath → Except String ExtendedKey
  /-- `KaspaChildNumber::new`, not hardened. -/
  childNumber : UInt32 → Except String ChildNumber
  deriveChild : ExtendedKey → ChildNumber → Except String ExtendedKey
  /-- `private_key`, as bytes. -/
  secretBytes : ExtendedKey → PrivateKey

/-- The files that keys are read from. -/
structure KeyFiles (PrivateKey : Type) where
  isFile : String → Bool
  readToString : String → Except String String
  /-- `Path::join`. -/
  join : String → String → String
  /-- The credential of `PrivateKeySigner::decrypt_keystore`. -/
  decryptKeystore : String → String → Except String PrivateKey

/-- `IGRA_KEY_RESOLUTION_ERROR`. -/
def igraKeyResolutionError : String :=
  "IGRA key resolution error: cannot derive Kaspa key from current EVM signer; provide --private-key-kaspa or --mnemonic-kaspa"

/-- The words of a mnemonic, in single spaces. -/
def mnemonicPhrase (mnemonic : String) : String := " ".intercalate (splitWhitespace mnemonic)

section Resolve

variable {PrivateKey : Type} (lib : KeyLibraries PrivateKey) (files : KeyFiles PrivateKey)

/-- `parse_private_key_hex`. -/
def parsePrivateKeyHex (privateKey : String) : Except String PrivateKey :=
  match lib.parseB256 (trim privateKey) with
  | some key => .ok key
  | none => .error (igraKeyResolutionError ++ ": provided --private-key-kaspa value is invalid hex")

/-- The text of a mnemonic, which may be in a file. -/
def readMnemonic (mnemonic : String) : Except String String :=
  if files.isFile mnemonic then
    (files.readToString mnemonic).mapError
      ("IGRA key resolution error: failed to read mnemonic file: " ++ ·)
  else .ok mnemonic

/-- The key at a derivation path, or at an index under the default path. -/
def deriveKey (xprv : lib.ExtendedKey) (derivationPath : Option String) (index : UInt32) :
    Except String lib.ExtendedKey :=
  match derivationPath with
  | some path => do
    let path ← (lib.parsePath path).mapError
      ("IGRA key resolution error: invalid Kaspa derivation path: " ++ ·)
    (lib.derivePath xprv path).mapError
      ("IGRA key resolution error: failed to derive Kaspa key by path: " ++ ·)
  | none => do
    let base ← (lib.parsePath "m/44'/111111'/0'/0").mapError
      ("IGRA key resolution error: failed to parse default Kaspa derivation path: " ++ ·)
    let base ← (lib.derivePath xprv base).mapError
      ("IGRA key resolution error: failed to derive default Kaspa base key: " ++ ·)
    let child ← (lib.childNumber index).mapError
      ("IGRA key resolution error: invalid Kaspa mnemonic index: " ++ ·)
    (lib.deriveChild base child).mapError
      ("IGRA key resolution error: failed to derive Kaspa key by index: " ++ ·)

/-- `resolve_mnemonic_private_key`. -/
def resolveMnemonicPrivateKey (mnemonic : String) (passphrase derivationPath : Option String)
    (index : UInt32) : Except String PrivateKey := do
  let text ← readMnemonic files mnemonic
  let kaspaMnemonic ← (lib.newMnemonic (mnemonicPhrase text)).mapError
    ("IGRA key resolution error: invalid Kaspa mnemonic: " ++ ·)
  let xprv ← (lib.newExtendedKey (lib.toSeed kaspaMnemonic (passphrase.getD ""))).mapError
    ("IGRA key resolution error: failed to derive Kaspa master key from mnemonic seed: " ++ ·)
  let secret ← deriveKey lib xprv derivationPath index
  pure (lib.secretBytes secret)

/-- `resolve_keystore_path`. -/
def resolveKeystorePath (config : IgraKaspaWalletConfig) (keystoresDir : Option String) :
    Except String String :=
  match config.keystore with
  | some path => .ok path
  | none =>
    match config.keystoreAccount with
    | some account =>
      match keystoresDir with
      | some keystoreDir => .ok (files.join keystoreDir account)
      | none => .error
          "IGRA key resolution error: could not resolve default foundry keystore directory"
    | none => .error "IGRA key resolution error: kaspa keystore path or account is required"

/-- The password of a keystore. -/
def requiredPassword (config : IgraKaspaWalletConfig) : Except String String :=
  match config.password with
  | some password => .ok password
  | none => .error
      "IGRA key resolution error: kaspa keystore password is required; set --password-kaspa or KASPA_PASSWORD"

/-- `resolve_keystore_private_key`. -/
def resolveKeystorePrivateKey (config : IgraKaspaWalletConfig) (keystoresDir : Option String) :
    Except String PrivateKey := do
  let path ← resolveKeystorePath files config keystoresDir
  let password ← requiredPassword config
  (files.decryptKeystore path password).mapError
    ("IGRA key resolution error: failed to decrypt kaspa keystore: " ++ ·)

/-- `resolve_kaspa_private_key`. -/
def resolveKaspaPrivateKey (config : IgraKaspaWalletConfig) (keystoresDir : Option String) :
    Except String PrivateKey :=
  match config.privateKey with
  | some privateKey => parsePrivateKeyHex lib privateKey
  | none =>
    match config.mnemonic with
    | some mnemonic =>
      resolveMnemonicPrivateKey lib files mnemonic config.mnemonicPassphrase
        config.mnemonicDerivationPath (config.mnemonicIndex.getD 0)
    | none =>
      if config.keystore.isSome || config.keystoreAccount.isSome then
        resolveKeystorePrivateKey files config keystoresDir
      else .error igraKeyResolutionError

end Resolve

/-! ### Phrases -/

/-- A phrase in single spaces stays as it is. -/
theorem mnemonicPhrase_mnemonicPhrase (mnemonic : String) :
    mnemonicPhrase (mnemonicPhrase mnemonic) = mnemonicPhrase mnemonic := by
  rw [mnemonicPhrase, mnemonicPhrase, splitWhitespace_intercalate]
  exact fun word hword => isWord_of_mem_splitWhitespace hword

/-! ### Errors -/

/-- The text names the resolution of keys. -/
def IsKeyError (err : String) : Prop := ∃ rest, err = "IGRA key resolution error: " ++ rest

/-- Every error of the computation names the resolution of keys. -/
structure KeyErrors {α : Type} (x : Except String α) : Prop where
  holds : ∀ err, x = .error err → IsKeyError err

section Errors

variable {PrivateKey α β : Type}

theorem keyErrors_ok (a : α) : KeyErrors (Except.ok a : Except String α) :=
  ⟨fun _ h => by cases h⟩

theorem keyErrors_error {err : String} (rest : String)
    (h : err = "IGRA key resolution error: " ++ rest) :
    KeyErrors (Except.error err : Except String α) := by
  refine ⟨fun err' h' => ⟨rest, ?_⟩⟩
  obtain rfl := Except.error.inj h'
  exact h

theorem KeyErrors.bind {x : Except String α} {f : α → Except String β} (hx : KeyErrors x)
    (hf : ∀ a, KeyErrors (f a)) : KeyErrors (x >>= f) := by
  cases x with
  | error err => exact ⟨fun err' h => hx.holds err' (by rw [← Except.error.inj h])⟩
  | ok a => exact hf a

/-- An error that a library gives is put after the text. -/
theorem keyErrors_mapError (x : Except String α) {text : String} (rest : String)
    (h : text = "IGRA key resolution error: " ++ rest) : KeyErrors (x.mapError (text ++ ·)) := by
  cases x with
  | error err =>
    have htext : text ++ err = "IGRA key resolution error: " ++ (rest ++ err) := by
      rw [h, String.append_assoc]
    exact keyErrors_error (rest ++ err) htext
  | ok a => exact keyErrors_ok a

variable {lib : KeyLibraries PrivateKey} {files : KeyFiles PrivateKey}

theorem keyErrors_resolveMnemonicPrivateKey (mnemonic : String)
    (passphrase derivationPath : Option String) (index : UInt32) :
    KeyErrors (resolveMnemonicPrivateKey lib files mnemonic passphrase derivationPath index) := by
  have hread : KeyErrors (readMnemonic files mnemonic) := by
    rw [readMnemonic]
    split_ifs
    · exact keyErrors_mapError _ "failed to read mnemonic file: " (by decide)
    · exact keyErrors_ok _
  have hderive : ∀ xprv, KeyErrors (deriveKey lib xprv derivationPath index) := by
    intro xprv
    cases derivationPath with
    | some path =>
      refine (keyErrors_mapError _ "invalid Kaspa derivation path: " (by decide)).bind fun _ => ?_
      exact keyErrors_mapError _ "failed to derive Kaspa key by path: " (by decide)
    | none =>
      refine (keyErrors_mapError _ "failed to parse default Kaspa derivation path: "
        (by decide)).bind fun _ => ?_
      refine (keyErrors_mapError _ "failed to derive default Kaspa base key: "
        (by decide)).bind fun _ => ?_
      refine (keyErrors_mapError _ "invalid Kaspa mnemonic index: " (by decide)).bind fun _ => ?_
      exact keyErrors_mapError _ "failed to derive Kaspa key by index: " (by decide)
  refine hread.bind fun _ => ?_
  refine (keyErrors_mapError _ "invalid Kaspa mnemonic: " (by decide)).bind fun _ => ?_
  refine (keyErrors_mapError _ "failed to derive Kaspa master key from mnemonic seed: "
    (by decide)).bind fun _ => ?_
  exact (hderive _).bind fun _ => keyErrors_ok _

theorem keyErrors_resolveKeystorePrivateKey (config : IgraKaspaWalletConfig)
    (keystoresDir : Option String) :
    KeyErrors (resolveKeystorePrivateKey files config keystoresDir) := by
  have hpath : KeyErrors (resolveKeystorePath files config keystoresDir) := by
    unfold resolveKeystorePath
    split
    · exact keyErrors_ok _
    split
    · split
      · exact keyErrors_ok _
      · exact keyErrors_error "could not resolve default foundry keystore directory" (by decide)
    · exact keyErrors_error "kaspa keystore path or account is required" (by decide)
  have hpassword : KeyErrors (requiredPassword config) := by
    unfold requiredPassword
    split
    · exact keyErrors_ok _
    · exact keyErrors_error
        "kaspa keystore password is required; set --password-kaspa or KASPA_PASSWORD" (by decide)
  refine hpath.bind fun _ => hpassword.bind fun _ => ?_
  exact keyErrors_mapError _ "failed to decrypt kaspa keystore: " (by decide)

/-- **Errors.** Every error names the resolution of keys. -/
theorem resolveKaspaPrivateKey_error {config : IgraKaspaWalletConfig}
    {keystoresDir : Option String} {err : String}
    (h : resolveKaspaPrivateKey lib files config keystoresDir = .error err) : IsKeyError err := by
  refine KeyErrors.holds ?_ err h
  have hunsourced : igraKeyResolutionError = "IGRA key resolution error: " ++
      "cannot derive Kaspa key from current EVM signer; provide --private-key-kaspa or --mnemonic-kaspa" := by
    decide +kernel
  unfold resolveKaspaPrivateKey
  split
  · unfold parsePrivateKeyHex
    split
    · exact keyErrors_ok _
    · exact keyErrors_error _ (by rw [hunsourced, String.append_assoc])
  split
  · exact keyErrors_resolveMnemonicPrivateKey ..
  split_ifs
  · exact keyErrors_resolveKeystorePrivateKey ..
  · exact keyErrors_error _ hunsourced

end Errors

/-! ### Where a key comes from -/

section From

variable {PrivateKey : Type} (lib : KeyLibraries PrivateKey) (files : KeyFiles PrivateKey)

/-- Where the key of a wallet comes from without a keystore directory: from the first source that
is configured, and never from an account of a keystore directory. -/
inductive KeyFrom (config : IgraKaspaWalletConfig) (key : PrivateKey) : Prop
  | privateKey (text : String) (htext : config.privateKey = some text)
      (hkey : lib.parseB256 (trim text) = some key)
  | mnemonic (text : String) (hnone : config.privateKey = none)
      (htext : config.mnemonic = some text)
      (hkey : resolveMnemonicPrivateKey lib files text config.mnemonicPassphrase
        config.mnemonicDerivationPath (config.mnemonicIndex.getD 0) = .ok key)
  | keystore (path password : String) (hnone : config.privateKey = none)
      (hnone' : config.mnemonic = none) (hpath : config.keystore = some path)
      (hpassword : config.password = some password)
      (hkey : files.decryptKeystore path password = .ok key)

variable {lib files} {config : IgraKaspaWalletConfig} {key : PrivateKey}

theorem mapError_eq_ok {ε ε' α : Type} {f : ε → ε'} {x : Except ε α} {a : α} :
    x.mapError f = .ok a ↔ x = .ok a := by
  cases x with
  | error e => simp [Except.mapError]
  | ok b => simp [Except.mapError]

theorem parsePrivateKeyHex_eq_ok {text : String} :
    parsePrivateKeyHex lib text = .ok key ↔ lib.parseB256 (trim text) = some key := by
  rw [parsePrivateKeyHex]
  cases lib.parseB256 (trim text) with
  | none => simp
  | some key' => simp

/-- A keystore without a directory is one with a path. -/
theorem resolveKeystorePrivateKey_eq_ok :
    resolveKeystorePrivateKey files config none = .ok key ↔ ∃ path password,
      config.keystore = some path ∧ config.password = some password ∧
        files.decryptKeystore path password = .ok key := by
  constructor
  · intro h
    obtain ⟨path, hpath, h⟩ := bind_eq_ok h
    obtain ⟨password, hpassword, h⟩ := bind_eq_ok h
    refine ⟨path, password, ?_, ?_, mapError_eq_ok.mp h⟩
    · cases hkeystore : config.keystore with
      | some path' => simpa [resolveKeystorePath, hkeystore] using hpath
      | none => cases haccount : config.keystoreAccount with
        | some account => simp [resolveKeystorePath, hkeystore, haccount] at hpath
        | none => simp [resolveKeystorePath, hkeystore, haccount] at hpath
    · cases hconfigured : config.password with
      | some password' => simpa [requiredPassword, hconfigured] using hpassword
      | none => simp [requiredPassword, hconfigured] at hpassword
  · rintro ⟨path, password, hpath, hpassword, hkey⟩
    have hresolved : resolveKeystorePath files config none = .ok path := by
      simp only [resolveKeystorePath, hpath]
    have hrequired : requiredPassword config = .ok password := by
      simp only [requiredPassword, hpassword]
    rw [resolveKeystorePrivateKey, hresolved, hrequired]
    exact mapError_eq_ok.mpr hkey

/-- **The key of a wallet** without a keystore directory. -/
theorem resolveKaspaPrivateKey_ok_iff :
    resolveKaspaPrivateKey lib files config none = .ok key ↔ KeyFrom lib files config key := by
  constructor
  · intro h
    unfold resolveKaspaPrivateKey at h
    cases hprivate : config.privateKey with
    | some text =>
      simp only [hprivate] at h
      exact .privateKey text hprivate (parsePrivateKeyHex_eq_ok.mp h)
    | none => cases hmnemonic : config.mnemonic with
      | some text =>
        simp only [hprivate, hmnemonic] at h
        exact .mnemonic text hprivate hmnemonic h
      | none =>
        simp only [hprivate, hmnemonic] at h
        split_ifs at h
        obtain ⟨path, password, hpath, hpassword, hkey⟩ := resolveKeystorePrivateKey_eq_ok.mp h
        exact .keystore path password hprivate hmnemonic hpath hpassword hkey
  · rintro (⟨text, htext, hkey⟩ | ⟨text, hnone, htext, hkey⟩ |
      ⟨path, password, hnone, hnone', hpath, hpassword, hkey⟩)
    · simp only [resolveKaspaPrivateKey, htext]
      exact parsePrivateKeyHex_eq_ok.mpr hkey
    · simp only [resolveKaspaPrivateKey, hnone, htext]
      exact hkey
    · have hsome : (config.keystore.isSome || config.keystoreAccount.isSome) = true := by
        rw [hpath]
        rfl
      simp only [resolveKaspaPrivateKey, hnone, hnone', hsome]
      exact resolveKeystorePrivateKey_eq_ok.mpr ⟨path, password, hpath, hpassword, hkey⟩

/-- A wallet that names only an account of a keystore directory gives no key. -/
theorem not_keyFrom_of_account (hprivate : config.privateKey = none)
    (hmnemonic : config.mnemonic = none) (hkeystore : config.keystore = none) :
    ¬KeyFrom lib files config key := by
  rintro (⟨text, htext, -⟩ | ⟨text, -, htext, -⟩ | ⟨path, password, -, -, hpath, -, -⟩)
  · simp [hprivate] at htext
  · simp [hmnemonic] at htext
  · simp [hkeystore] at hpath

end From

end FoundryIgra
