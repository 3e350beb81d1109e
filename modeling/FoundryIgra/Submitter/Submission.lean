import FoundryIgra.Concurrency.Program
import FoundryIgra.Submitter.Request

/-!
# Submissions as programs

`InProcessKaspaPayloadSubmitter::submit_payload` (`submitter.rs`) as a program over the calls it
makes: the key files, the Kaspa node, the epoch counter, and the critical sections of the cache
mutex. Reading unspent outputs from the node is two calls, the request and its reply; the moment
of the request travels with the entries, and no decision depends on it. The check of the epoch
before a store is inside the critical section of the store.

## Main definitions

* `KaspaExternals`, `UtxoSet`, `SubmitOp`, `SubmitOps`.
* `loadUtxos`, `invalidateUtxoCache`, `attempt`, `submitPayload`.
-/

namespace FoundryIgra

open Rust Concurrency

/-- The libraries of the submitter; an address is its display text. -/
structure KaspaExternals where
  PrivateKey : Type
  Utxo : Type
  Transaction : Type
  hexDecode : String → Except String (List UInt8)
  /-- `kaspa_address_from_private_key`. -/
  addressFromPrivateKey : PrivateKey → KaspaAddressPrefix → Except String String

/-- Unspent outputs, with the moment at which they were requested from the node. -/
structure UtxoSet (lib : KaspaExternals) where
  entries : List lib.Utxo
  requestedAt : ℕ

/-- What `mine_and_build_signed_payload_transaction` is given. -/
structure BuildInput (lib : KaspaExternals) where
  privateKey : lib.PrivateKey
  sourceAddress : String
  networkType : KaspaNetworkType
  payloadHeader : UInt8
  l2data : List UInt8
  txIdPrefix : List UInt8
  timeoutSecs : UInt64
  utxos : List lib.Utxo

/-- The calls of a submission. -/
inductive SubmitOp (lib : KaspaExternals)
  /-- `resolve_kaspa_private_key`. -/
  | resolvePrivateKey (wallet : IgraKaspaWalletConfig)
  /-- `GrpcClient::connect`. -/
  | connect (rpcUrl : String)
  /-- `utxo_cache_epoch.load`. -/
  | loadEpoch
  /-- The critical section that reads the cache. -/
  | readCache (cacheKey : String)
  /-- `get_utxos_by_addresses` is sent. -/
  | requestUtxos (address : String)
  /-- Its reply. -/
  | receiveUtxos (requestedAt : ℕ)
  /-- The critical section that stores what was read, unless the epoch has moved on. -/
  | storeCache (cacheKey : String) (utxos : UtxoSet lib) (readEpoch : UInt64)
      (forceRefresh : Bool)
  /-- The blocking task that mines, builds and signs. -/
  | buildTransaction (input : BuildInput lib)
  /-- `utxo_cache_epoch.fetch_add(1)`. -/
  | fetchAddEpoch
  /-- The critical section that empties the cache. -/
  | clearCache
  /-- `submit_transaction`. -/
  | submitTransaction (transaction : lib.Transaction)

/-- An answer with the moment at which it was given. -/
structure AtMoment (α : Type) where
  value : α
  moment : ℕ

/-- The raw answers; that of `loadEpoch` carries its moment. -/
def SubmitOp.Ans {lib : KaspaExternals} : SubmitOp lib → Type
  | resolvePrivateKey _ => Except String lib.PrivateKey
  | connect _ => Except String Unit
  | loadEpoch => AtMoment UInt64
  | readCache _ => Option (UtxoSet lib)
  | requestUtxos _ => ℕ
  | receiveUtxos _ => Except String (List lib.Utxo)
  | storeCache _ _ _ _ => Unit
  | buildTransaction _ => Except String (Except String (UInt64 × lib.Transaction))
  | fetchAddEpoch => Unit
  | clearCache => Unit
  | submitTransaction _ => Except String String

/-- What the program continues with. -/
def SubmitOp.Out {lib : KaspaExternals} : SubmitOp lib → Type
  | loadEpoch => UInt64
  | op => op.Ans

/-- The calls of a submission; none polls. -/
@[reducible] def SubmitOps (lib : KaspaExternals) : Interface where
  Op := SubmitOp lib
  Ans := SubmitOp.Ans
  Out := SubmitOp.Out
  exit
    | .resolvePrivateKey _, a => some a
    | .connect _, a => some a
    | .loadEpoch, a => some (AtMoment.value a)
    | .readCache _, a => some a
    | .requestUtxos _, a => some a
    | .receiveUtxos _, a => some a
    | .storeCache _ _ _ _, a => some a
    | .buildTransaction _, a => some a
    | .fetchAddEpoch, a => some a
    | .clearCache, a => some a
    | .submitTransaction _, a => some a

/-- Programs over the calls of a submission. -/
abbrev Submission (lib : KaspaExternals) (α : Type) : Type := Program (SubmitOps lib) α

namespace Submission

variable {lib : KaspaExternals} {α β : Type}

/-- A call of a submission. -/
def perform (op : SubmitOp lib) : Submission lib op.Out := Program.perform (I := SubmitOps lib) op

/-- The `?` operator: an error is returned, a value is passed on. -/
def orReturn (r : Except String α) (f : α → Submission lib (Except String β)) :
    Submission lib (Except String β) :=
  match r with
  | .error err => pure (.error err)
  | .ok a => f a

end Submission

open Submission

section Submit

variable {lib : KaspaExternals}

/-- `invalidate_utxo_cache`. -/
def invalidateUtxoCache : Submission lib Unit := do
  perform .fetchAddEpoch
  perform .clearCache

/-- The part of `load_utxos` that reads from the node. -/
def fetchUtxos (cacheKey sourceAddress : String) (readEpoch : UInt64) (forceRefresh : Bool) :
    Submission lib (Except String (UtxoSet lib)) := do
  let requestedAt ← perform (.requestUtxos sourceAddress)
  match ← perform (.receiveUtxos requestedAt) with
  | .error err => pure (.error ("IGRA submit error: failed to load Kaspa UTXOs: " ++ err))
  | .ok entries => do
    perform (.storeCache cacheKey ⟨entries, requestedAt⟩ readEpoch forceRefresh)
    pure (.ok ⟨entries, requestedAt⟩)

/-- `load_utxos`. -/
def loadUtxos (rpcUrl network sourceAddress : String) (forceRefresh : Bool) :
    Submission lib (Except String (UtxoSet lib)) := do
  let cacheKey := rpcUrl ++ "|" ++ network ++ "|" ++ sourceAddress
  let readEpoch ← perform .loadEpoch
  if forceRefresh then fetchUtxos cacheKey sourceAddress readEpoch forceRefresh
  else
    match ← perform (.readCache cacheKey) with
    | some cached => pure (.ok cached)
    | none => fetchUtxos cacheKey sourceAddress readEpoch forceRefresh

/-- What the checks before the attempts have prepared. -/
structure Prepared (lib : KaspaExternals) where
  rpcUrl : String
  network : String
  networkType : KaspaNetworkType
  privateKey : lib.PrivateKey
  sourceAddress : String
  payloadHeader : UInt8
  l2data : List UInt8
  txIdPrefix : List UInt8

/-- The message when no outputs are there to pay with. -/
def insufficientUtxosMessage (sourceAddress : String) (wallet : IgraKaspaWalletConfig) : String :=
  "IGRA submit error: insufficient Kaspa UTXOs for fee payment (source address: " ++
    sourceAddress ++ ")" ++
    if wallet.mnemonic.isSome ∧ wallet.mnemonicPassphrase.isNone then
      "; hint: if this mnemonic was created/imported with a non-empty BIP39 passphrase, set --mnemonic-passphrase-kaspa (or KASPA_MNEMONIC_PASSPHRASE) to match the funded address"
    else ""

/-- The broadcast of an attempt; `next` is what follows when the attempt is given up. -/
def broadcast (forceRefresh : Bool) (payloadNonce : UInt64) (transaction : lib.Transaction)
    (next : Submission lib (Except String IgraSubmitResult)) :
    Submission lib (Except String IgraSubmitResult) := do
  invalidateUtxoCache
  match ← perform (.submitTransaction transaction) with
  | .ok txId => do
    invalidateUtxoCache
    pure (.ok ⟨txId, payloadNonce⟩)
  | .error err =>
    if forceRefresh then pure (.error ("IGRA submit error: " ++ err)) else next

/-- What the building task of an attempt is given. -/
def Prepared.buildInput (p : Prepared lib) (request : IgraSubmitRequest) (utxos : UtxoSet lib) :
    BuildInput lib where
  privateKey := p.privateKey
  sourceAddress := p.sourceAddress
  networkType := p.networkType
  payloadHeader := p.payloadHeader
  l2data := p.l2data
  txIdPrefix := p.txIdPrefix
  timeoutSecs := request.miningTimeoutSecs
  utxos := utxos.entries

/-- An attempt that has outputs to pay with: build, then broadcast. -/
def buildAndBroadcast (input : BuildInput lib) (forceRefresh : Bool)
    (next : Submission lib (Except String IgraSubmitResult)) :
    Submission lib (Except String IgraSubmitResult) := do
  match ← perform (.buildTransaction input) with
  | .error err =>
    pure (.error ("IGRA submit error: failed to join Kaspa tx builder task: " ++ err))
  | .ok built => orReturn built fun r => broadcast forceRefresh r.1 r.2 next

/-- One round of the attempts; only the second forces a refresh. -/
def attempt (request : IgraSubmitRequest) (p : Prepared lib) (forceRefresh : Bool)
    (next : Submission lib (Except String IgraSubmitResult)) :
    Submission lib (Except String IgraSubmitResult) := do
  match ← loadUtxos p.rpcUrl p.network p.sourceAddress forceRefresh with
  | .error err => pure (.error err)
  | .ok utxos =>
    if utxos.entries.isEmpty then
      if forceRefresh then
        pure (.error (insufficientUtxosMessage p.sourceAddress request.kaspaWallet))
      else next
    else buildAndBroadcast (p.buildInput request utxos) forceRefresh next

/-- The two attempts. -/
def attempts (request : IgraSubmitRequest) (p : Prepared lib) :
    Submission lib (Except String IgraSubmitResult) :=
  attempt request p false <| attempt request p true <|
    pure (.error "IGRA submit error: failed to submit Kaspa transaction")

/-- `submit_payload`. -/
def submitPayload (request : IgraSubmitRequest) :
    Submission lib (Except String IgraSubmitResult) :=
  orReturn (buildIgraL2data request.rawTxBytes request.payloadCompression)
    fun (payloadHeader, l2data) =>
  if l2data.length > igraMaxL2dataBytes then
    pure (.error (igraL2dataTooLargeErrorCode ++ ": L2Data size " ++ toString l2data.length ++
      " bytes exceeds max " ++ toString igraMaxL2dataBytes ++ " bytes"))
  else
  orReturn (requiredField "kaspa_rpc_url" request.kaspaRpcUrl) fun rpcUrl =>
  orReturn (requiredField "kaspa_network" request.kaspaNetwork) fun network =>
  orReturn (kaspaNetworkDescriptor network) fun (networkType, addressPrefix) => do
  let key ← perform (.resolvePrivateKey request.kaspaWallet)
  orReturn key fun privateKey =>
    orReturn (lib.addressFromPrivateKey privateKey addressPrefix) fun sourceAddress => do
    match ← perform (.connect rpcUrl) with
    | .error err =>
      pure (.error ("IGRA submit error: failed to connect to Kaspa RPC: " ++ err))
    | .ok _ =>
      orReturn (decodeTxIdPrefix lib.hexDecode request.txIdPrefix) fun txIdPrefix =>
        attempts request
          { rpcUrl := rpcUrl
            network := network
            networkType := networkType
            privateKey := privateKey
            sourceAddress := sourceAddress
            payloadHeader := payloadHeader
            l2data := l2data
            txIdPrefix := txIdPrefix }

end Submit

end FoundryIgra
