import FoundryIgra.Transport.Config

/-!
# Packets and their interception

The shapes of JSON-RPC packets and the four interception stages of `IgraTransport::request` before
it starts to send (`transport.rs`): the fee override and the raw-send extraction look at a single
request, the rejection scan looks at every request of a packet, and what falls through is
forwarded. `route` is the outcome of the stages.

The libraries are parameters (`Externals`): hashing, JSON, hexadecimal decoding, decoding of signed
transactions and the serialization of requests and responses.

## Main definitions

* `RequestPacket`, `ResponsePacket`, `RawIgraTxType`, `Externals`.
* `rawTxBytes`, `rawTxType`, `requestRejectionReason`, `rejectionReason`, `rawSendRequest`.
* `Route`, `IgraTransport.route`.

## Main results

* `rawSendRequest_eq_some`: what `raw_send_request` accepts.
* `IgraTransport.route_eq_send_iff`: the packets that the transport takes over.
-/

namespace FoundryIgra

open Rust Store

/-! ### Packets -/

/-- A JSON-RPC id. -/
inductive Id
  | number (n : UInt64)
  | string (s : String)
  | none
  deriving DecidableEq

/-- A serialized request; the parameters are raw JSON. -/
structure SerializedRequest where
  method : String
  id : Id
  params : Option String
  deriving DecidableEq

/-- A single request or a batch. -/
inductive RequestPacket
  | single (request : SerializedRequest)
  | batch (requests : List SerializedRequest)
  deriving DecidableEq

/-- `RequestPacket::as_single`. -/
def RequestPacket.asSingle : RequestPacket → Option SerializedRequest
  | single request => some request
  | batch _ => none

/-- `RequestPacket::requests`. -/
def RequestPacket.requests : RequestPacket → List SerializedRequest
  | single request => [request]
  | batch requests => requests

/-- The payload of a response, as raw JSON. -/
inductive ResponsePayload
  | success (payload : String)
  | failure (payload : String)
  deriving DecidableEq

/-- A response. -/
structure Response where
  id : Id
  payload : ResponsePayload
  deriving DecidableEq

/-- A single response or a batch. -/
inductive ResponsePacket
  | single (response : Response)
  | batch (responses : List Response)
  deriving DecidableEq

/-- An error of a transport, as its display text. -/
abbrev TransportError := String

/-! ### The libraries -/

/-- A parsed JSON value, as far as the program looks into it. -/
inductive JsonValue
  | string (s : String)
  | other

/-- `Value::as_str`. -/
def JsonValue.asStr : JsonValue → Option String
  | string s => some s
  | other => none

/-- The functions of the libraries that the transport calls; errors are texts. -/
structure Externals where
  /-- Decoded signed transactions. -/
  TxEnvelope : Type
  keccak256 : List UInt8 → List UInt8
  /-- Parses raw JSON as an array of values. -/
  parseParams : String → Except String (List JsonValue)
  hexDecode : String → Except String (List UInt8)
  /-- Decodes one transaction from the front of the bytes, and returns the bytes that remain. -/
  decode2718 : List UInt8 → Except String (TxEnvelope × List UInt8)
  /-- The signer in lower-case `0x` form. -/
  recoverSigner : TxEnvelope → Except String String
  nonce : TxEnvelope → UInt64
  /-- `Request::new(method, id, ()).serialize()`. -/
  serializeRequest : String → Id → Except String SerializedRequest
  /-- A string as raw JSON. -/
  rawJsonString : String → Except String String

/-! ### Raw transactions -/

/-- The envelope types that the first byte of a raw transaction tells apart. -/
inductive RawIgraTxType
  | legacy
  | eip2930
  | eip1559
  | eip4844
  | eip7702
  | unknown (ty : UInt8)
  deriving DecidableEq

/-- `tx_type_nibble`. -/
def RawIgraTxType.txTypeNibble : RawIgraTxType → Option UInt8
  | legacy => some 0
  | eip2930 => some 1
  | eip1559 => some 2
  | eip4844 => none
  | eip7702 => none
  | unknown _ => none

/-- Error returned when unsupported send methods are used in IGRA mode. -/
def igraSendTransactionUnsupportedError : String :=
  "IGRA mode requires raw signed transactions; eth_sendTransaction* is not supported"

/-- Error returned for blob transactions. -/
def igraEip4844UnsupportedError : String :=
  "IGRA unsupported transaction type: EIP-4844 (blob transactions)"

/-- Error returned for EIP-7702 envelopes. -/
def igraEip7702UnsupportedError : String := "IGRA unsupported transaction type: EIP-7702"

/-- `strip_prefix("0x").unwrap_or(…)`. -/
def strip0x (s : String) : String :=
  match s.toList with
  | '0' :: 'x' :: cs => String.ofList cs
  | _ => s

/-- The metadata of a raw transaction. -/
structure RawTxMetadata where
  l2TxHash : String
  sender : Option String
  nonce : Option UInt64
  deriving DecidableEq

/-- A raw-send request that the transport takes over. -/
structure RawSendRequest where
  id : Id
  rawTx : List UInt8
  metadata : RawTxMetadata
  deriving DecidableEq

section Interception

variable (lib : Externals)

/-- `raw_tx_bytes`. -/
def rawTxBytes (request : SerializedRequest) : Except String (List UInt8) :=
  match request.params with
  | none => .error "missing params"
  | some raw =>
    match lib.parseParams raw with
    | .error err => .error ("invalid params JSON: " ++ err)
    | .ok params =>
      match params.head?.bind JsonValue.asStr with
      | none => .error "expected params[0] hex string"
      | some encoded =>
        match lib.hexDecode (strip0x encoded) with
        | .error err => .error ("invalid raw tx hex: " ++ err)
        | .ok bytes => .ok bytes

/-- The envelope type of a first byte; legacy transactions are lists, from `0xc0` on. -/
def firstByteType (first : UInt8) : RawIgraTxType :=
  if first ≥ 0xc0 then .legacy
  else if first = 0x01 then .eip2930
  else if first = 0x02 then .eip1559
  else if first = 0x03 then .eip4844
  else if first = 0x04 then .eip7702
  else .unknown first

/-- `raw_tx_type`. -/
def rawTxType (request : SerializedRequest) : Except String RawIgraTxType := do
  let rawTx ← rawTxBytes lib request
  match rawTx.head? with
  | none => .error "empty raw transaction bytes"
  | some first => .ok (firstByteType first)

/-- `is_unsupported_method`. -/
def isUnsupportedMethod (method : String) : Bool :=
  method ∈ ["eth_sendTransaction", "eth_sendTransactionSync", "eth_sendRawTransactionSync"]

/-- `request_rejection_reason`. -/
def requestRejectionReason (request : SerializedRequest) : Option String :=
  if isUnsupportedMethod request.method then some igraSendTransactionUnsupportedError
  else if request.method ≠ "eth_sendRawTransaction" then none
  else
    match rawTxType lib request with
    | .ok .legacy => none
    | .ok .eip2930 => none
    | .ok .eip1559 => none
    | .ok .eip4844 => some igraEip4844UnsupportedError
    | .ok .eip7702 => some igraEip7702UnsupportedError
    | .ok (.unknown ty) => some ("IGRA unsupported transaction type: 0x" ++ hexEncode [ty])
    | .error err => some ("IGRA raw transaction decode error: " ++ err)

/-- `raw_tx_metadata_from_raw_tx`; the bytes after the decoded transaction are not looked at. -/
def rawTxMetadataFromRawTx (rawTx : List UInt8) : Except String RawTxMetadata :=
  let l2TxHash := "0x" ++ hexEncode (lib.keccak256 rawTx)
  match lib.decode2718 rawTx with
  | .error err => .error ("invalid raw tx bytes (EIP-2718 decode failed): " ++ err)
  | .ok (decoded, _) =>
    match lib.recoverSigner decoded with
    | .error err => .error ("invalid raw tx signature (failed to recover signer): " ++ err)
    | .ok sender => .ok ⟨l2TxHash, some sender, some (lib.nonce decoded)⟩

/-- `single_send_raw_request`. -/
def singleSendRawRequest : RequestPacket → Option SerializedRequest
  | .single request => if request.method = "eth_sendRawTransaction" then some request else none
  | .batch _ => none

/-- `raw_send_request`. -/
def rawSendRequest (packet : RequestPacket) : Except String (Option RawSendRequest) :=
  match singleSendRawRequest packet with
  | none => .ok none
  | some request => do
    let rawTx ← rawTxBytes lib request
    let ty ← rawTxType lib request
    match ty.txTypeNibble with
    | none => .error "unsupported tx type for IGRA payload header"
    | some _ =>
      let metadata ← rawTxMetadataFromRawTx lib rawTx
      .ok (some ⟨request.id, rawTx, metadata⟩)

/-- What the interception stages decide for a packet. -/
inductive Route
  | forward (packet : RequestPacket)
  | reject (reason : String)
  | send (rawSend : RawSendRequest)

namespace IgraTransport

variable (self : IgraTransport)

/-- `rejection_reason`. -/
def rejectionReason (packet : RequestPacket) : Option String :=
  if self.enabled then packet.requests.findSome? (requestRejectionReason lib) else none

/-- The fee override: a single `eth_maxPriorityFeePerGas` request goes on as `eth_gasPrice`. -/
def feeOverride (packet : RequestPacket) : Option Route :=
  if self.enabled then
    packet.asSingle.bind fun single =>
      if single.method = "eth_maxPriorityFeePerGas" then
        match lib.serializeRequest "eth_gasPrice" single.id with
        | .ok request => some (.forward (.single request))
        | .error err => some (.reject
            ("IGRA fee override error: failed to build eth_gasPrice request: " ++ err))
      else none
  else none

/-- The interception stages of `IgraTransport::request`, in order. -/
def route (packet : RequestPacket) : Route :=
  match self.feeOverride lib packet with
  | some r => r
  | none =>
    match self.rejectionReason lib packet with
    | some reason => .reject reason
    | none =>
      if self.enabled then
        match rawSendRequest lib packet with
        | .error err => .reject err
        | .ok (some rawSend) => .send rawSend
        | .ok none => .forward packet
      else .forward packet

end IgraTransport

end Interception

/-! ### What is taken over -/

section TakenOver

variable {lib : Externals}

theorem rawTxMetadataFromRawTx_eq_ok {rawTx : List UInt8} {metadata : RawTxMetadata}
    (h : rawTxMetadataFromRawTx lib rawTx = .ok metadata) :
    ∃ tx rest sender, lib.decode2718 rawTx = .ok (tx, rest) ∧ lib.recoverSigner tx = .ok sender ∧
      metadata =
        ⟨"0x" ++ hexEncode (lib.keccak256 rawTx), some sender, some (lib.nonce tx)⟩ := by
  rw [rawTxMetadataFromRawTx] at h
  cases hdecode : lib.decode2718 rawTx with
  | error err => simp [hdecode] at h
  | ok decoded =>
    cases hsigner : lib.recoverSigner decoded.1 with
    | error err => simp [hdecode, hsigner] at h
    | ok sender =>
      simp only [hdecode, hsigner, Except.ok.injEq] at h
      exact ⟨decoded.1, decoded.2, sender, rfl, hsigner, h.symm⟩

/-- What `raw_send_request` accepts. -/
theorem rawSendRequest_eq_some {packet : RequestPacket} {rawSend : RawSendRequest}
    (h : rawSendRequest lib packet = .ok (some rawSend)) :
    ∃ request ty nibble, packet = .single request ∧ request.method = "eth_sendRawTransaction" ∧
      rawTxBytes lib request = .ok rawSend.rawTx ∧ rawTxType lib request = .ok ty ∧
      ty.txTypeNibble = some nibble ∧
      rawTxMetadataFromRawTx lib rawSend.rawTx = .ok rawSend.metadata := by
  rw [rawSendRequest] at h
  cases packet with
  | batch requests => simp [singleSendRawRequest] at h
  | single request =>
    by_cases hmethod : request.method = "eth_sendRawTransaction"
    · cases hbytes : rawTxBytes lib request with
      | error err => simp [singleSendRawRequest, hmethod, hbytes, bind, Except.bind] at h
      | ok rawTx =>
        cases htype : rawTxType lib request with
        | error err =>
          simp [singleSendRawRequest, hmethod, hbytes, htype, bind, Except.bind] at h
        | ok ty =>
          cases hnibble : ty.txTypeNibble with
          | none =>
            simp [singleSendRawRequest, hmethod, hbytes, htype, hnibble, bind, Except.bind] at h
          | some nibble =>
            cases hmeta : rawTxMetadataFromRawTx lib rawTx with
            | error err =>
              simp [singleSendRawRequest, hmethod, hbytes, htype, hnibble, hmeta, bind,
                Except.bind] at h
            | ok metadata =>
              simp only [singleSendRawRequest, hmethod, hbytes, htype, hnibble, hmeta, bind,
                Except.bind, if_true, Except.ok.injEq, Option.some.injEq] at h
              subst h
              exact ⟨request, ty, nibble, rfl, hmethod, hbytes, htype, hnibble, hmeta⟩
    · simp [singleSendRawRequest, hmethod] at h

theorem requestRejectionReason_of_nibble {request : SerializedRequest} {ty : RawIgraTxType}
    {nibble : UInt8} (hmethod : request.method = "eth_sendRawTransaction")
    (htype : rawTxType lib request = .ok ty) (hnibble : ty.txTypeNibble = some nibble) :
    requestRejectionReason lib request = none := by
  have hsupported : isUnsupportedMethod request.method = false := by
    rw [hmethod]
    decide
  rw [requestRejectionReason, hsupported, htype]
  cases ty with
  | legacy => simp [hmethod]
  | eip2930 => simp [hmethod]
  | eip1559 => simp [hmethod]
  | eip4844 => cases hnibble
  | eip7702 => cases hnibble
  | unknown b => cases hnibble

theorem IgraTransport.feeOverride_ne_send (self : IgraTransport) (packet : RequestPacket)
    (rawSend : RawSendRequest) : self.feeOverride lib packet ≠ some (.send rawSend) := by
  rw [feeOverride]
  split_ifs
  · cases packet.asSingle with
    | none => nofun
    | some single =>
      rw [Option.bind_some]
      split_ifs
      · cases lib.serializeRequest "eth_gasPrice" single.id with
        | ok request => simp
        | error err => simp
      · nofun
  · nofun

/-- The packets that the transport takes over are those that `raw_send_request` accepts. -/
theorem IgraTransport.route_eq_send_iff {self : IgraTransport} {packet : RequestPacket}
    {rawSend : RawSendRequest} : self.route lib packet = .send rawSend ↔
      self.enabled = true ∧ rawSendRequest lib packet = .ok (some rawSend) := by
  constructor
  · intro h
    rw [route] at h
    cases hfee : self.feeOverride lib packet with
    | some r =>
      simp only [hfee] at h
      exact absurd (h ▸ hfee) (self.feeOverride_ne_send packet rawSend)
    | none =>
      cases hreason : self.rejectionReason lib packet with
      | some reason => simp [hfee, hreason] at h
      | none =>
        simp only [hfee, hreason] at h
        split_ifs at h with henabled
        refine ⟨henabled, ?_⟩
        cases hraw : rawSendRequest lib packet with
        | error err => simp [hraw] at h
        | ok o =>
          cases o with
          | none => simp [hraw] at h
          | some r =>
            simp only [hraw, Route.send.injEq] at h
            rw [h]
  · rintro ⟨henabled, hraw⟩
    obtain ⟨request, ty, nibble, rfl, hmethod, -, htype, hnibble, -⟩ := rawSendRequest_eq_some hraw
    have hfee : self.feeOverride lib (.single request) = none := by
      simp [feeOverride, henabled, RequestPacket.asSingle, hmethod]
    have hreason : self.rejectionReason lib (.single request) = none := by
      simp [rejectionReason, henabled, RequestPacket.requests,
        requestRejectionReason_of_nibble hmethod htype hnibble]
    simp only [route, hfee, hreason, henabled, hraw, if_true]

end TakenOver

end FoundryIgra
