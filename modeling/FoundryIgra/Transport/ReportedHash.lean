import FoundryIgra.Transport.Calls
import FoundryIgra.Transport.Session

/-!
# The hash that is reported

A raw send is tracked, submitted and answered under the hash of the bytes in its parameter, while
its sender and nonce come from the transaction that is decoded from the front of these bytes. The
hash is that of the transaction when the transaction is all there is: bytes after it are neither
refused nor cut off, but hashed and submitted with it.

## Main definitions

* `Decodes2718`: what is assumed of the decoder.
* `Reports`: what the requests for a packet track, submit and return.

## Main results

* `reports_iff_exact`: the reported hash is the hash of the transaction exactly when no bytes
  follow it.
-/

namespace FoundryIgra

open Rust Store Concurrency

/-- The decoder reads encoded transactions: it accepts every encoding, whatever follows, and what
it reads from the front of the bytes is an encoding. -/
structure Decodes2718 (lib : Externals) (encode : lib.TxEnvelope → List UInt8) : Prop where
  accepts : ∀ tx rest, lib.decode2718 (encode tx ++ rest) = .ok (tx, rest)
  front : ∀ bytes tx rest, lib.decode2718 bytes = .ok (tx, rest) → bytes = encode tx ++ rest

/-- The hash of a transaction is that of its encoding. -/
def txHash (lib : Externals) (encode : lib.TxEnvelope → List UInt8) (tx : lib.TxEnvelope) :
    String :=
  "0x" ++ hexEncode (lib.keccak256 (encode tx))

/-- What is recorded, locked and submitted has the hash `hash`, and what is submitted are the
bytes `bytes`. -/
def ConcernsTx (hash : String) (bytes : List UInt8) : TransportOp → Prop
  | .innerCall _ => False
  | .persist _ update => update.l2TxHash = hash
  | .pollLock t _ => t.l2TxHash = hash
  | .enterSubmit request => request.l2TxHash = hash ∧ request.rawTxBytes = bytes
  | .leaveSubmit request => request.l2TxHash = hash ∧ request.rawTxBytes = bytes
  | _ => True

/-- Every request for the packet, through any enabled transport and whatever is answered, makes
only calls for the hash and the bytes, and the response to its id, if it succeeds, is the hash. -/
def Reports (lib : Externals) (packet : RequestPacket) (id : Id) (hash : String)
    (bytes : List UInt8) : Prop :=
  ∀ (self : IgraTransport) stamp, self.enabled = true →
    ∀ es q, Program.Trace (self.request lib stamp packet) es q →
      (∀ op, q.status = .inl op → ConcernsTx hash bytes op) ∧
        ∀ response, q.status = .inr (.ok response) →
          successL2TxHashResponse lib id hash = .ok response

section Reported

variable {lib : Externals} {packet : RequestPacket} {rawSend : RawSendRequest}

/-- A packet that is accepted reports the hash in its metadata, and its bytes. -/
theorem reports_of_accepted (h : rawSendRequest lib packet = .ok (some rawSend)) :
    Reports lib packet rawSend.id rawSend.metadata.l2TxHash rawSend.rawTx := by
  intro self stamp henabled es q ht
  have hroute := IgraTransport.route_eq_send_iff.mpr ⟨henabled, h⟩
  obtain ⟨hcalls, hreturns⟩ := (makes_request stamp hroute).of_trace ht
  refine ⟨fun op hop => ?_, fun response hresponse => hreturns _ hresponse response rfl⟩
  have hop := hcalls op hop
  cases op with
  | innerCall packet => exact hop
  | persist store update =>
    obtain ⟨t, ht, -, hupdate⟩ := hop
    exact hupdate.trans (exists_of_trackedSend ht).1
  | startAcquire store => trivial
  | pollLock t deadlineMs => exact (exists_of_trackedSend hop).1
  | enterSubmit request =>
    obtain ⟨txIdPrefix, -, rfl⟩ := hop
    exact ⟨rfl, rfl⟩
  | leaveSubmit request =>
    obtain ⟨txIdPrefix, -, rfl⟩ := hop
    exact ⟨rfl, rfl⟩
  | markSubmitted store sender nonce => trivial
  | release store sender ownerId => trivial

/-- A transport without a store. -/
def untrackedTransport : IgraTransport := { IgraTransport.new true with txIdPrefix := some "97b1" }

/-- What an accepted packet reports are its bytes: without a store it submits them at once. -/
theorem rawTx_eq_of_reports (h : rawSendRequest lib packet = .ok (some rawSend)) {id : Id}
    {hash : String} {bytes : List UInt8} (hreports : Reports lib packet id hash bytes) :
    rawSend.rawTx = bytes := by
  have hroute := IgraTransport.route_eq_send_iff.mpr ⟨(rfl : untrackedTransport.enabled = true), h⟩
  have hcall := (hreports untrackedTransport ⟨0, 0, 0⟩ rfl [] _ .nil).1
  rw [IgraTransport.request, hroute] at hcall
  exact (hcall _ rfl).2

/-- The metadata of an accepted packet have the hash of its bytes. -/
theorem exists_decoded (h : rawSendRequest lib packet = .ok (some rawSend)) :
    rawSend.metadata.l2TxHash = "0x" ++ hexEncode (lib.keccak256 rawSend.rawTx) ∧
      ∃ tx rest, lib.decode2718 rawSend.rawTx = .ok (tx, rest) := by
  obtain ⟨-, -, -, -, -, -, -, -, hmeta⟩ := rawSendRequest_eq_some h
  obtain ⟨tx, rest, sender, hdecode, -, hmeta⟩ := rawTxMetadataFromRawTx_eq_ok hmeta
  exact ⟨congrArg RawTxMetadata.l2TxHash hmeta, tx, rest, hdecode⟩

/-- **The reported hash is the transaction's hash** exactly when the decoder leaves no bytes
behind. Then any other parameter that is the same transaction has the same hash. -/
theorem reports_iff_exact {encode : lib.TxEnvelope → List UInt8} (hdec : Decodes2718 lib encode)
    (h : rawSendRequest lib packet = .ok (some rawSend)) :
    ∃ tx rest, lib.decode2718 rawSend.rawTx = .ok (tx, rest) ∧
      (Reports lib packet rawSend.id (txHash lib encode tx) (encode tx) ↔ rest = []) ∧
      (rest = [] → ∀ packet' rawSend', rawSendRequest lib packet' = .ok (some rawSend') →
        lib.decode2718 rawSend'.rawTx = .ok (tx, []) →
          rawSend'.metadata.l2TxHash = rawSend.metadata.l2TxHash) := by
  obtain ⟨hhash, tx, rest, hdecode⟩ := exists_decoded h
  have hbytes : rawSend.rawTx = encode tx ++ rest := hdec.front _ _ _ hdecode
  refine ⟨tx, rest, hdecode, ⟨fun hreports => ?_, ?_⟩, ?_⟩
  · have hexact : encode tx ++ rest = encode tx :=
      hbytes.symm.trans (rawTx_eq_of_reports h hreports)
    exact List.append_right_eq_self.mp hexact
  · rintro rfl
    have hreports := reports_of_accepted h
    rw [hhash, hbytes, List.append_nil] at hreports
    exact hreports
  · rintro rfl packet' rawSend' h' hdecode'
    have hbytes' : rawSend'.rawTx = encode tx ++ [] := hdec.front _ _ _ hdecode'
    rw [(exists_decoded h').1, hhash, hbytes, hbytes']

end Reported

/-! ### A byte too many -/

section Trailing

/-- The libraries at the sample transaction, with and without a zero byte after it. -/
def trailingExternals : Externals where
  TxEnvelope := Unit
  keccak256 bytes :=
    if bytes = sampleRawTx ++ [0x00] then
      [0x32, 0x03, 0xe9, 0x40, 0x2a, 0xf9, 0x03, 0x8b, 0x38, 0x81, 0x90, 0x78, 0x96, 0x60, 0xd3,
        0x5a, 0x5b, 0x41, 0x38, 0xf4, 0xdd, 0x13, 0xc6, 0x9d, 0xe6, 0x09, 0xe3, 0x47, 0x8b, 0x20,
        0x4f, 0x9a]
    else sampleKeccak256 bytes
  parseParams raw :=
    if raw = "[\"0xc98080808080801b010100\"]" then .ok [.string "0xc98080808080801b010100"]
    else sampleExternals.parseParams raw
  hexDecode := decodeHexDigits
  decode2718 bytes :=
    if sampleRawTx.isPrefixOf bytes then .ok ((), bytes.drop 10) else .error "unexpected type flag"
  recoverSigner _ := .ok sampleSender
  nonce _ := 0
  serializeRequest := sampleExternals.serializeRequest
  rawJsonString := sampleExternals.rawJsonString

/-- The encoding of the sample transaction. -/
def sampleEncode (_ : trailingExternals.TxEnvelope) : List UInt8 := sampleRawTx

theorem decodes2718_trailing : Decodes2718 trailingExternals sampleEncode where
  accepts tx rest := by
    have hfront : sampleRawTx.isPrefixOf (sampleRawTx ++ rest) = true :=
      List.isPrefixOf_iff_prefix.mpr (List.prefix_append ..)
    simp only [trailingExternals, sampleEncode, hfront, if_true]
    rfl
  front bytes tx rest h := by
    simp only [trailingExternals] at h
    split_ifs at h with hfront
    obtain ⟨tail, rfl⟩ := List.isPrefixOf_iff_prefix.mp hfront
    obtain ⟨-, rfl⟩ := Prod.mk.inj (Except.ok.inj h)
    rfl

/-- The request to send the sample transaction with a byte after it. -/
def trailingPacket : RequestPacket :=
  .single ⟨"eth_sendRawTransaction", .number 1, some "[\"0xc98080808080801b010100\"]"⟩

/-- The request to send the sample transaction. -/
def exactPacket : RequestPacket :=
  .single ⟨"eth_sendRawTransaction", .number 1, some "[\"0xc98080808080801b0101\"]"⟩

/-- What is accepted of it. -/
def trailingRawSend : RawSendRequest where
  id := .number 1
  rawTx := sampleRawTx ++ [0x00]
  metadata :=
    { l2TxHash := "0x3203e9402af9038b388190789660d35a5b4138f4dd13c69de609e3478b204f9a"
      sender := some sampleSender
      nonce := some 0 }

/-- What is accepted of the request without it. -/
def exactRawSend : RawSendRequest where
  id := .number 1
  rawTx := sampleRawTx
  metadata := { l2TxHash := sampleHash, sender := some sampleSender, nonce := some 0 }

theorem accepted_trailingPacket :
    rawSendRequest trailingExternals trailingPacket = .ok (some trailingRawSend) := by
  decide +kernel

theorem accepted_exactPacket :
    rawSendRequest trailingExternals exactPacket = .ok (some exactRawSend) := by
  decide +kernel

/-- A byte after the transaction is accepted, and hashed and submitted with it. The two parameters
decode to one transaction and get different hashes. -/
theorem reports_trailing_byte :
    Decodes2718 trailingExternals sampleEncode ∧
    rawSendRequest trailingExternals trailingPacket = .ok (some trailingRawSend) ∧
    trailingExternals.decode2718 trailingRawSend.rawTx = .ok ((), [0x00]) ∧
    ¬Reports trailingExternals trailingPacket trailingRawSend.id
      (txHash trailingExternals sampleEncode ()) (sampleEncode ()) ∧
    rawSendRequest trailingExternals exactPacket = .ok (some exactRawSend) ∧
    trailingExternals.decode2718 exactRawSend.rawTx = .ok ((), []) ∧
    trailingRawSend.metadata.l2TxHash ≠ exactRawSend.metadata.l2TxHash := by
  refine ⟨decodes2718_trailing, accepted_trailingPacket, rfl, fun hreports => ?_,
    accepted_exactPacket, rfl, by decide⟩
  exact absurd (rawTx_eq_of_reports accepted_trailingPacket hreports) (by decide)

/-- Without the byte the hash of the transaction is reported. -/
theorem reports_iff_exact_sample :
    Reports trailingExternals exactPacket (.number 1) sampleHash sampleRawTx := by
  obtain ⟨tx, rest, hdecode, hreports, -⟩ :=
    reports_iff_exact decodes2718_trailing accepted_exactPacket
  obtain ⟨-, hrest⟩ := Prod.mk.inj (Except.ok.inj hdecode)
  have hhash : txHash trailingExternals sampleEncode () = sampleHash := by decide +kernel
  exact hhash ▸ hreports.mpr hrest.symm

end Trailing

end FoundryIgra
